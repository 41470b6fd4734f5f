import ComicCatalogue.Proofs.Catalogue.Steps

/-!
# Keeping answers is not seen

As long as the source stays the same, a catalogue answers every request as one would that keeps
nothing and puts every inquiry to the source. Only the number of entries that a purge removes tells
the two apart.
-/

namespace ComicCatalogue.Catalogue

variable {settings : Settings} {texts : List String} {source : Source}

/-- A backed catalogue that has asked one source only answers as this source does. -/
theorem Backed.answers_session (noCollision : NoCollision texts) {events : List Event}
    {catalogue : Catalogue} {asked : Askings} (backed : Backed settings texts asked catalogue)
    (only : asked.Only source) (fixed : ∀ event ∈ events, event.source = source)
    (known : (catalogue.session events).flatMap Record.texts ⊆ texts) :
    (catalogue.session events).map (·.answer.withoutCount) =
      events.map (source.answer settings ·.request) := by
  induction events generalizing catalogue asked with
  | nil => rfl
  | cons event rest ih =>
    rw [session, List.flatMap_cons, List.append_subset] at known
    obtain rfl := fixed event List.mem_cons_self
    obtain ⟨backedAfter, _, same⟩ := backed_step noCollision event backed known.1
    have onlyAfter := only.after (catalogue.step event).1 rfl
    rw [session, List.map_cons, List.map_cons, same only,
      ih backedAfter onlyAfter (fun later member => fixed later (List.mem_cons_of_mem _ member))
        known.2]

/-- In every session with one source, each answer is that of a catalogue that keeps nothing. -/
theorem session_answers (settings : Settings) (source : Source) (events : List Event)
    (fixed : ∀ event ∈ events, event.source = source)
    (noCollision : NoCollision (((ofSettings settings).session events).flatMap Record.texts)) :
    ((ofSettings settings).session events).map (·.answer.withoutCount) =
      events.map (source.answer settings ·.request) :=
  (backed_ofSettings fun _ other _ => other = source).answers_session noCollision
    (fun _ _ _ => id) fixed (List.Subset.refl _)

/-- A source that knows a tag and fails at everything else, with an archive looked up before and
after a purge. -/
theorem session_answers_failing :
    let source : Source := {
      select := fun _ => .error (.persistence "busy")
      archive := fun _ _ => .error (.persistence "busy")
      entries := fun taxonomy _ _ =>
        if taxonomy = .tag then .ok ⟨[{ id := 1, name := "Cat", slug := "cat" }], 1⟩
        else .error (.persistence "busy") }
    let events : List Event := [⟨source, 0, .parse "Cat"⟩, ⟨source, 1, .archive 0 []⟩,
      ⟨source, 2, .purge "*" none⟩, ⟨source, 3, .archive 0 []⟩]
    (∀ event ∈ events, event.source = source) ∧
      ((ofSettings {}).session events).map (·.answer.withoutCount) =
        events.map (source.answer {} ·.request) := by
  intro source events
  have fixed : ∀ event ∈ events, event.source = source := by
    intro event member
    simp only [events, List.mem_cons, List.not_mem_nil, or_false] at member
    rcases member with rfl | rfl | rfl | rfl <;> rfl
  have noCollision : NoCollision (((ofSettings {}).session events).flatMap Record.texts) :=
    noCollision_all_none.mono (by decide +kernel)
  exact ⟨fixed, session_answers {} source events fixed noCollision⟩

end ComicCatalogue.Catalogue
