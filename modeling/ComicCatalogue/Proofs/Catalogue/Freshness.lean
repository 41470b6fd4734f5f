import ComicCatalogue.Proofs.Catalogue.Steps

/-!
# How old answers are

The sources may differ from request to request, so an answer that is kept may be out of date. It is
never older than the lifetime of its cache, and a purge that covers it ends it.
-/

namespace ComicCatalogue

namespace Askings

variable {past : List Catalogue.Record} {record : Catalogue.Record} {inquiry : Inquiry}
  {source : Source} {moment : Nat}

/-- The inquiries of earlier records whose answers no later one of them purged. -/
def unpurged (past : List Catalogue.Record) : Askings :=
  fun inquiry source moment => ∃ before origin since,
    past = before ++ origin :: since ∧ inquiry ∈ origin.inquiries ∧ source = origin.source ∧
      moment = origin.now ∧ ∀ record ∈ since, ¬ record.request.Purges inquiry

theorem unpurged_of_after (wasAsked : (unpurged past).after record inquiry source moment) :
    unpurged (past ++ [record]) inquiry source moment := by
  rcases wasAsked with ⟨⟨before, origin, since, rfl, made, sameSource, sameMoment, kept⟩, keeps⟩ |
    ⟨made, sameSource, sameMoment⟩
  · refine ⟨before, origin, since ++ [record], by simp, made, sameSource, sameMoment, ?_⟩
    intro later member
    rcases List.mem_append.mp member with old | new
    · exact kept later old
    · rwa [List.mem_singleton.mp new]
  · exact ⟨past, record, [], rfl, made, sameSource, sameMoment, by simp⟩

end Askings

namespace Catalogue

variable {settings : Settings} {texts : List String}

/-- In every session of a backed catalogue, what is given as the answer of a source is recent. -/
theorem Backed.isRecent_session (noCollision : NoCollision texts) {events : List Event}
    {catalogue : Catalogue} {earlier past future : List Record} {record : Record}
    (backed : Backed settings texts (.unpurged earlier) catalogue)
    (known : (catalogue.session events).flatMap Record.texts ⊆ texts)
    (split : catalogue.session events = past ++ record :: future) :
    record.IsRecent settings (.unpurged (earlier ++ past)) := by
  -- What was asked and not purged before an event is the invariant of the session.
  induction events generalizing catalogue earlier past with
  | nil => simp [session] at split
  | cons event rest ih =>
    rw [session, List.flatMap_cons, List.append_subset] at known
    obtain ⟨backedAfter, recent, _⟩ := backed_step noCollision event backed known.1
    rw [session] at split
    cases past with
    | nil =>
      obtain ⟨rfl, _⟩ := List.cons.inj split
      rwa [List.append_nil]
    | cons first past =>
      obtain ⟨rfl, splitRest⟩ := List.cons.inj split
      have recentRest := ih (backedAfter.mono fun _ _ _ => Askings.unpurged_of_after) known.2
        splitRest
      rwa [List.append_assoc] at recentRest

/-- In every session, whatever the sources are, each listing, archive and listing of entries is what
a source answered to the same request: at the same step, or at an earlier one that was less than the
lifetime of the cache ago, if no request in between purged the answer. -/
theorem session_isRecent (settings : Settings) (events : List Event) (past future : List Record)
    (record : Record)
    (noCollision : NoCollision (((ofSettings settings).session events).flatMap Record.texts))
    (split : (ofSettings settings).session events = past ++ record :: future) :
    record.IsRecent settings (.unpurged past) :=
  (backed_ofSettings (.unpurged [])).isRecent_session noCollision (List.Subset.refl _) split

/-- An archive looked up twice and entries listed once, with a source that fails from the second
request on. -/
theorem session_isRecent_failing :
    let early : Source := {
      select := fun _ => .ok ⟨[], 0⟩
      archive := fun _ _ => .ok none
      entries := fun _ _ _ => .ok ⟨[], 0⟩ }
    let late : Source := {
      select := fun _ => .error (.persistence "busy")
      archive := fun _ _ => .error (.persistence "busy")
      entries := fun _ _ _ => .error (.persistence "busy") }
    ∃ first second third : Record,
      (ofSettings {}).session [⟨early, 0, .archive 0 []⟩, ⟨late, 5, .archive 0 []⟩,
        ⟨late, 6, .entries .tag 0 0⟩] = [first, second, third] ∧
      second.IsRecent {} (.unpurged [first]) := by
  intro early late
  have noCollision : NoCollision (((ofSettings {}).session [⟨early, 0, .archive 0 []⟩,
      ⟨late, 5, .archive 0 []⟩, ⟨late, 6, .entries .tag 0 0⟩]).flatMap Record.texts) :=
    noCollision_all_none.mono (by decide +kernel)
  exact ⟨_, _, _, rfl, session_isRecent {} _ [_] [_] _ noCollision rfl⟩

end Catalogue

end ComicCatalogue
