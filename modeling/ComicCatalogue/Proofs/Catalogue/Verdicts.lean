import ComicCatalogue.Proofs.Catalogue.Directory

/-!
# How old verdicts are

A verdict on a name is kept until all are forgotten, however long the listing that it rests on has
expired. Where no verdict is kept, the directory asks for a listing that is not older than its
lifetime, so the answer is right as soon as the entries have not changed for that long.
-/

namespace ComicCatalogue

/-- The inquiries of some steps: any that were put to a step's source at its moment. -/
def Askings.ofContexts (contexts : List Context) : Askings :=
  fun _ source moment => ⟨source, moment⟩ ∈ contexts

namespace Directory

/-- What the directory can be asked to do. -/
inductive Request where
  | list (taxonomy : Taxonomy) (limit offset : Int)
  | knows (taxonomy : Taxonomy) (text : String)
  | understand (text : String) (draft : Draft)

/-- Carries out a request, whatever the answer is. -/
def perform : Request → Service Directory Unit
  | .list taxonomy limit offset => (fun _ => ()) <$> list taxonomy limit offset
  | .knows taxonomy text => (fun _ => ()) <$> knows taxonomy text
  | .understand text draft => (fun _ => ()) <$> understand text draft

/-- A request, its moment, and the source that there is at this moment. -/
structure Event extends Context where
  request : Request

/-- The directory after events in turn. -/
def after (directory : Directory) (events : List Event) : Directory :=
  events.foldl (fun directory event =>
    ((perform event.request).run event.source event.now directory).2.1) directory

/-- The texts whose hashes are needed to carry out a request. -/
def Request.texts : Request → List String
  | list taxonomy limit offset => [(EntryRequest.ofNumbers taxonomy limit offset).text]
  | _ => [(EntryRequest.all .tag).text]

variable {texts : List String} {lifetime : Nat} {asked : Askings} {context : Context}

theorem backed_new (name : String) (capacity : Nat) :
    Backed texts lifetime asked { listings := .empty name capacity lifetime } where
  lifetime := rfl
  listings _ member := absurd member List.not_mem_nil
  verdicts _ member := absurd member List.not_mem_nil
  memo := Slug.Memo.sound_empty

section

variable (noCollision : NoCollision texts)
include noCollision

/-- Every request keeps the directory backed. -/
theorem ensures_perform (request : Request) (known : request.texts ⊆ texts) :
    Service.Ensures (Backed texts lifetime) asked context (perform request) fun _ _ => True := by
  cases request with
  | list taxonomy limit offset =>
    exact (ensures_list noCollision taxonomy limit offset (known List.mem_cons_self)).map
      fun _ _ _ => trivial
  | knows taxonomy text =>
    have told : Service.Tells (Backed texts lifetime) asked context (knows taxonomy text) _ :=
      tells_knows noCollision (known List.mem_cons_self) taxonomy text
    exact told.map fun _ _ _ => trivial
  | understand text draft =>
    have told : Service.Tells (Backed texts lifetime) asked context (understand text draft) _ :=
      tells_understand noCollision (known List.mem_cons_self) text draft
    exact told.map fun _ _ _ => trivial

theorem backed_after {contexts : List Context} {events : List Event} {directory : Directory}
    (backed : Backed texts lifetime (.ofContexts contexts) directory)
    (noted : ∀ event ∈ events, event.toContext ∈ contexts)
    (known : events.flatMap (·.request.texts) ⊆ texts) :
    Backed texts lifetime (.ofContexts contexts) (directory.after events) := by
  induction events generalizing directory with
  | nil => exact backed
  | cons event rest ih =>
    rw [List.flatMap_cons, List.append_subset] at known
    have start : Backed texts lifetime ((Askings.ofContexts contexts).during event.toContext [])
        directory := by
      rwa [Askings.during_nil]
    have kept := (ensures_perform noCollision event.request known.1 ⟨directory, []⟩ start).1
    refine ih (kept.mono ?_) (fun later member => noted later (List.mem_cons_of_mem _ member))
      known.2
    rintro _ source moment (before | ⟨_, rfl, rfl⟩)
    · exact before
    · exact noted event List.mem_cons_self

variable (known : (EntryRequest.all .tag).text ∈ texts)
include known

/-- A verdict by a listing is right if the entries have not changed for the lifetime of the
listing. -/
theorem verdict_of_unchanged {taxonomy : Taxonomy} {slug : String} {changed : Nat}
    {directory : Directory} (backed : Backed texts lifetime asked directory)
    (unchanged : ∀ inquiry source moment, asked inquiry source moment → changed ≤ moment →
      source.entries taxonomy none 0 = context.source.entries taxonomy none 0)
    (long : changed + lifetime ≤ context.now) (inquiries : List Inquiry) :
    ((list taxonomy 0 0 >>= judge taxonomy slug) context ⟨directory, inquiries⟩).1 =
      verdict context.source taxonomy slug := by
  have start : Backed texts lifetime (asked.during context inquiries) directory :=
    backed.mono fun _ _ _ => .inl
  obtain ⟨listed, _, recent⟩ :=
    ensures_list noCollision taxonomy 0 0 known ⟨directory, inquiries⟩ start
  rw [Service.bind_apply]
  generalize list taxonomy 0 0 context ⟨directory, inquiries⟩ = result at listed recent ⊢
  obtain ⟨listing, after⟩ := result
  rcases recent with ⟨made, rfl⟩ | ⟨source, moment, before, rfl, fresh⟩
  · exact (backed_judge slug listed (.inr ⟨made, rfl, rfl⟩)).2.2
  · -- The listing is from an earlier moment, but from one since the entries have changed last.
    have same := unchanged _ source moment before (by omega)
    have judged := (backed_judge slug listed (.inl before)).2.2
    rw [verdict, ← same]
    exact judged

/-- A name without a kept verdict is judged anew, and of a kept one the verdict is told. -/
theorem knows_of_unchanged {taxonomy : Taxonomy} {text : String} {changed : Nat}
    {directory : Directory} (backed : Backed texts lifetime asked directory)
    (unchanged : ∀ inquiry source moment, asked inquiry source moment → changed ≤ moment →
      source.entries taxonomy none 0 = context.source.entries taxonomy none 0)
    (long : changed + lifetime ≤ context.now) :
    (knows taxonomy text context ⟨directory, []⟩).1 =
      if (Slug.ofText text).isEmpty then false
      else (directory.verdicts.lookup (taxonomy, Slug.ofText text)).getD
        (context.source.knows taxonomy text) := by
  obtain ⟨same, sound⟩ := Slug.Memo.yields_slug text directory.memo backed.memo
  have slugged : slug text context ⟨directory, []⟩ = (Slug.ofText text,
      ⟨{ directory with memo := ((Slug.Memo.slug text).run directory.memo).2 }, []⟩) := by
    rw [← same]
    rfl
  have backedAfter : Backed texts lifetime asked
      { directory with memo := ((Slug.Memo.slug text).run directory.memo).2 } :=
    ⟨backed.lifetime, backed.listings, backed.verdicts, sound⟩
  rw [knows_eq_bind, Service.bind_apply, slugged, Source.knows]
  simp only
  by_cases empty : (Slug.ofText text).isEmpty
  · rw [knowsSlug, if_pos empty, if_pos empty]
    rfl
  · rw [knowsSlug, if_neg empty, if_neg empty, Service.bind_apply, Service.state_apply]
    simp only [Bool.not_eq_true] at empty
    rw [empty, Bool.not_false, Bool.true_and]
    dsimp only
    cases directory.verdicts.lookup (taxonomy, Slug.ofText text) with
    | some told => rfl
    | none => exact verdict_of_unchanged noCollision known backedAfter unchanged long []

end

/-- In every run of a new directory, if the entries of a taxonomy have not changed for the lifetime
of a listing, a name is known if and only if one of the entries has its slug, unless a verdict on it
is kept. A verdict that is kept is told whatever the entries are by now: it is that of the source of
some earlier request, however long ago. -/
theorem knows_after (name : String) (capacity lifetime : Nat) (events : List Event)
    (source : Source) (now changed : Nat) (taxonomy : Taxonomy) (text : String)
    (noCollision : NoCollision
      ((EntryRequest.all .tag).text :: events.flatMap (·.request.texts)))
    (unchanged : ∀ event ∈ events, changed ≤ event.now →
      event.source.entries taxonomy none 0 = source.entries taxonomy none 0)
    (long : changed + lifetime ≤ now) :
    let directory := after { listings := .empty name capacity lifetime } events
    let kept := directory.verdicts.lookup (taxonomy, Slug.ofText text)
    ((knows taxonomy text).run source now directory).1 =
        (if (Slug.ofText text).isEmpty then false else kept.getD (source.knows taxonomy text)) ∧
      ∀ told, kept = some told →
        ∃ event ∈ events, told = verdict event.source taxonomy (Slug.ofText text) := by
  intro directory kept
  have backed : Backed ((EntryRequest.all .tag).text :: events.flatMap (·.request.texts)) lifetime
      (.ofContexts (events.map (·.toContext))) directory :=
    backed_after noCollision (backed_new name capacity)
      (fun _ => List.mem_map_of_mem) (List.subset_cons_self _ _)
  have unchangedAsked (inquiry : Inquiry) (earlier : Source) (moment : Nat)
      (wasAsked : Askings.ofContexts (events.map (·.toContext)) inquiry earlier moment)
      (since : changed ≤ moment) :
      earlier.entries taxonomy none 0 = source.entries taxonomy none 0 := by
    obtain ⟨event, member, same⟩ := List.mem_map.mp wasAsked
    obtain ⟨rfl, rfl⟩ := Context.mk.inj same
    exact unchanged event member since
  have told : (knows taxonomy text ⟨source, now⟩ ⟨directory, []⟩).1 = _ :=
    knows_of_unchanged noCollision List.mem_cons_self backed unchangedAsked long
  refine ⟨told, fun told isKept => ?_⟩
  obtain ⟨front, back, split, _⟩ := List.lookup_eq_some_iff.mp isKept
  obtain ⟨earlier, moment, wasAsked, same⟩ :=
    backed.verdicts ((taxonomy, Slug.ofText text), told) (by simp [split])
  obtain ⟨event, member, isEvent⟩ := List.mem_map.mp wasAsked
  obtain ⟨rfl, rfl⟩ := Context.mk.inj isEvent
  exact ⟨event, member, same⟩

/-- A tag that came after the first look is known once the listing has expired, if nobody asked for
it before. -/
theorem knows_after_new_tag :
    let early : Source := {
      select := fun _ => .ok ⟨[], 0⟩
      archive := fun _ _ => .ok none
      entries := fun _ _ _ => .ok ⟨[{ id := 1, name := "Cat", slug := "cat" }], 1⟩ }
    let late : Source := { early with
      entries := fun _ _ _ => .ok ⟨[{ id := 1, name := "Cat", slug := "cat" },
        { id := 2, name := "Dog", slug := "dog" }], 2⟩ }
    let directory := after { listings := .empty "taxonomies" 4 5 } [⟨⟨early, 0⟩, .knows .tag "Cat"⟩]
    ((knows .tag "dog").run late 6 directory).1 = true := by
  intro early late directory
  have noCollision : NoCollision ((EntryRequest.all .tag).text ::
      [(⟨⟨early, 0⟩, .knows .tag "Cat"⟩ : Event)].flatMap (·.request.texts)) :=
    Catalogue.noCollision_all_none.mono (by decide +kernel)
  have told := (knows_after "taxonomies" 4 5 [⟨⟨early, 0⟩, .knows .tag "Cat"⟩] late 6 1 .tag "dog"
    noCollision (by simp) (by decide)).1
  refine told.trans ?_
  decide +kernel

/-- A name that was asked for before it became a tag stays unknown, though the listing has long
expired. -/
theorem knows_stale :
    let early : Source := {
      select := fun _ => .ok ⟨[], 0⟩
      archive := fun _ _ => .ok none
      entries := fun _ _ _ => .ok ⟨[], 0⟩ }
    let late : Source := { early with
      entries := fun _ _ _ => .ok ⟨[{ id := 1, name := "Cat", slug := "cat" }], 1⟩ }
    let hour := 3600 * Catalogue.ticksPerSecond
    let directory := after { listings := .empty "taxonomies" 4096 hour }
      [⟨⟨early, 0⟩, .knows .tag "cat"⟩, ⟨⟨late, 1⟩, .list .tag 0 0⟩]
    1 + hour ≤ 9000 * hour ∧ late.knows .tag "cat" = true ∧
      ((knows .tag "cat").run late (9000 * hour) directory).1 = false := by
  decide +kernel

end Directory

end ComicCatalogue
