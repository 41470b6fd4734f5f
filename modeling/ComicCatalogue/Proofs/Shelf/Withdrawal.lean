import ComicCatalogue.Proofs.PageWindow
import ComicCatalogue.Proofs.Shelf.Consistent
import ComicCatalogue.Proofs.Shelf.Selected

/-!
# Withdrawn for good

An archive that was withdrawn stays so, whatever is changed afterwards. Every way to ask the shelf
looks for visible archives only, so the answers are those of a shelf without it; and it keeps its
number to itself.
-/

namespace ComicCatalogue

namespace Shelf

/-- The shelf without the archive of a number. -/
def without (id : Int) (shelf : Shelf) : Shelf :=
  { shelf with volumes := shelf.volumes.filter (·.id ≠ id) }

/-- No archive of a number is visible. -/
def Hides (shelf : Shelf) (id : Int) : Prop :=
  ∀ volume ∈ shelf.volumes, volume.id = id → volume.isVisible = false

/-- The archive of a number, at a path, is withdrawn. -/
def IsWithdrawn (shelf : Shelf) (id : Int) (path : String) : Prop :=
  ∃ volume ∈ shelf.volumes, volume.id = id ∧ volume.path = path ∧ volume.withdrawn

variable {shelf : Shelf} {id : Int} {path : String}

/-! ## Asking a shelf that hides an archive -/

theorem Hides.id_ne (hides : shelf.Hides id) {volume : Volume} (member : volume ∈ shelf.volumes)
    (visible : volume.isVisible) : volume.id ≠ id := by
  intro same
  rw [hides volume member same] at visible
  cases visible

/-- Conditions look at the archive and at the labels, and so do not see other archives. -/
theorem holds_without (id : Int) (shelf : Shelf) (volume : Volume) (condition : Condition) :
    condition.holds (shelf.without id) volume = condition.holds shelf volume := by
  cases condition <;> rfl

theorem anyTestFails_without (id : Int) (shelf : Shelf) (volume : Volume) (taxonomy : Taxonomy)
    (tests : List SlugTest) :
    Condition.anyTestFails (shelf.without id) volume taxonomy tests =
      Condition.anyTestFails shelf volume taxonomy tests := by
  induction tests with
  | nil => rfl
  | cons test rest ih =>
    rw [Condition.anyTestFails, Condition.anyTestFails, ih, holds_without]
    rfl

theorem fails_without (id : Int) (shelf : Shelf) (volume : Volume) (condition : Condition) :
    condition.fails (shelf.without id) volume = condition.fails shelf volume := by
  cases condition with
  | linkedAny taxonomy tests => exact anyTestFails_without id shelf volume taxonomy tests
  | _ => rfl

theorem someFails_without (id : Int) (shelf : Shelf) (volume : Volume)
    (conditions : List Condition) :
    Condition.someFails (shelf.without id) volume conditions =
      Condition.someFails shelf volume conditions := by
  induction conditions with
  | nil => rfl
  | cons condition rest ih =>
    rw [Condition.someFails, Condition.someFails, ih, holds_without, fails_without]

/-- Hidden archives do not satisfy conditions that only visible ones do. -/
theorem Hides.matching_without (hides : shelf.Hides id) {conditions : List Condition}
    (visible : .visible ∈ conditions) :
    (shelf.without id).matching conditions = shelf.matching conditions := by
  simp only [matching, holds_without]
  rw [without, List.filter_filter]
  refine List.filter_congr fun volume member => ?_
  cases holds : conditions.all (·.holds shelf volume) with
  | false => rfl
  | true =>
    have isVisible := List.all_eq_true.mp holds .visible visible
    simpa using hides.id_ne member isVisible

/-- Where an archive is left out, nothing is refused that was not refused before. -/
theorem searchFault?_without {conditions : List Condition}
    (accepted : shelf.searchFault? conditions = none) :
    (shelf.without id).searchFault? conditions = none := by
  unfold searchFault? at accepted ⊢
  split at accepted
  · cases accepted
  · rename_i shallow
    split at accepted
    · cases accepted
    · rename_i fits
      rw [if_neg shallow, if_neg]
      intro overlong
      obtain ⟨volume, member, fails⟩ := List.any_eq_true.mp overlong
      rw [someFails_without] at fails
      exact fits (List.any_eq_true.mpr ⟨volume, List.mem_of_mem_filter member, fails⟩)

/-- A query is answered as if a hidden archive were not there. -/
theorem Hides.select_without (hides : shelf.Hides id) {query : Query} {page : ArchivePage}
    (done : shelf.select (Selection.ofQuery query) = .ok page) :
    (shelf.without id).select (Selection.ofQuery query) = .ok page := by
  have visible : .visible ∈ Condition.ofQuery query :=
    List.mem_append_right _ (List.mem_singleton_self _)
  have counted : (shelf.without id).matching (Selection.ofQuery query).counted =
      shelf.matching (Selection.ofQuery query).counted := hides.matching_without visible
  have found : (shelf.without id).matching (Selection.ofQuery query).conditions =
      shelf.matching (Selection.ofQuery query).conditions := counted
  have rows : (shelf.without id).rows (.ofQuery query) = shelf.rows (.ofQuery query) := by
    rw [Shelf.rows, Shelf.rows, ordered, ordered, found]
  rcases shelf.select_cases (.ofQuery query) with ⟨accepted, given⟩ | ⟨fault, _, failed⟩
  · have searched : (shelf.without id).fault? (.ofQuery query) = none := by
      rw [fault?_of_counted rfl, Option.or_eq_none_iff] at accepted ⊢
      exact ⟨searchFault?_without accepted.1, rows ▸ accepted.2⟩
    cases done.symm.trans given
    rw [select_of_faultless searched, rows, counted]
    rfl
  · cases done.symm.trans failed

/-- No archive that is selected is hidden. -/
theorem Hides.id_ne_of_mem (hides : shelf.Hides id) {query : Query} {page : ArchivePage}
    (done : shelf.select (Selection.ofQuery query) = .ok page) {archive : Archive}
    (member : archive ∈ page.archives) : archive.id ≠ id := by
  have gives : (shelf.without id).Gives (.ofQuery query) _ := gives_ordered _ rfl
  have answered := gives.page page (hides.select_without done)
  rw [answered.1] at member
  obtain ⟨volume, selected, rfl⟩ := List.mem_map.mp member
  have ordered := mem_of_mem_excerpt selected
  rw [Shelf.ordered, List.mem_mergeSort] at ordered
  have different : volume.id ≠ id := by
    simpa using List.of_mem_filter (List.mem_of_mem_filter ordered)
  exact different

theorem Hides.archive?_eq_none (hides : shelf.Hides id) (preloads : List Taxonomy) :
    shelf.archive? id preloads = none := by
  rw [archive?, Option.map_eq_none_iff, List.find?_eq_none]
  intro volume member found
  obtain ⟨same, visible⟩ := of_decide_eq_true found
  exact hides.id_ne member visible same

theorem Hides.visibleCount_without (hides : shelf.Hides id) (taxonomy : Taxonomy) (label : Label) :
    (shelf.without id).visibleCount taxonomy label = shelf.visibleCount taxonomy label := by
  rw [visibleCount, visibleCount, without, List.countP_filter]
  refine List.countP_congr fun volume member => ?_
  simp only [Bool.and_eq_true, decide_eq_true_eq]
  exact and_iff_left_of_imp fun counted => hides.id_ne member counted.1

/-- A listing is answered as if a hidden archive were not there. -/
theorem Hides.entries_without (hides : shelf.Hides id) (taxonomy : Taxonomy) (limit : Option Nat)
    (offset : Nat) :
    (shelf.without id).entries taxonomy limit offset = shelf.entries taxonomy limit offset := by
  simp only [entries, hides.visibleCount_without]
  rfl

/-! ## Changing a shelf on which an archive is withdrawn -/

theorem IsWithdrawn.change (withdrawn : shelf.IsWithdrawn id path) (other : Int)
    {f : Volume → Volume} (keeps : ∀ volume, (f volume).id = volume.id ∧
      (f volume).path = volume.path ∧ (volume.withdrawn → (f volume).withdrawn)) :
    (shelf.change other f).2.IsWithdrawn id path := by
  obtain ⟨volume, inShelf, sameId, samePath, isWithdrawn⟩ := withdrawn
  refine ⟨_, List.mem_map_of_mem inShelf, ?_⟩
  split
  · obtain ⟨keepsId, keepsPath, keepsWithdrawn⟩ := keeps volume
    exact ⟨keepsId.trans sameId, keepsPath.trans samePath, keepsWithdrawn isWithdrawn⟩
  · exact ⟨sameId, samePath, isWithdrawn⟩

/-- A change keeps a withdrawn archive withdrawn, under its number and at its path. -/
theorem IsWithdrawn.apply (withdrawn : shelf.IsWithdrawn id path) (consistent : shelf.IsConsistent)
    (change : ShelfChange) : (shelf.apply change).IsWithdrawn id path := by
  cases change with
  | put now new =>
    cases blank : (Text.trim new.path).isEmpty with
    | true => simpa only [Shelf.apply, put_of_blank blank] using withdrawn
    | false =>
      simp only [Shelf.apply, put_of_named blank]
      obtain ⟨volume, inShelf, rfl, rfl, isWithdrawn⟩ := withdrawn
      have put := isPut_withPut consistent now new
      by_cases atPath : volume.path = new.path
      · obtain ⟨sameId, _, sameWithdrawn⟩ := put.kept volume inShelf atPath
        exact ⟨_, ((put.atPath _).mpr rfl).1, sameId, atPath.symm, sameWithdrawn.trans isWithdrawn⟩
      · exact ⟨volume, (put.others volume atPath).mpr inShelf, rfl, rfl, isWithdrawn⟩
  | publish now other published =>
    exact withdrawn.change other fun _ => ⟨rfl, rfl, fun kept => kept⟩
  | withdraw now other => exact withdrawn.change other fun _ => ⟨rfl, rfl, fun _ => rfl⟩

theorem IsWithdrawn.foldl_apply {before : List ShelfChange}
    (withdrawn : (ofChanges before).IsWithdrawn id path) (after : List ShelfChange) :
    (ofChanges (before ++ after)).IsWithdrawn id path := by
  induction after using List.reverseRecOn with
  | nil => rwa [List.append_nil]
  | append_singleton after change ih =>
    rw [← List.append_assoc, ofChanges_append_singleton]
    exact ih.apply (isConsistent_ofChanges _) change

/-- A withdrawn archive is hidden, since there is no other with its number. -/
theorem IsWithdrawn.hides (withdrawn : shelf.IsWithdrawn id path)
    (ids : (shelf.volumes.map (·.id)).Nodup) : shelf.Hides id := by
  obtain ⟨gone, inShelf, rfl, _, isWithdrawn⟩ := withdrawn
  intro volume member same
  rw [List.inj_on_of_nodup_map ids member inShelf same, Volume.isVisible, isWithdrawn]
  simp

/-- No archive at another path is put on the shelf under the number of a withdrawn one. -/
theorem IsWithdrawn.ne_of_put (withdrawn : shelf.IsWithdrawn id path)
    (ids : (shelf.volumes.map (·.id)).Nodup) {now : Nat} {new : NewArchive} {given : Int}
    {changed : Shelf} (done : shelf.put now new = .ok (given, changed))
    (elsewhere : new.path ≠ path) : given ≠ id := by
  obtain ⟨volume, inShelf, rfl, rfl, _⟩ := withdrawn
  simp only [put] at done
  split at done
  · cases done
  · cases done
    exact (id_ne_idAt ids inShelf elsewhere.symm).symm

/-- An archive is gone from a shelf. -/
structure IsGone (shelf : Shelf) (id : Int) (path : String) : Prop where
  /-- No query selects it, and the answers are those of the shelf without it. -/
  select : ∀ query page, shelf.select (Selection.ofQuery query) = .ok page →
    (∀ archive ∈ page.archives, archive.id ≠ id) ∧
      (shelf.without id).select (Selection.ofQuery query) = .ok page
  /-- It is not found by its number. -/
  archive : ∀ preloads, shelf.archive? id preloads = none
  /-- It does not count in listings. -/
  entries : ∀ taxonomy limit offset,
    shelf.entries taxonomy limit offset = (shelf.without id).entries taxonomy limit offset
  /-- Its number is not given to an archive at another path. -/
  put : ∀ now new given changed, shelf.put now new = .ok (given, changed) → new.path ≠ path →
    given ≠ id

theorem IsWithdrawn.isGone (withdrawn : shelf.IsWithdrawn id path)
    (ids : (shelf.volumes.map (·.id)).Nodup) : shelf.IsGone id path where
  select _ _ done :=
    have hides := withdrawn.hides ids
    ⟨fun _ member => hides.id_ne_of_mem done member, hides.select_without done⟩
  archive := (withdrawn.hides ids).archive?_eq_none
  entries taxonomy limit offset :=
    ((withdrawn.hides ids).entries_without taxonomy limit offset).symm
  put _ _ _ _ done elsewhere := withdrawn.ne_of_put ids done elsewhere

/-- Where an archive has been withdrawn it is gone for good, whatever is changed afterwards. -/
theorem isGone_of_withdraw (before : List ShelfChange) (now : Nat) (id : Int)
    (done : ((ofChanges before).withdraw now id).1 = true) :
    ∃ volume ∈ (ofChanges before).volumes, volume.id = id ∧ ∀ after : List ShelfChange,
      (ofChanges (before ++ .withdraw now id :: after)).IsGone id volume.path := by
  obtain ⟨volume, inShelf, same⟩ := List.any_eq_true.mp done
  have sameId : volume.id = id := of_decide_eq_true same
  refine ⟨volume, inShelf, sameId, fun after => ?_⟩
  have withdrawn : (ofChanges (before ++ [.withdraw now id])).IsWithdrawn id volume.path := by
    rw [ofChanges_append_singleton]
    exact ⟨_, List.mem_map_of_mem inShelf, by rw [if_pos sameId]; exact ⟨sameId, rfl, rfl⟩⟩
  have kept := withdrawn.foldl_apply after
  rw [List.append_assoc, List.singleton_append] at kept
  exact kept.isGone (sound_ofChanges _).idsNodup

/-- An archive that is put and published again is gone all the same. -/
theorem isGone_of_withdraw_again :
    let new : NewArchive := { title := "A", path := "/a" }
    ((ofChanges [.put 0 new]).withdraw 1 1).1 = true ∧
      ∃ volume ∈ (ofChanges [.put 0 new]).volumes, volume.id = 1 ∧
        (ofChanges [.put 0 new, .withdraw 1 1, .put 2 new, .publish 3 1 true]).IsGone 1
          volume.path := by
  intro new
  have done : ((ofChanges [.put 0 new]).withdraw 1 1).1 = true := by decide +kernel
  obtain ⟨volume, inShelf, same, gone⟩ := isGone_of_withdraw [.put 0 new] 1 1 done
  exact ⟨done, volume, inShelf, same, gone [.put 2 new, .publish 3 1 true]⟩

end Shelf

end ComicCatalogue
