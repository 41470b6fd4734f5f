import Mathlib.Data.List.Induction
import ComicCatalogue.Proofs.Query.Settled

/-!
# What a draft remembers of its edits

Each part of a draft depends on one part of each edit. Where edits add to a part of the draft, it
holds all that was added in the order given; where they replace it, it holds what came last.
-/

namespace ComicCatalogue.Draft

namespace Edit

/-- The values that an edit asks for in a kind of constraint on a taxonomy. -/
def values (taxonomy : Taxonomy) (slot : Slot) : Edit → List String
  | directive (.taxonomy other otherSlot values) =>
    if other = taxonomy ∧ otherSlot = slot then values else []
  | entry other text => if other = taxonomy ∧ slot = ⟨.anyOf, false⟩ then [text] else []
  | _ => []

/-- The title that an edit asks for: the whole of it, or a part. -/
def title? (wildcard : Bool) : Edit → Option String
  | directive (.title other values) =>
    if other = wildcard then some (",".intercalate values) else none
  | _ => none

/-- The constraint on pages that an edit asks for. -/
def bound? : Edit → Option PageBound
  | directive (.pages comparison count) => some ⟨comparison, count⟩
  | _ => none

/-- The constraint on pages that an edit asks for, if it compares in this way. -/
def boundBy? (comparison : Comparison) (edit : Edit) : Option PageBound :=
  edit.bound?.filter (·.comparison = comparison)

def path? : Edit → Option String
  | path text => some text
  | _ => none

def sort? : Edit → Option String
  | sort name => some name
  | _ => none

def order? : Edit → Option String
  | order name => some name
  | _ => none

def limit? : Edit → Option Int
  | limit count => some count
  | _ => none

def offset? : Edit → Option Int
  | offset count => some count
  | _ => none

def unbounded? : Edit → Option Bool
  | unbounded flag => some flag
  | _ => none

def preload? : Edit → Option String
  | preload relation => some relation
  | _ => none

end Edit

/-- What the last of the edits that concern a part says about it. -/
def last? {α : Type} (part : Edit → Option α) (edits : List Edit) : Option α :=
  (edits.filterMap part).getLast?

theorem last?_append_singleton {α : Type} (part : Edit → Option α) (edits : List Edit)
    (edit : Edit) : last? part (edits ++ [edit]) = (part edit).or (last? part edits) := by
  cases same : part edit <;> simp [last?, List.filterMap_append, same]

theorem ofEdits_append_singleton (edits : List Edit) (edit : Edit) :
    ofEdits (edits ++ [edit]) = (ofEdits edits).edit edit := by
  simp [ofEdits]

/-- A part of the draft that edits replace holds what came last. -/
theorem ofEdits_eq_getD {α : Type} (get : Draft → α) (part : Edit → Option α)
    (step : ∀ draft edit, get (draft.edit edit) = (part edit).getD (get draft))
    (edits : List Edit) : get (ofEdits edits) = (last? part edits).getD (get {}) := by
  induction edits using List.reverseRecOn with
  | nil => rfl
  | append_singleton edits edit ih =>
    rw [ofEdits_append_singleton, step, ih, last?_append_singleton]
    cases part edit <;> rfl

/-- A part of the draft that is missing at first and that edits set holds what came last. -/
theorem ofEdits_eq_last? {α : Type} (get : Draft → Option α) (part : Edit → Option α)
    (start : get {} = none)
    (step : ∀ draft edit, get (draft.edit edit) = (part edit).or (get draft))
    (edits : List Edit) : get (ofEdits edits) = last? part edits := by
  induction edits using List.reverseRecOn with
  | nil => exact start
  | append_singleton edits edit ih =>
    rw [ofEdits_append_singleton, step, ih, last?_append_singleton]

/-- A part of the draft that edits add to holds all that was added. -/
theorem ofEdits_eq_flatMap {α : Type} (get : Draft → List α) (part : Edit → List α)
    (start : get {} = [])
    (step : ∀ draft edit, get (draft.edit edit) = get draft ++ part edit) (edits : List Edit) :
    get (ofEdits edits) = edits.flatMap part := by
  induction edits using List.reverseRecOn with
  | nil => exact start
  | append_singleton edits edit ih =>
    rw [ofEdits_append_singleton, step, ih, List.flatMap_append, List.flatMap_singleton]

/-- Values are added to one kind of constraint on one taxonomy, behind those that are there. -/
theorem get_modify_add (filters : PerTaxonomy TaxonomyFilter) (taxonomy other : Taxonomy)
    (slot otherSlot : Slot) (values : List String) :
    ((filters.modify other (·.add otherSlot values)).get taxonomy).get slot =
      (filters.get taxonomy).get slot ++
        if other = taxonomy ∧ otherSlot = slot then values else [] := by
  rw [PerTaxonomy.get_modify]
  by_cases same : taxonomy = other
  · rw [if_pos same, TaxonomyFilter.get_add]
    by_cases sameSlot : slot = otherSlot <;> simp [same, sameSlot, eq_comm]
  · simp [same, eq_comm]

theorem filters_ofEdits (edits : List Edit) (taxonomy : Taxonomy) (slot : Slot) :
    ((ofEdits edits).filters.get taxonomy).get slot =
      edits.flatMap (Edit.values taxonomy slot) := by
  refine ofEdits_eq_flatMap (fun draft => (draft.filters.get taxonomy).get slot)
    (Edit.values taxonomy slot) ?_ ?_ edits
  · obtain ⟨mode, wildcard⟩ := slot
    cases taxonomy <;> cases mode <;> cases wildcard <;> rfl
  · intro draft edit
    cases edit with
    | directive directive =>
      cases directive with
      | taxonomy other otherSlot values => exact get_modify_add _ _ _ _ _ _
      | title wildcard values => cases wildcard <;> exact (List.append_nil _).symm
      | pages comparison count => exact (List.append_nil _).symm
    | entry other text =>
      simpa [edit, addEntry, Edit.values, eq_comm] using
        get_modify_add draft.filters taxonomy other slot ⟨.anyOf, false⟩ [text]
    | _ => exact (List.append_nil _).symm

/-- What an edit does to every part of a draft but its filters. -/
theorem edit_eq (draft : Draft) (edit : Edit) :
    draft.edit edit = {
      filters := (draft.edit edit).filters
      titleEquals := (edit.title? false).or draft.titleEquals
      titleContains := (edit.title? true).or draft.titleContains
      pages := draft.pages ++ edit.bound?.toList
      path := edit.path?.or draft.path
      sort := edit.sort?.getD draft.sort
      order := edit.order?.getD draft.order
      limit := edit.limit?.getD draft.limit
      offset := edit.offset?.getD draft.offset
      unbounded := edit.unbounded?.getD draft.unbounded
      preloads := draft.preloads ++ edit.preload?.toList } := by
  cases edit with
  | directive directive =>
    cases directive with
    | title wildcard values =>
      cases wildcard <;>
        simp [edit, addDirective, Edit.title?, Edit.bound?, Edit.path?, Edit.sort?, Edit.order?,
          Edit.limit?, Edit.offset?, Edit.unbounded?, Edit.preload?]
    | _ =>
      simp [edit, addDirective, Edit.title?, Edit.bound?, Edit.path?, Edit.sort?, Edit.order?,
        Edit.limit?, Edit.offset?, Edit.unbounded?, Edit.preload?]
  | _ =>
    simp [edit, addEntry, Edit.title?, Edit.bound?, Edit.path?, Edit.sort?, Edit.order?,
      Edit.limit?, Edit.offset?, Edit.unbounded?, Edit.preload?]

variable (edits : List Edit)

theorem titleEquals_ofEdits : (ofEdits edits).titleEquals = last? (Edit.title? false) edits :=
  ofEdits_eq_last? titleEquals _ rfl (fun draft edit => by rw [edit_eq]) edits

theorem titleContains_ofEdits : (ofEdits edits).titleContains = last? (Edit.title? true) edits :=
  ofEdits_eq_last? titleContains _ rfl (fun draft edit => by rw [edit_eq]) edits

theorem path_ofEdits : (ofEdits edits).path = last? Edit.path? edits :=
  ofEdits_eq_last? Draft.path _ rfl (fun draft edit => by rw [edit_eq]) edits

theorem pages_ofEdits : (ofEdits edits).pages = edits.filterMap Edit.bound? := by
  rw [List.filterMap_eq_flatMap_toList]
  exact ofEdits_eq_flatMap pages _ rfl (fun draft edit => by rw [edit_eq]) edits

theorem preloads_ofEdits : (ofEdits edits).preloads = edits.filterMap Edit.preload? := by
  rw [List.filterMap_eq_flatMap_toList]
  exact ofEdits_eq_flatMap preloads _ rfl (fun draft edit => by rw [edit_eq]) edits

theorem sort_ofEdits : (ofEdits edits).sort = (last? Edit.sort? edits).getD "" :=
  ofEdits_eq_getD Draft.sort _ (fun draft edit => by rw [edit_eq]) edits

theorem order_ofEdits : (ofEdits edits).order = (last? Edit.order? edits).getD "" :=
  ofEdits_eq_getD Draft.order _ (fun draft edit => by rw [edit_eq]) edits

theorem limit_ofEdits : (ofEdits edits).limit = (last? Edit.limit? edits).getD 25 :=
  ofEdits_eq_getD Draft.limit _ (fun draft edit => by rw [edit_eq]) edits

theorem offset_ofEdits : (ofEdits edits).offset = (last? Edit.offset? edits).getD 0 :=
  ofEdits_eq_getD Draft.offset _ (fun draft edit => by rw [edit_eq]) edits

theorem unbounded_ofEdits : (ofEdits edits).unbounded = (last? Edit.unbounded? edits).getD false :=
  ofEdits_eq_getD Draft.unbounded _ (fun draft edit => by rw [edit_eq]) edits

end ComicCatalogue.Draft
