import ComicCatalogue.Query.Draft

/-!
# Directives as records

A record has the same parts for every field, so it can hold what no directive says: a title that is
negated, or a count of pages that is no number. What a draft does with a record does not depend on
where the record is from.
-/

namespace ComicCatalogue

namespace Search

/-- The parts of a directive on any field. -/
structure Record where
  field : Field
  negated : Bool := false
  /-- Whether every value has to match. -/
  conjunctive : Bool := false
  wildcard : Bool := false
  comparison : Option Comparison := none
  values : List String
  deriving DecidableEq, Repr

namespace Record

/-- The kind of taxonomy constraint that the flags of a record ask for. -/
def slot (record : Record) : Slot :=
  ⟨if record.negated then .noneOf else if record.conjunctive then .allOf else .anyOf,
    record.wildcard⟩

/-- The count of pages of a record on pages, if the first of its values is one. -/
def pageCount? (record : Record) : Option Nat :=
  match record.field with
  | .pages => record.values.head?.bind readCount?
  | _ => none

end Record

/-- The record of a head and its values, if the values suit the head. A hyphen goes before the sign
that says how values combine, and a count of pages is written anew. -/
def Head.record? (head : Head) (comparison : Comparison) (values : List String) : Option Record :=
  if values.isEmpty then none
  else
    match head.field with
    | .taxonomy which =>
      some {
        field := .taxonomy which
        negated := head.negated
        conjunctive := !head.negated && head.conjunctive
        wildcard := head.wildcard
        values := values }
    | .title => some { field := .title, wildcard := head.wildcard, values := values }
    | .pages =>
      match values with
      | [value] =>
        ((readCount? value).filter (0 < ·)).map fun count =>
          { field := .pages, comparison := some comparison, values := [toString count] }
      | _ => none

end Search

/-- A directive as a record. -/
def Directive.record : Directive → Search.Record
  | .taxonomy which slot values => {
      field := .taxonomy which
      negated := slot.mode = .noneOf
      conjunctive := slot.mode = .allOf
      wildcard := slot.wildcard
      values := values }
  | .title wildcard values => { field := .title, wildcard := wildcard, values := values }
  | .pages comparison count =>
    { field := .pages, comparison := some comparison, values := [toString count] }

/-- Adds the values of a record to the kind of constraint that its flags ask for. -/
def TaxonomyFilter.addRecord (record : Search.Record) (filter : TaxonomyFilter) : TaxonomyFilter :=
  match record.negated, record.wildcard, record.conjunctive with
  | true, false, _ => { filter with noneOf := filter.noneOf ++ record.values }
  | true, true, _ => { filter with noneContaining := filter.noneContaining ++ record.values }
  | false, false, false => { filter with anyOf := filter.anyOf ++ record.values }
  | false, false, true => { filter with allOf := filter.allOf ++ record.values }
  | false, true, false => { filter with anyContaining := filter.anyContaining ++ record.values }
  | false, true, true => { filter with allContaining := filter.allContaining ++ record.values }

namespace Draft

/-- Adds a record. One on pages that lacks a comparison or a count is passed over. -/
def addRecord (draft : Draft) (record : Search.Record) : Draft :=
  match record.field with
  | .taxonomy which =>
    { draft with filters := draft.filters.modify which (·.addRecord record) }
  | .title =>
    let title := ",".intercalate record.values
    if record.wildcard then { draft with titleContains := some title }
    else { draft with titleEquals := some title }
  | .pages =>
    match record.comparison, record.pageCount? with
    | some comparison, some count => { draft with pages := draft.pages ++ [⟨comparison, count⟩] }
    | _, _ => draft

/-- The constraint on pages that compares in this way: the latest one. -/
def bound? (draft : Draft) (comparison : Comparison) : Option PageBound :=
  draft.pages.reverse.find? (·.comparison = comparison)

end Draft

end ComicCatalogue
