import ComicCatalogue.Proofs.PageWindow
import ComicCatalogue.Proofs.Search.Phrases
import ComicCatalogue.Proofs.Selection.Depth
import ComicCatalogue.Proofs.Shelf.Consistent
import ComicCatalogue.Proofs.Shelf.Lines
import ComicCatalogue.Proofs.Slug.Idempotence

/-!
# Listed counts

A listing of labels says for each how many visible archives have it. That many are found when the
label is searched for by its slug: a slug can be written without quotes, it is its own slug, and no
other label of the taxonomy has it.
-/

namespace ComicCatalogue

open Search (IsToken Reading slotHeading)

namespace Slug

/-- A slug can be written without quotes. -/
theorem isToken_ofText {text : String} (named : ofText text ≠ "") : IsToken (ofText text) := by
  have isTokenChar : ∀ c ∈ (ofText text).toList,
      Unicode.isWhitespace c = false ∧ c ≠ ',' ∧ c ≠ '"' := by
    intro c member
    rw [ofText, String.toList_ofList] at member
    rcases mem_ofChars member with rfl | isPlain
    · decide
    · exact ⟨isPlain.isWhitespace_eq_false,
        isPlain.ne_of_not_isAlphanumeric not_isAlphanumeric_comma_quote.1,
        isPlain.ne_of_not_isAlphanumeric not_isAlphanumeric_comma_quote.2⟩
  exact ⟨named, fun c member => (isTokenChar c member).imp_right And.left,
    fun first => (isTokenChar '"' (List.mem_of_mem_head? first)).2.2 rfl⟩

end Slug

/-- A search for one slug of a taxonomy has this for its only condition but visibility. -/
theorem Condition.ofQuery_ofLine_slug (seen : List String) (which : Taxonomy) {text : String}
    (named : Slug.ofText text ≠ "") :
    ofQuery (.ofLine seen (which.name ++ ":" ++ Slug.ofText text)) =
      [linkedAny which [.equals (Slug.ofText text)], visible] := by
  have isToken := Slug.isToken_ofText named
  have same := Slug.ofText_ofText text
  generalize Slug.ofText text = slug at named isToken same ⊢
  have line : which.name ++ ":" ++ slug = slotHeading which ⟨.anyOf, false⟩ ++ ":" ++ slug := rfl
  have values : Draft.canonicalValues [slug] = [slug] := by
    rw [Draft.canonicalValues_singleton (same.symm ▸ named), same]
  rw [line, Query.ofLine_eq_settled, Reading.directives_token which _ isToken, ofQuery_of_slot,
    values]
  rfl

namespace Labelling

/-- An archive has the slug of a label just where it is linked with this label. -/
theorem mem_slugsOf_iff {labelling : Labelling} {volumes : List Int}
    (consistent : labelling.IsConsistent volumes) {label : Label}
    (member : label ∈ labelling.labels) (volume : Int) :
    label.slug ∈ labelling.slugsOf volume ↔ (volume, label.id) ∈ labelling.links := by
  simp only [slugsOf, labelsOf, List.mem_map, List.mem_filter, decide_eq_true_eq]
  constructor
  · rintro ⟨other, ⟨isLabel, linked⟩, same⟩
    rwa [List.inj_on_of_nodup_map consistent.slugsNodup isLabel member same] at linked
  · exact fun linked => ⟨label, ⟨member, linked⟩, rfl⟩

end Labelling

namespace Shelf

/-- The visible archives that the links to a label lead to, one for each link. -/
def visibleLinked (shelf : Shelf) (taxonomy : Taxonomy) (label : Int) : List Volume :=
  ((shelf.labellings.get taxonomy).links.filter (·.2 = label)).flatMap fun link =>
    shelf.volumes.filter fun volume => volume.id = link.1 ∧ volume.isVisible

variable {shelf : Shelf} {taxonomy : Taxonomy} {label : Label}

/-- As no two links are the same, counting links or archives makes no difference. -/
theorem length_visibleLinked (consistent : shelf.IsConsistent) :
    (shelf.visibleLinked taxonomy label.id).length = shelf.visibleCount taxonomy label := by
  have volumes : shelf.volumes.Nodup := List.Nodup.of_map _ consistent.idsNodup
  have links := (consistent.labellings taxonomy).linksNodup
  have nodup : (shelf.visibleLinked taxonomy label.id).Nodup := by
    rw [visibleLinked, List.nodup_flatMap]
    refine ⟨fun _ _ => volumes.filter _, (links.filter _).pairwise_of_forall_ne ?_⟩
    intro first isFirst second isSecond different volume byFirst bySecond
    simp only [List.mem_filter, decide_eq_true_eq] at isFirst isSecond byFirst bySecond
    exact different (Prod.ext (byFirst.2.1.symm.trans bySecond.2.1)
      (isFirst.2.trans isSecond.2.symm))
  rw [visibleCount, List.countP_eq_length_filter]
  refine ((List.perm_ext_iff_of_nodup nodup (volumes.filter _)).mpr fun volume => ?_).length_eq
  simp only [visibleLinked, List.mem_flatMap, List.mem_filter, decide_eq_true_eq,
    Bool.and_eq_true, List.contains_iff_mem]
  constructor
  · rintro ⟨link, ⟨isLink, toLabel⟩, inShelf, same, visible⟩
    exact ⟨inShelf, visible, by rwa [same, ← toLabel]⟩
  · rintro ⟨inShelf, visible, linked⟩
    exact ⟨(volume.id, label.id), ⟨linked, rfl⟩, inShelf, rfl, visible⟩

/-- The archives that a search for the slug of a label selects are those that are counted. -/
theorem length_matching_slug (consistent : shelf.IsConsistent)
    (member : label ∈ (shelf.labellings.get taxonomy).labels) :
    (shelf.matching [.linkedAny taxonomy [.equals label.slug], .visible]).length =
      shelf.visibleCount taxonomy label := by
  rw [matching, visibleCount, ← List.countP_eq_length_filter]
  refine List.countP_congr fun volume _ => ?_
  have linked : (Condition.linkedAny taxonomy [.equals label.slug]).holds shelf volume ↔
      (volume.id, label.id) ∈ (shelf.labellings.get taxonomy).links := by
    rw [← Labelling.mem_slugsOf_iff (consistent.labellings taxonomy) member,
      Condition.holds_linkedAny_iff]
    simp only [List.mem_singleton, exists_eq_left]
    exact Condition.holds_linked_equals_iff
  rw [List.all_cons, List.all_cons, List.all_nil, Bool.and_true, Bool.and_eq_true,
    Bool.and_eq_true, linked, List.contains_iff_mem, and_comm]
  rfl

/-- A search for one slug is always carried out. -/
theorem total_of_slug (shelf : Shelf) (seen : List String) (taxonomy : Taxonomy) {text : String}
    (named : Slug.ofText text ≠ "") :
    (shelf.select (.ofQuery (.ofLine seen (taxonomy.name ++ ":" ++ Slug.ofText text)))).map
        (·.total) =
      .ok (shelf.matching
        [.linkedAny taxonomy [.equals (Slug.ofText text)], .visible]).length := by
  have same : (Selection.ofQuery (.ofLine seen _)).conditions = _ :=
    Condition.ofQuery_ofLine_slug seen taxonomy named
  have counted : (Selection.ofQuery (.ofLine seen
      (taxonomy.name ++ ":" ++ Slug.ofText text))).counted = (Selection.ofQuery (.ofLine seen
      (taxonomy.name ++ ":" ++ Slug.ofText text))).conditions := rfl
  have bare : (Selection.ofQuery (.ofLine seen
      (taxonomy.name ++ ":" ++ Slug.ofText text))).preloads = [] := Query.preloads_ofLine seen _
  generalize Selection.ofQuery (.ofLine seen (taxonomy.name ++ ":" ++ Slug.ofText text)) =
    selection at same counted bare ⊢
  generalize Slug.ofText text = slug at same
  have shallow : Condition.depth selection.conditions ≤ Depth.maximum :=
    same ▸ (Condition.depth_single_le taxonomy _).1
  have short : ¬Condition.HasOverlong (selection.conditions.flatMap Condition.patterns) :=
    same ▸ not_hasOverlong_nil
  obtain ⟨page, done⟩ := shelf.select_of_accepted counted bare shallow short
  rw [done, Except.map, ((gives_ordered shelf counted).page page done).2, ordered,
    List.length_mergeSort, same]

/-- On every shelf that comes about, each entry of a listing has the number of visible archives that
its links lead to, and this is the number of archives that a search for its slug finds. -/
theorem count_of_mem_entries (changes : List ShelfChange) (seen : List String) (taxonomy : Taxonomy)
    (limit : Option Nat) (offset : Nat) :
    let shelf := ofChanges changes
    ∀ entry ∈ (shelf.entries taxonomy limit offset).entries, ∃ count : Int,
      entry.count = some count ∧ (shelf.visibleLinked taxonomy entry.id).length = count ∧
        (shelf.select (.ofQuery (.ofLine seen (taxonomy.name ++ ":" ++ entry.slug)))).map
          (·.total) = .ok count := by
  intro shelf entry isEntry
  have consistent : shelf.IsConsistent := isConsistent_ofChanges changes
  clear_value shelf
  obtain ⟨label, isPart, rfl⟩ := List.mem_map.mp isEntry
  have member := List.mem_mergeSort.mp (mem_of_mem_excerpt isPart)
  refine ⟨_, rfl, ?_, ?_⟩
  · exact congrArg Nat.cast (length_visibleLinked consistent)
  · obtain ⟨slug, named⟩ := (consistent.labellings taxonomy).slugs label member
    have total := total_of_slug shelf seen taxonomy (slug ▸ named)
    rw [← slug, length_matching_slug consistent member] at total
    exact total

/-- The entry of a tag with one visible archive and one that is not published. -/
theorem count_of_mem_entries_published :
    let named : PerTaxonomy (List String) := { PerTaxonomy.const [] with tags := ["Big Cat"] }
    let shelf := ofChanges [.put 1 { title := "A", path := "/a", names := named },
      .put 2 { title := "B", path := "/b", names := named, published := false }]
    ⟨1, "Big Cat", "big-cat", some 1⟩ ∈ (shelf.entries .tag none 0).entries ∧
      (shelf.select (.ofQuery (.ofLine ["A"] "tag:big-cat"))).map (·.total) = .ok 1 := by
  intro named shelf
  have isEntry : ⟨1, "Big Cat", "big-cat", some 1⟩ ∈ (shelf.entries .tag none 0).entries := by
    decide +kernel
  obtain ⟨count, same, _, total⟩ := count_of_mem_entries _ ["A"] .tag none 0 _ isEntry
  cases same
  exact ⟨isEntry, total⟩

end Shelf

end ComicCatalogue
