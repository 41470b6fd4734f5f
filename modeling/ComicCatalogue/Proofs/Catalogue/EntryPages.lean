import ComicCatalogue.Proofs.Catalogue.Served
import ComicCatalogue.Proofs.Catalogue.Shown
import ComicCatalogue.Proofs.Json.Fields
import ComicCatalogue.Proofs.PageWindow.Bounded
import ComicCatalogue.Proofs.Shelf.Consistent
import ComicCatalogue.Proofs.Shelf.LabelOrder
import ComicCatalogue.Proofs.Shelf.Names
import ComicCatalogue.Tool

/-!
# Pages of entries

The entries of a taxonomy are listed page by page. The pages show all entries, one after the other,
in the order of their names: none is left out and none is repeated.
-/

namespace ComicCatalogue

theorem map_excerpt {α β : Type} (f : α → β) (limit : Option Nat) (offset : Nat)
    (members : List α) :
    (excerpt limit offset members).map f = excerpt limit offset (members.map f) := by
  cases limit with
  | none => rw [excerpt, excerpt, List.map_drop]
  | some limit => rw [excerpt, excerpt, List.map_take, List.map_drop]

namespace Shelf

/-- A label with the number of its visible archives. -/
def entryOf (shelf : Shelf) (taxonomy : Taxonomy) (label : Label) : Entry where
  id := label.id
  name := label.name
  slug := label.slug
  count := some (shelf.visibleCount taxonomy label)

/-- All entries of a taxonomy, by name. -/
def allEntries (shelf : Shelf) (taxonomy : Taxonomy) : List Entry :=
  ((shelf.labellings.get taxonomy).labels.mergeSort Label.mayPrecede).map (shelf.entryOf taxonomy)

variable {shelf : Shelf} {taxonomy : Taxonomy}

theorem length_allEntries (shelf : Shelf) (taxonomy : Taxonomy) :
    (shelf.allEntries taxonomy).length = (shelf.labellings.get taxonomy).labels.length := by
  rw [allEntries, List.length_map, List.length_mergeSort]

theorem entries_eq (shelf : Shelf) (taxonomy : Taxonomy) (limit : Option Nat) (offset : Nat) :
    shelf.entries taxonomy limit offset = {
      entries := excerpt limit offset (shelf.allEntries taxonomy)
      total := (shelf.allEntries taxonomy).length } := by
  rw [length_allEntries, allEntries, ← map_excerpt]
  rfl

theorem mem_allEntries_iff {entry : Entry} : entry ∈ shelf.allEntries taxonomy ↔
    ∃ label ∈ (shelf.labellings.get taxonomy).labels, entry = shelf.entryOf taxonomy label := by
  simp only [allEntries, List.mem_map, List.mem_mergeSort, eq_comm]

theorem nodup_ids_allEntries (consistent : shelf.IsConsistent) (taxonomy : Taxonomy) :
    ((shelf.allEntries taxonomy).map (·.id)).Nodup := by
  rw [allEntries, List.map_map]
  exact ((List.mergeSort_perm _ _).map _).nodup_iff.mpr (consistent.labellings taxonomy).idsNodup

theorem pairwise_allEntries (consistent : shelf.IsConsistent) (taxonomy : Taxonomy) :
    (shelf.allEntries taxonomy).Pairwise Entry.Precedes :=
  Label.pairwise_map_mergeSort (consistent.labellings taxonomy).idsNodup (fun _ => rfl)
    fun _ => rfl

/-- An archive on an empty shelf makes one label for each slug of its tags. -/
theorem length_labels_tagged {tags : List String} (named : ∀ tag ∈ tags, Slug.ofText tag ≠ "") :
    ((ofChanges [.put 1 (tagged tags)]).labellings.get .tag).labels.length =
      (tags.map Slug.ofText).dedup.length := by
  have path : (Text.trim (tagged tags).path).isEmpty = false := by
    change (Text.trim "/a").isEmpty = false
    decide +kernel
  have put := isPut_withPut (isConsistent_ofChanges []) 1 (tagged tags)
  obtain ⟨added, grown, nodup, slugs, -⟩ := (put.labels .tag).labels
  have changed : ofChanges [.put 1 (tagged tags)] = (ofChanges []).withPut 1 (tagged tags) := by
    rw [ofChanges, List.foldl_cons, List.foldl_nil, apply, put_of_named path]
    rfl
  have empty : ((ofChanges []).labellings.get .tag).labels = [] := rfl
  have same : (added.map (·.slug)).Perm (tags.map Slug.ofText).dedup := by
    refine (List.perm_ext_iff_of_nodup nodup (List.nodup_dedup _)).mpr fun slug => ?_
    rw [slugs, empty, List.mem_dedup]
    constructor
    · exact fun made => List.mem_map.mpr made.2.2
    · intro isSlug
      obtain ⟨tag, isTag, rfl⟩ := List.mem_map.mp isSlug
      exact ⟨List.not_mem_nil, named tag isTag, tag, isTag, rfl⟩
  rw [changed, grown, empty, List.nil_append, ← same.length_eq, List.length_map]

end Shelf

/-- The part of the entries that a page of so many shows. -/
def EntryRequest.ofPage (taxonomy : Taxonomy) (size page : Nat) : EntryRequest :=
  .ofNumbers taxonomy size (PageWindow.offset size (max page 1))

/-- A page of the entries of a taxonomy. -/
structure EntriesAnswer where
  taxonomy : Taxonomy
  listing : EntryListing
  window : PageWindow

/-- The page as an object. -/
def EntriesAnswer.toJson (answer : EntriesAnswer) : Json :=
  .obj ([("taxonomy", .str answer.taxonomy.name)] ++ answer.listing.jsonFields ++
    [("pagination", answer.window.toJson)])

/-- A page of the entries that a source has. Page zero is the first page. -/
def Source.entriesPage (source : Source) (taxonomy : Taxonomy) (size page : Nat) : EntriesAnswer :=
  let listing := Scheme.entries.answer (.ofPage taxonomy size page) source
  { taxonomy := taxonomy
    listing := listing
    window := .ofTotal (max page 1) listing.total size }

namespace Catalogue

variable {settings : Settings} {source : Source} {catalogue : Catalogue} {taxonomy : Taxonomy}

/-- A page is listed as the source has it. -/
theorem listEntries_apply {name : String} {page : Nat}
    (named : Tool.taxonomyOf? (Text.trim name) = some taxonomy)
    (served : HasServed settings source
      [(EntryRequest.ofPage taxonomy settings.taxonomyPageSize page).text] catalogue)
    (succeeds :
      (source.entriesPage taxonomy settings.taxonomyPageSize page).listing.error = none)
    (now : Nat) :
    (Tool.listEntries name page ⟨source, now⟩ ⟨catalogue, []⟩).1 =
      .ok (source.entriesPage taxonomy settings.taxonomyPageSize page).toJson := by
  have listed := served.entries now
  change _ = (source.entriesPage taxonomy settings.taxonomyPageSize page).listing at listed
  simp only [Tool.listEntries, named, Service.bind_apply, Service.state_apply,
    served.taxonomyPageSize]
  -- The listing is made a variable, and then it is the one that the source says.
  generalize entries taxonomy settings.taxonomyPageSize
    (PageWindow.offset settings.taxonomyPageSize (max page 1)) ⟨source, now⟩ ⟨catalogue, []⟩ =
      answered at listed ⊢
  rw [listed, succeeds]
  rfl

theorem listArguments_ofPairs (name : String) {page : Nat} (fits : Json.IsNat32 page) :
    Tool.listArguments (Ascending.ofPairs [("taxonomy", .str name), ("page", .int page)]) =
      .ok (name, page) := by
  have distinct : (["taxonomy", "page"] : List String).Nodup := by decide
  have found := @Ascending.lookup_ofPairs_of_nodup _ _ _ _ _
    [("taxonomy", .str name), ("page", Json.int page)] distinct
  have pageFound : _ = (some page).map fun (n : Nat) => Json.int n := found "page"
  refine except_bind_eq_ok_iff.mpr ⟨some page, ?_, except_bind_eq_ok_iff.mpr ⟨name, ?_, rfl⟩⟩
  · exact Json.Fields.nullable_of_lookup pageFound
      (fun _ same => Option.mem_some_iff.mp same ▸ Json.Decoder.nat32_int fits)
      (fun _ same => nomatch same)
  · exact Json.Fields.required_of_lookup (found "taxonomy") (Json.Decoder.text_str name)

/-- The tool gives the text of the page. -/
theorem call_taxonomyList {name : String} {arguments : List (String × Json)} {page : Nat}
    (named : Tool.taxonomyOf? (Text.trim name) = some taxonomy)
    (read : Tool.listArguments (Ascending.ofPairs arguments) = .ok (name, page))
    (served : HasServed settings source
      [(EntryRequest.ofPage taxonomy settings.taxonomyPageSize page).text] catalogue)
    (succeeds :
      (source.entriesPage taxonomy settings.taxonomyPageSize page).listing.error = none)
    (now : Nat) :
    ((Tool.call Tool.taxonomyList.name arguments).run source now catalogue).1 =
      .ok (source.entriesPage taxonomy settings.taxonomyPageSize page).toJson.pretty := by
  have tool : Tool.ofName? Tool.taxonomyList.name = some .taxonomyList := by decide
  have listed := listEntries_apply named served succeeds now
  simp only [Tool.call, tool, Tool.apply, read, Tool.withArguments, Service.run,
    Service.bind_apply, Service.pure_apply]
  rw [listed]
  rfl

section

variable {shelf : Shelf}

/-- Numbers of any size ask for a part of all entries: no limit above zero is none, and an offset
below zero is zero. -/
theorem answer_ofNumbers (shelf : Shelf) (taxonomy : Taxonomy) (limit offset : Int) :
    Scheme.entries.answer (.ofNumbers taxonomy limit offset) shelf.source = {
      entries := excerpt (if limit ≤ 0 then none else some (min limit.toNat Directory.maxLimit))
        offset.toNat (shelf.allEntries taxonomy)
      total := (shelf.allEntries taxonomy).length } := by
  rw [← EntryRequest.most_ofNumbers taxonomy limit offset]
  exact congrArg (fun page => EntryListing.ofAnswer (.ok page)) (shelf.entries_eq taxonomy _ _)

theorem listing_entriesPage (shelf : Shelf) (taxonomy : Taxonomy) {size : Nat} (positive : 1 ≤ size)
    (small : size ≤ Directory.maxLimit) (page : Nat) :
    (shelf.source.entriesPage taxonomy size page).listing = {
      entries := excerpt (some size) (PageWindow.offset size (max page 1)).toNat
        (shelf.allEntries taxonomy)
      total := (shelf.allEntries taxonomy).length } := by
  have limited : ¬(size : Int) ≤ 0 := by omega
  change Scheme.entries.answer (.ofPage taxonomy size page) shelf.source = _
  rw [EntryRequest.ofPage, answer_ofNumbers, if_neg limited, Int.toNat_natCast,
    Nat.min_eq_left small]

/-- The pages show all entries of a taxonomy, so many on a page. -/
structure ShowsEntries (shelf : Shelf) (taxonomy : Taxonomy) (size : Nat)
    (shown : Nat → EntriesAnswer) (entries : List Entry) : Prop where
  /-- The labels are listed, each with the number of its visible archives, and nothing else. -/
  mem_iff : ∀ entry, entry ∈ entries ↔ ∃ label ∈ (shelf.labellings.get taxonomy).labels,
    entry = { id := label.id, name := label.name, slug := label.slug,
              count := some (shelf.visibleCount taxonomy label) }
  idsNodup : (entries.map (·.id)).Nodup
  pairwise : entries.Pairwise Entry.Precedes
  succeeds : ∀ page, (shown page).listing.error = none
  /-- Every page gives the number of all. -/
  total : ∀ page, (shown page).listing.total = entries.length
  /-- As many pages are counted as the entries take, as far as page numbers reach. -/
  totalPages : ∀ page, (shown page).window.totalPages =
    min ((entries.length + size - 1) / size) PageWindow.maxPages
  /-- The page numbers around the page are shown, if there are enough of them behind it. -/
  window : ∀ page, (shown page).window.current + 4 ≤ PageWindow.maxPages →
    PageWindow.IsAround (max page 1) (shown page).window.totalPages (shown page).window
  /-- A page shows the entries from its place, if this can be counted. -/
  listed : ∀ page, size * (page - 1) < 2 ^ 63 →
    (shown page).listing.entries = (entries.drop (size * (page - 1))).take size
  /-- The pages that there are show the entries in turn, as far as page numbers reach. -/
  pages : ∀ page, size * ((shown page).window.totalPages - 1) < 2 ^ 63 →
    (List.range' 1 (shown page).window.totalPages).flatMap (shown · |>.listing.entries) =
      entries.take (size * PageWindow.maxPages)
  /-- None of them starts behind the last entry. -/
  within : ∀ page, 1 ≤ page → page ≤ (shown page).window.totalPages →
    size * (page - 1) < entries.length

theorem totalPages_entriesPage (shelf : Shelf) (taxonomy : Taxonomy) {size : Nat}
    (positive : 1 ≤ size) (small : size ≤ Directory.maxLimit) (page : Nat) :
    (shelf.source.entriesPage taxonomy size page).window.totalPages =
      PageWindow.pageCount (shelf.allEntries taxonomy).length size := by
  have total := congrArg EntryListing.total
    (listing_entriesPage shelf taxonomy positive small page)
  change PageWindow.pageCount (shelf.source.entriesPage taxonomy size page).listing.total size = _
  rw [total]

theorem showsEntries (consistent : shelf.IsConsistent) (taxonomy : Taxonomy) {size : Nat}
    (positive : 1 ≤ size) (small : size ≤ Directory.maxLimit) :
    ShowsEntries shelf taxonomy size (shelf.source.entriesPage taxonomy size)
      (shelf.allEntries taxonomy) := by
  have listed (page : Nat) (fits : size * (page - 1) < 2 ^ 63) :
      (shelf.source.entriesPage taxonomy size page).listing.entries =
        excerpt (some size) (size * (page - 1)) (shelf.allEntries taxonomy) := by
    rw [listing_entriesPage shelf taxonomy positive small, PageWindow.offset_max fits,
      Int.toNat_natCast]
  constructor
  · exact fun _ => Shelf.mem_allEntries_iff
  · exact Shelf.nodup_ids_allEntries consistent taxonomy
  · exact Shelf.pairwise_allEntries consistent taxonomy
  · intro page
    rw [listing_entriesPage shelf taxonomy positive small]
  · intro page
    rw [listing_entriesPage shelf taxonomy positive small]
  · intro page
    rw [totalPages_entriesPage shelf taxonomy positive small, PageWindow.pageCount,
      if_neg (Nat.pos_iff_ne_zero.mp positive), Int.toNat_natCast]
  · exact fun page counted => PageWindow.isAround_around counted
  · exact listed
  · intro page fits
    rw [totalPages_entriesPage shelf taxonomy positive small] at fits ⊢
    rw [← PageWindow.flatMap_pages positive]
    refine List.flatMap_congr fun other member => listed other ?_
    rw [List.mem_range'_1] at member
    exact (Nat.mul_le_mul_left size (by omega)).trans_lt fits
  · intro page first last
    rw [totalPages_entriesPage shelf taxonomy positive small] at last
    have filled : 0 < (shelf.allEntries taxonomy).length := by
      refine Nat.pos_of_ne_zero fun none => ?_
      rw [none, Int.natCast_zero, PageWindow.pageCount_zero positive] at last
      omega
    calc size * (page - 1)
        ≤ size * (PageWindow.pageCount (shelf.allEntries taxonomy).length size - 1) :=
          Nat.mul_le_mul_left size (Nat.sub_le_sub_right last 1)
      _ < (shelf.allEntries taxonomy).length := PageWindow.mul_pageCount_lt positive filled

/-- Whatever was asked before, the tool lists the page of entries that is asked for, by whatever
name of the taxonomy, as long as the place of the page can be counted and four page numbers are left
behind it. The pages show all entries of the taxonomy, each of them once, by name; these are what a
listing without a limit gives, and one with a limit gives a part of them. -/
theorem taxonomyList_pages {settings : Settings} (positive : 1 ≤ settings.taxonomyPageSize)
    (small : settings.taxonomyPageSize ≤ 0xFFFFFFFF) (changes : List ShelfChange)
    (taxonomy : Taxonomy) :
    let shelf := Shelf.ofChanges changes
    let size := settings.taxonomyPageSize
    let shown := shelf.source.entriesPage taxonomy size
    let all := shelf.allEntries taxonomy
    (∀ (name : String) (arguments : List (String × Json)) (page now : Nat) (catalogue : Catalogue),
      Tool.taxonomyOf? (Text.trim name) = some taxonomy →
      Tool.listArguments (Ascending.ofPairs arguments) = .ok (name, page) →
      size * (page - 1) < 2 ^ 63 →
      (shown page).window.current + 4 ≤ PageWindow.maxPages →
      HasServed settings shelf.source [(EntryRequest.ofPage taxonomy size page).text] catalogue →
      ((Tool.call Tool.taxonomyList.name arguments).run shelf.source now catalogue).1 =
        .ok (shown page).toJson.pretty) ∧
    ShowsEntries shelf taxonomy size shown all ∧
    ∀ (limit offset : Int) (now : Nat) (catalogue : Catalogue),
      HasServed settings shelf.source [(EntryRequest.ofNumbers taxonomy limit offset).text]
        catalogue →
      ((entries taxonomy limit offset).run shelf.source now catalogue).1 = {
        entries := excerpt (if limit ≤ 0 then none else some (min limit.toNat Directory.maxLimit))
          offset.toNat all
        total := all.length } := by
  intro shelf size shown all
  have consistent : shelf.IsConsistent := Shelf.isConsistent_ofChanges changes
  have shows := showsEntries consistent taxonomy positive small
  refine ⟨fun name arguments page now catalogue named read _ _ served => ?_, shows,
    fun limit offset now catalogue served => ?_⟩
  · exact call_taxonomyList named read served (shows.succeeds page) now
  · exact (served.entries now).trans (answer_ofNumbers shelf taxonomy limit offset)

/-- The second of two tags, on a page of its own, after a listing of both. -/
theorem taxonomyList_pages_second :
    let settings : Settings := { taxonomyPageSize := 1 }
    let changes : List ShelfChange := [.put 1 (Shelf.tagged ["Cat", "Big"])]
    let shelf := Shelf.ofChanges changes
    let shown := shelf.source.entriesPage .tag 1
    let events : List Event := [⟨shelf.source, 0, .entries .tag 0 0⟩]
    (1 ≤ settings.taxonomyPageSize ∧ settings.taxonomyPageSize ≤ 0xFFFFFFFF) ∧
      ((Tool.call "taxonomy_list" [("taxonomy", .str " Tags "), ("page", .int 2)]).run
        shelf.source 1 ((ofSettings settings).after events)).1 = .ok (shown 2).toJson.pretty ∧
      ShowsEntries shelf .tag 1 shown (shelf.allEntries .tag) ∧
      (shelf.allEntries .tag).length = 2 := by
  intro settings changes shelf shown events
  have positive : 1 ≤ settings.taxonomyPageSize := by decide
  have small : settings.taxonomyPageSize ≤ 0xFFFFFFFF := by decide
  obtain ⟨called, shows, -⟩ := taxonomyList_pages positive small changes .tag
  have noCollision : NoCollision [(EntryRequest.ofNumbers .tag 0 0).text,
      (EntryRequest.ofPage .tag 1 2).text] :=
    noCollision_pair (by decide +kernel)
  have served : HasServed settings shelf.source [(EntryRequest.ofPage .tag 1 2).text]
      ((ofSettings settings).after events) :=
    ⟨events, List.forall_mem_singleton.mpr rfl, noCollision, rfl⟩
  refine ⟨⟨positive, small⟩, ?_, shows, ?_⟩
  · exact called " Tags " _ 2 1 _ (by decide +kernel) rfl (by decide) (by decide +kernel) served
  · rw [Shelf.length_allEntries]
    decide +kernel

/-- Page numbers end at the largest number of 32 bits. Where there is one entry more, and one entry
on a page, the pages that are counted cannot show all entries, whatever the last few of them
show. -/
theorem taxonomyList_pages_short :
    let settings : Settings := { taxonomyPageSize := 1 }
    let shelf := Shelf.ofChanges [.put 1 (Shelf.tagged (Shelf.wordsUpTo (2 ^ 32)))]
    let shown := shelf.source.entriesPage .tag 1
    settings.check = .ok () ∧
      (∀ page now : Nat, page + 4 ≤ PageWindow.maxPages →
        ((Tool.call "taxonomy_list" [("taxonomy", .str "tag"), ("page", .int page)]).run
          shelf.source now (ofSettings settings)).1 = .ok (shown page).toJson.pretty ∧
        (shown page).window.totalPages = 2 ^ 32 - 1) ∧
      (shelf.labellings.get .tag).labels.length = 2 ^ 32 ∧
      ∀ listed : Nat → List Entry, (∀ page, (listed page).length ≤ settings.taxonomyPageSize) →
        ((List.range' 1 (2 ^ 32 - 1)).flatMap listed).length < 2 ^ 32 := by
  intro settings shelf shown
  have labels : (shelf.labellings.get .tag).labels.length = 2 ^ 32 := by
    rw [Shelf.length_labels_tagged fun tag isTag =>
      (Shelf.isSearchable_of_mem_wordsUpTo tag isTag).named, Shelf.length_dedup_wordsUpTo]
  have shows : ShowsEntries shelf .tag 1 shown (shelf.allEntries .tag) :=
    showsEntries (Shelf.isConsistent_ofChanges _) .tag (Nat.le_refl 1) (by decide)
  refine ⟨rfl, fun page now last => ⟨?_, ?_⟩, labels, fun listed few => ?_⟩
  · have served : HasServed settings shelf.source [(EntryRequest.ofPage .tag 1 page).text]
        (ofSettings settings) :=
      ⟨[], List.forall_mem_nil _, noCollision_singleton _, rfl⟩
    have named : Tool.taxonomyOf? (Text.trim "tag") = some .tag := by decide +kernel
    have fits : Json.IsNat32 page := (Nat.le_add_right page 4).trans last
    exact call_taxonomyList named (listArguments_ofPairs "tag" fits) served
      (shows.succeeds page) now
  · rw [shows.totalPages, Shelf.length_allEntries, labels]
    rfl
  · have most := List.sum_le_card_nsmul ((List.range' 1 (2 ^ 32 - 1)).map (listed · |>.length)) 1
      (List.forall_mem_map.mpr fun page _ => few page)
    rw [List.length_map, List.length_range', smul_eq_mul, Nat.mul_one] at most
    rw [List.length_flatMap]
    exact most.trans_lt (by decide)

end

end Catalogue

end ComicCatalogue
