import ComicCatalogue.Archive
import ComicCatalogue.PageWindow
import ComicCatalogue.Settings.Basic
import ComicCatalogue.Proofs.Json.Fields
import ComicCatalogue.Proofs.Query.Normal

/-!
# Records as texts

Archives, filters, windows and settings are read back from their texts. Numbers have to be in the
range of their field, and every number that is read is; texts may be any. What a record leaves out
of its text because it is empty is empty again when the text is read.
-/

namespace ComicCatalogue

namespace Json

section

variable {α β : Type} {toJson : α → Json} {decoder : Decoder α} {Fits : α → Prop}

/-- The record that a text holds. -/
def read? (decoder : Decoder α) (text : String) : Option α :=
  (parse? text).bind fun value => (decoder value).toOption

/-- The text of the record that a text holds. -/
def rewrite? (toJson : α → Json) (decoder : Decoder α) (text : String) : Option String :=
  (read? decoder text).map fun a => (toJson a).compact

/-- Records of a kind are written and read without loss. -/
structure RoundTrips (Fits : α → Prop) (toJson : α → Json) (decoder : Decoder α) : Prop where
  /-- A record is read back from its text. -/
  reads : ∀ a, Fits a → read? decoder (toJson a).compact = some a
  /-- Only records that can be written are read. -/
  fits : ∀ text a, read? decoder text = some a → Fits a
  /-- A text that was read and written stays as it is. -/
  settles : ∀ text once, rewrite? toJson decoder text = some once →
    rewrite? toJson decoder once = some once
  /-- Different records have different texts. -/
  separates : ∀ a b, Fits a → Fits b → (toJson a).compact = (toJson b).compact → a = b

/-- The field of a part is left out if the part is empty, and the part is empty if the field is
missing. -/
structure Omits (toJson : α → Json) (decoder : Decoder α) (name : String) (part : α → β)
    (empty : β) : Prop where
  shown : ∀ a, ∃ fields, toJson a = obj fields ∧ (name ∈ fields.map (·.1) ↔ part a ≠ empty)
  missing : ∀ fields a, decoder (obj fields) = .ok a → name ∉ fields.map (·.1) → part a = empty

theorem read?_eq_some_iff {text : String} {a : α} :
    read? decoder text = some a ↔ ∃ value, parse? text = some value ∧ decoder value = .ok a := by
  rw [read?, Option.bind_eq_some_iff]
  refine exists_congr fun value => and_congr_right fun _ => ?_
  cases decoder value with
  | error error => exact ⟨fun read => (nomatch read), fun read => (nomatch read)⟩
  | ok b => exact ⟨fun same => congrArg _ (Option.some.inj same),
      fun same => congrArg _ (Except.ok.inj same)⟩

/-- Records that are read back from their values are read back from their texts, if the numbers
that they hold can be written. -/
theorem RoundTrips.of_values (bounded : ∀ a, Fits a → (toJson a).IsBounded)
    (reads : ∀ a, Fits a → decoder (toJson a) = .ok a) (gives : decoder.Gives Fits) :
    RoundTrips Fits toJson decoder := by
  have readsBack (a : α) (fit : Fits a) : read? decoder (toJson a).compact = some a :=
    read?_eq_some_iff.mpr ⟨toJson a, parse?_compact (bounded a fit), reads a fit⟩
  have fits (text : String) (a : α) (read : read? decoder text = some a) : Fits a := by
    obtain ⟨value, -, read⟩ := read?_eq_some_iff.mp read
    exact gives value a read
  refine ⟨readsBack, fits, fun text once written => ?_, fun a b fitA fitB same => ?_⟩
  · obtain ⟨a, read, rfl⟩ := Option.map_eq_some_iff.mp written
    rw [rewrite?, readsBack a (fits text a read), Option.map_some]
  · have read := readsBack a fitA
    rw [same, readsBack b fitB] at read
    exact (Option.some.inj read).symm

variable {name : String} {part : α → β} {empty : β}

/-- A part that is written if it is not empty, and read with the empty one as its default. -/
theorem Omits.of_parts {parts : α → List (String × Option Json)} (write : β → Option Json)
    (toJson_eq : ∀ a, toJson a = obj (written (parts a)))
    (distinct : ∀ a, ((parts a).map (·.1)).Nodup) (member : ∀ a, (name, write (part a)) ∈ parts a)
    (none_iff : ∀ b, write b = none ↔ b = empty)
    (reads : ∀ fields a, decoder (obj fields) = .ok a →
      fields.lookup name = none → part a = empty) :
    Omits toJson decoder name part empty where
  shown a := by
    refine ⟨written (parts a), toJson_eq a, ?_⟩
    rw [mem_names_written_iff (distinct a) (member a), ne_eq, none_iff]
  missing fields a read absent := reads fields a read (lookup_eq_none_of_notMem absent)

end

end Json

open Json

/-! ### Entries -/

namespace Entry

/-- The fields of an entry. -/
def parts (entry : Entry) : List (String × Option Json) :=
  [("id", some (.int entry.id)), ("name", some (.str entry.name)), ("slug", some (.str entry.slug)),
    ("count", entry.count.map .int)]

/-- The numbers of the entry are in range. -/
structure Fits (entry : Entry) : Prop where
  id : IsInt64 entry.id
  count : ∀ n ∈ entry.count, IsInt64 n

/-- The entry holds what the fields say. -/
structure ReadFrom (fields : Fields) (entry : Entry) : Prop where
  id : fields.required "id" .int64 = .ok entry.id
  name : fields.required "name" .text = .ok entry.name
  slug : fields.required "slug" .text = .ok entry.slug
  count : fields.nullable "count" .int64 = .ok entry.count

variable {entry : Entry} {value : Json}

theorem toJson_eq (entry : Entry) : entry.toJson = .obj (written entry.parts) := by
  simp only [parts, written_cons, written_nil, List.append_nil]
  rfl

theorem nodup_names_parts (entry : Entry) : (entry.parts.map (·.1)).Nodup := by
  show ["id", "name", "slug", "count"].Nodup
  decide

theorem ofJson_eq_ok_iff : ofJson value = .ok entry ↔
    ∃ fields, Json.fields ["id", "name", "slug", "count"] value = .ok fields ∧
      ReadFrom fields entry := by
  simp only [ofJson, except_bind_eq_ok_iff, pure, Except.pure, Except.ok.injEq]
  refine exists_congr fun fields => and_congr_right fun _ => ?_
  constructor
  · rintro ⟨id, readId, name, readName, slug, readSlug, count, readCount, rfl⟩
    exact ⟨readId, readName, readSlug, readCount⟩
  · rintro ⟨readId, readName, readSlug, readCount⟩
    exact ⟨_, readId, _, readName, _, readSlug, _, readCount, rfl⟩

theorem ofJson_gives : Decoder.Gives ofJson Fits := by
  intro value entry read
  obtain ⟨fields, -, read⟩ := ofJson_eq_ok_iff.mp read
  exact {
    id := Fields.required_gives Decoder.int64_gives read.id
    count := Fields.nullable_gives Decoder.int64_gives read.count }

theorem Fits.ofJson_toJson (fits : entry.Fits) : ofJson entry.toJson = .ok entry := by
  rw [toJson_eq]
  refine ofJson_eq_ok_iff.mpr ⟨_, fieldsWith_written entry.nodup_names_parts _ _, ?_⟩
  have found {name : String} {part : Option Json} (member : (name, part) ∈ entry.parts) :=
    lookup_written entry.nodup_names_parts member
  exact {
    id := Fields.required_of_lookup (found (by simp [parts])) (Decoder.int64_int fits.id)
    name := Fields.required_of_lookup (found (by simp [parts])) (Decoder.text_str entry.name)
    slug := Fields.required_of_lookup (found (by simp [parts])) (Decoder.text_str entry.slug)
    count := Fields.nullable_of_lookup (found (by simp [parts]))
      (fun n member => Decoder.int64_int (fits.count n member)) (fun _ same => nomatch same) }

theorem Fits.isBounded_toJson (fits : entry.Fits) : entry.toJson.IsBounded := by
  rw [toJson_eq]
  refine haveBounded_written_iff.mpr ?_
  simp only [parts, List.forall_mem_cons, Option.mem_some_iff, forall_eq']
  refine ⟨fits.id.isBounded, trivial, trivial, ?_, List.forall_mem_nil _⟩
  rintro value member
  obtain ⟨n, isCount, rfl⟩ := Option.map_eq_some_iff.mp member
  exact (fits.count n isCount).isBounded

theorem omits_count : Omits toJson ofJson "count" count none := by
  refine .of_parts (Option.map .int) toJson_eq nodup_names_parts (fun entry => ?_)
    (fun _ => Option.map_eq_none_iff) fun fields entry read missing => ?_
  · simp [parts]
  · obtain ⟨_, fieldsEq, parts⟩ := ofJson_eq_ok_iff.mp read
    obtain rfl := eq_of_fieldsWith_obj fieldsEq
    exact Fields.nullable_of_missing missing parts.count

end Entry

/-! ### Archives -/

namespace Archive

/-- The fields of an archive. -/
def parts (archive : Archive) : List (String × Option Json) :=
  [("id", some (.int archive.id)),
    ("title", some (.str archive.title)),
    ("slug", some (.str archive.slug)),
    ("path", some (.str archive.path)),
    ("pages", some (.int archive.pages)),
    ("size", some (.int archive.size)),
    ("created_at", some (.str archive.createdAt)),
    ("updated_at", some (.str archive.updatedAt)),
    ("published_at", archive.publishedAt.map .str)] ++
    Taxonomy.all.map fun taxonomy =>
      (taxonomy.plural, listPart Entry.toJson (archive.relations.get taxonomy))

/-- The numbers of the archive and of its entries are in range. -/
structure Fits (archive : Archive) : Prop where
  id : IsInt64 archive.id
  pages : IsInt64 archive.pages
  size : IsInt64 archive.size
  relations : ∀ taxonomy, ∀ entry ∈ archive.relations.get taxonomy, entry.Fits

/-- The archive holds what the fields say. -/
structure ReadFrom (fields : Fields) (archive : Archive) : Prop where
  id : fields.required "id" .int64 = .ok archive.id
  title : fields.required "title" .text = .ok archive.title
  slug : fields.required "slug" .text = .ok archive.slug
  path : fields.required "path" .text = .ok archive.path
  pages : fields.required "pages" .int64 = .ok archive.pages
  size : fields.required "size" .int64 = .ok archive.size
  createdAt : fields.required "created_at" .text = .ok archive.createdAt
  updatedAt : fields.required "updated_at" .text = .ok archive.updatedAt
  publishedAt : fields.nullable "published_at" .text = .ok archive.publishedAt
  relations (taxonomy : Taxonomy) :
    fields.list taxonomy.plural Entry.ofJson = .ok (archive.relations.get taxonomy)

variable {archive : Archive} {value : Json}

theorem toJson_eq (archive : Archive) : archive.toJson = .obj (written archive.parts) := by
  rw [toJson, relationFields, parts, written_append, written_map]
  simp only [written_cons, written_nil, listField_eq, List.append_nil]
  rfl

theorem map_fst_parts (archive : Archive) : archive.parts.map (·.1) = fieldNames := rfl

theorem nodup_names_parts (archive : Archive) : (archive.parts.map (·.1)).Nodup := by
  rw [map_fst_parts]
  decide

theorem relation_mem_parts (archive : Archive) (taxonomy : Taxonomy) :
    (taxonomy.plural, listPart Entry.toJson (archive.relations.get taxonomy)) ∈ archive.parts :=
  List.mem_append_right _ (List.mem_map_of_mem taxonomy.mem_all)

theorem ofJson_eq_ok_iff : ofJson value = .ok archive ↔
    ∃ fields, Json.fields fieldNames value = .ok fields ∧ ReadFrom fields archive := by
  simp only [ofJson, except_bind_eq_ok_iff, pure, Except.pure, Except.ok.injEq]
  refine exists_congr fun fields => and_congr_right fun _ => ?_
  constructor
  · rintro ⟨id, readId, title, readTitle, slug, readSlug, path, readPath, pages, readPages,
      size, readSize, createdAt, readCreated, updatedAt, readUpdated, publishedAt, readPublished,
      artists, readArtists, circles, readCircles, magazines, readMagazines, parodies, readParodies,
      tags, readTags, rfl⟩
    refine ⟨readId, readTitle, readSlug, readPath, readPages, readSize, readCreated, readUpdated,
      readPublished, fun taxonomy => ?_⟩
    cases taxonomy with
    | artist => exact readArtists
    | circle => exact readCircles
    | magazine => exact readMagazines
    | parody => exact readParodies
    | tag => exact readTags
  · rintro ⟨readId, readTitle, readSlug, readPath, readPages, readSize, readCreated, readUpdated,
      readPublished, readRelations⟩
    exact ⟨_, readId, _, readTitle, _, readSlug, _, readPath, _, readPages, _, readSize,
      _, readCreated, _, readUpdated, _, readPublished, _, readRelations .artist,
      _, readRelations .circle, _, readRelations .magazine, _, readRelations .parody,
      _, readRelations .tag, rfl⟩

theorem ofJson_gives : Decoder.Gives ofJson Fits := by
  intro value archive read
  obtain ⟨fields, -, read⟩ := ofJson_eq_ok_iff.mp read
  exact {
    id := Fields.required_gives Decoder.int64_gives read.id
    pages := Fields.required_gives Decoder.int64_gives read.pages
    size := Fields.required_gives Decoder.int64_gives read.size
    relations taxonomy := Fields.list_gives Entry.ofJson_gives (read.relations taxonomy) }

theorem Fits.ofJson_toJson (fits : archive.Fits) : ofJson archive.toJson = .ok archive := by
  rw [toJson_eq]
  refine ofJson_eq_ok_iff.mpr ⟨_, fieldsWith_written archive.nodup_names_parts _ _, ?_⟩
  have found {name : String} {part : Option Json} (member : (name, part) ∈ archive.parts) :=
    lookup_written archive.nodup_names_parts member
  have number {name : String} {n : Int} (member : (name, some (.int n)) ∈ archive.parts)
      (inRange : IsInt64 n) := Fields.required_of_lookup (found member) (Decoder.int64_int inRange)
  have text {name text : String} (member : (name, some (.str text)) ∈ archive.parts) :=
    Fields.required_of_lookup (found member) (Decoder.text_str text)
  exact {
    id := number (by simp [parts]) fits.id
    title := text (by simp [parts])
    slug := text (by simp [parts])
    path := text (by simp [parts])
    pages := number (by simp [parts]) fits.pages
    size := number (by simp [parts]) fits.size
    createdAt := text (by simp [parts])
    updatedAt := text (by simp [parts])
    publishedAt := Fields.nullable_of_lookup (found (by simp [parts]))
      (fun text _ => Decoder.text_str text) (fun _ same => nomatch same)
    relations taxonomy := Fields.list_of_lookup (found (archive.relation_mem_parts taxonomy))
      fun entry member => (fits.relations taxonomy entry member).ofJson_toJson }

theorem Fits.isBounded_toJson (fits : archive.Fits) : archive.toJson.IsBounded := by
  rw [toJson_eq]
  refine haveBounded_written_iff.mpr (List.forall_mem_append.mpr ⟨?_, List.forall_mem_map.mpr ?_⟩)
  · simp only [List.forall_mem_cons, Option.mem_some_iff, forall_eq']
    refine ⟨fits.id.isBounded, trivial, trivial, trivial, fits.pages.isBounded,
      fits.size.isBounded, trivial, trivial, ?_, List.forall_mem_nil _⟩
    rintro value member
    obtain ⟨text, -, rfl⟩ := Option.map_eq_some_iff.mp member
    trivial
  · exact fun taxonomy _ => isBounded_listPart fun entry member =>
      (fits.relations taxonomy entry member).isBounded_toJson

theorem omits_publishedAt : Omits toJson ofJson "published_at" publishedAt none := by
  refine .of_parts (Option.map .str) toJson_eq nodup_names_parts (fun archive => ?_)
    (fun _ => Option.map_eq_none_iff) fun fields archive read missing => ?_
  · simp [parts]
  · obtain ⟨_, fieldsEq, parts⟩ := ofJson_eq_ok_iff.mp read
    obtain rfl := eq_of_fieldsWith_obj fieldsEq
    exact Fields.nullable_of_missing missing parts.publishedAt

theorem omits_relation (taxonomy : Taxonomy) :
    Omits toJson ofJson taxonomy.plural (fun archive => archive.relations.get taxonomy) [] := by
  refine .of_parts (listPart Entry.toJson) toJson_eq nodup_names_parts
    (fun archive => archive.relation_mem_parts taxonomy) (fun _ => listPart_eq_none_iff)
    fun fields archive read missing => ?_
  obtain ⟨_, fieldsEq, parts⟩ := ofJson_eq_ok_iff.mp read
  obtain rfl := eq_of_fieldsWith_obj fieldsEq
  exact Fields.list_of_missing missing (parts.relations taxonomy)

end Archive

/-! ### Filters -/

/-- The name of the field with the values of a kind of constraint. -/
def Slot.fieldName : Slot → String
  | ⟨.anyOf, false⟩ => "match"
  | ⟨.allOf, false⟩ => "matchAnd"
  | ⟨.anyOf, true⟩ => "wildcard"
  | ⟨.allOf, true⟩ => "wildcardAnd"
  | ⟨.noneOf, false⟩ => "excludedMatch"
  | ⟨.noneOf, true⟩ => "excludedWildcard"

namespace TaxonomyFilter

/-- The fields of a filter. -/
def parts (filter : TaxonomyFilter) : List (String × Option Json) :=
  Slot.all.map fun slot => (slot.fieldName, listPart .str (filter.get slot))

variable {filter : TaxonomyFilter} {value : Json}

theorem toJson_eq (filter : TaxonomyFilter) : filter.toJson = .obj (written filter.parts) := by
  rw [toJson, parts, written_map]
  simp only [listField_eq, Slot.all, List.flatMap_cons, List.flatMap_nil, List.append_nil,
    List.append_assoc]
  rfl

theorem map_fst_parts (filter : TaxonomyFilter) : filter.parts.map (·.1) = fieldNames := rfl

theorem nodup_names_parts (filter : TaxonomyFilter) : (filter.parts.map (·.1)).Nodup := by
  rw [map_fst_parts]
  decide

theorem slot_mem_parts (filter : TaxonomyFilter) (slot : Slot) :
    (slot.fieldName, listPart .str (filter.get slot)) ∈ filter.parts :=
  List.mem_map_of_mem slot.mem_all

theorem ofJson_eq_ok_iff : ofJson value = .ok filter ↔
    ∃ fields, Json.fields fieldNames value = .ok fields ∧
      ∀ slot : Slot, fields.list slot.fieldName .text = .ok (filter.get slot) := by
  simp only [ofJson, except_bind_eq_ok_iff, pure, Except.pure, Except.ok.injEq]
  refine exists_congr fun fields => and_congr_right fun _ => ?_
  constructor
  · rintro ⟨anyOf, readAny, allOf, readAll, anyContaining, readAnyContaining, allContaining,
      readAllContaining, noneOf, readNone, noneContaining, readNoneContaining, rfl⟩ ⟨mode, wildcard⟩
    cases mode with
    | anyOf => cases wildcard with
      | false => exact readAny
      | true => exact readAnyContaining
    | allOf => cases wildcard with
      | false => exact readAll
      | true => exact readAllContaining
    | noneOf => cases wildcard with
      | false => exact readNone
      | true => exact readNoneContaining
  · intro read
    exact ⟨_, read ⟨.anyOf, false⟩, _, read ⟨.allOf, false⟩, _, read ⟨.anyOf, true⟩,
      _, read ⟨.allOf, true⟩, _, read ⟨.noneOf, false⟩, _, read ⟨.noneOf, true⟩, rfl⟩

theorem ofJson_toJson (filter : TaxonomyFilter) : ofJson filter.toJson = .ok filter := by
  rw [toJson_eq]
  refine ofJson_eq_ok_iff.mpr ⟨_, fieldsWith_written filter.nodup_names_parts _ _, fun slot => ?_⟩
  exact Fields.list_of_lookup (lookup_written filter.nodup_names_parts (filter.slot_mem_parts slot))
    fun text _ => Decoder.text_str text

theorem isBounded_toJson (filter : TaxonomyFilter) : filter.toJson.IsBounded := by
  rw [toJson_eq]
  refine haveBounded_written_iff.mpr (List.forall_mem_map.mpr fun slot _ => ?_)
  exact isBounded_listPart fun _ _ => trivial

theorem omits_slot (slot : Slot) :
    Omits toJson ofJson slot.fieldName (fun filter => filter.get slot) [] := by
  refine .of_parts (listPart .str) toJson_eq nodup_names_parts
    (fun filter => filter.slot_mem_parts slot) (fun _ => listPart_eq_none_iff)
    fun fields filter read missing => ?_
  obtain ⟨_, fieldsEq, parts⟩ := ofJson_eq_ok_iff.mp read
  obtain rfl := eq_of_fieldsWith_obj fieldsEq
  exact Fields.list_of_missing missing (parts slot)

end TaxonomyFilter

/-! ### Windows of page numbers -/

namespace PageWindow

/-- The fields of a window. -/
def parts (window : PageWindow) : List (String × Option Json) :=
  [("current", some (.int window.current)), ("total_pages", some (.int window.totalPages)),
    ("pages", some (.arr (window.pages.map fun (page : Nat) => .int page)))]

/-- The numbers of the window are in range. -/
structure Fits (window : PageWindow) : Prop where
  current : IsNat32 window.current
  totalPages : IsNat32 window.totalPages
  pages : ∀ page ∈ window.pages, IsNat32 page

/-- The window holds what the fields say. -/
structure ReadFrom (fields : Fields) (window : PageWindow) : Prop where
  current : fields.required "current" .nat32 = .ok window.current
  totalPages : fields.required "total_pages" .nat32 = .ok window.totalPages
  pages : fields.required "pages" (.list .nat32) = .ok window.pages

variable {window : PageWindow} {value : Json}

theorem toJson_eq (window : PageWindow) : window.toJson = .obj (written window.parts) := rfl

theorem nodup_names_parts (window : PageWindow) : (window.parts.map (·.1)).Nodup := by
  show ["current", "total_pages", "pages"].Nodup
  decide

theorem ofJson_eq_ok_iff : ofJson value = .ok window ↔
    ∃ fields, Json.fields ["current", "total_pages", "pages"] value = .ok fields ∧
      ReadFrom fields window := by
  simp only [ofJson, except_bind_eq_ok_iff, pure, Except.pure, Except.ok.injEq]
  refine exists_congr fun fields => and_congr_right fun _ => ?_
  constructor
  · rintro ⟨current, readCurrent, totalPages, readTotal, pages, readPages, rfl⟩
    exact ⟨readCurrent, readTotal, readPages⟩
  · rintro ⟨readCurrent, readTotal, readPages⟩
    exact ⟨_, readCurrent, _, readTotal, _, readPages, rfl⟩

theorem ofJson_gives : Decoder.Gives ofJson Fits := by
  intro value window read
  obtain ⟨fields, -, read⟩ := ofJson_eq_ok_iff.mp read
  exact {
    current := Fields.required_gives Decoder.nat32_gives read.current
    totalPages := Fields.required_gives Decoder.nat32_gives read.totalPages
    pages := Fields.required_gives Decoder.nat32_gives.list read.pages }

theorem Fits.ofJson_toJson (fits : window.Fits) : ofJson window.toJson = .ok window := by
  rw [toJson_eq]
  refine ofJson_eq_ok_iff.mpr ⟨_, fieldsWith_written window.nodup_names_parts _ _, ?_⟩
  have found {name : String} {part : Option Json} (member : (name, part) ∈ window.parts) :=
    lookup_written window.nodup_names_parts member
  exact {
    current := Fields.required_of_lookup (found (by simp [parts])) (Decoder.nat32_int fits.current)
    totalPages :=
      Fields.required_of_lookup (found (by simp [parts])) (Decoder.nat32_int fits.totalPages)
    pages := Fields.required_of_lookup (found (by simp [parts]))
      (Decoder.list_map fun page member => Decoder.nat32_int (fits.pages page member)) }

theorem Fits.isBounded_toJson (fits : window.Fits) : window.toJson.IsBounded := by
  rw [toJson_eq]
  refine haveBounded_written_iff.mpr ?_
  simp only [parts, List.forall_mem_cons, Option.mem_some_iff, forall_eq']
  refine ⟨fits.current.isBounded, fits.totalPages.isBounded, ?_, List.forall_mem_nil _⟩
  exact areBounded_iff.mpr (List.forall_mem_map.mpr fun page member =>
    (fits.pages page member).isBounded)

end PageWindow

/-! ### Settings -/

namespace CacheSettings

/-- The fields of the settings of a cache. -/
def parts (settings : CacheSettings) : List (String × Option Json) :=
  [("capacity", some (.int settings.capacity)), ("ttl_secs", some (.int settings.seconds))]

/-- The numbers of the settings are in range. -/
structure Fits (settings : CacheSettings) : Prop where
  capacity : IsNat64 settings.capacity
  seconds : IsNat64 settings.seconds

/-- The settings hold what the fields say, and what is usual where they say nothing. -/
structure ReadFrom (fields : Fields) (settings : CacheSettings) : Prop where
  capacity :
    fields.withDefault "capacity" .nat64 ({} : CacheSettings).capacity = .ok settings.capacity
  seconds :
    fields.withDefault "ttl_secs" .nat64 ({} : CacheSettings).seconds = .ok settings.seconds

variable {surplus : Surplus} {settings : CacheSettings} {value : Json}

theorem fits_default : Fits {} :=
  ⟨by decide, by decide⟩

theorem toJson_eq (settings : CacheSettings) : settings.toJson = .obj (written settings.parts) :=
  rfl

theorem nodup_names_parts (settings : CacheSettings) : (settings.parts.map (·.1)).Nodup := by
  show ["capacity", "ttl_secs"].Nodup
  decide

theorem ofJson_eq_ok_iff : ofJson surplus value = .ok settings ↔
    ∃ fields, Json.fieldsWith surplus ["capacity", "ttl_secs"] value = .ok fields ∧
      ReadFrom fields settings := by
  simp only [ofJson, except_bind_eq_ok_iff, pure, Except.pure, Except.ok.injEq]
  refine exists_congr fun fields => and_congr_right fun _ => ?_
  constructor
  · rintro ⟨capacity, readCapacity, seconds, readSeconds, rfl⟩
    exact ⟨readCapacity, readSeconds⟩
  · rintro ⟨readCapacity, readSeconds⟩
    exact ⟨_, readCapacity, _, readSeconds, rfl⟩

theorem ofJson_gives (surplus : Surplus) : Decoder.Gives (ofJson surplus) Fits := by
  intro value settings read
  obtain ⟨fields, -, read⟩ := ofJson_eq_ok_iff.mp read
  exact {
    capacity := Fields.withDefault_gives Decoder.nat64_gives fits_default.capacity read.capacity
    seconds := Fields.withDefault_gives Decoder.nat64_gives fits_default.seconds read.seconds }

theorem Fits.ofJson_toJson (fits : settings.Fits) (surplus : Surplus) :
    ofJson surplus settings.toJson = .ok settings := by
  rw [toJson_eq]
  refine ofJson_eq_ok_iff.mpr ⟨_, fieldsWith_written settings.nodup_names_parts _ _, ?_⟩
  have found {name : String} {part : Option Json} (member : (name, part) ∈ settings.parts) :=
    lookup_written settings.nodup_names_parts member
  exact {
    capacity :=
      Fields.withDefault_of_lookup (found (by simp [parts])) (Decoder.nat64_int fits.capacity)
    seconds :=
      Fields.withDefault_of_lookup (found (by simp [parts])) (Decoder.nat64_int fits.seconds) }

theorem Fits.isBounded_toJson (fits : settings.Fits) : settings.toJson.IsBounded := by
  rw [toJson_eq]
  refine haveBounded_written_iff.mpr ?_
  simp only [parts, List.forall_mem_cons, Option.mem_some_iff, forall_eq']
  exact ⟨fits.capacity.isBounded, fits.seconds.isBounded, List.forall_mem_nil _⟩

end CacheSettings

namespace CachesSettings

/-- The fields of the settings of the caches. -/
def parts (settings : CachesSettings) : List (String × Option Json) :=
  [("archives", some settings.archives.toJson), ("archive", some settings.archive.toJson),
    ("taxonomies", some settings.taxonomies.toJson)]

/-- The numbers of the settings of each cache are in range. -/
structure Fits (settings : CachesSettings) : Prop where
  archives : settings.archives.Fits
  archive : settings.archive.Fits
  taxonomies : settings.taxonomies.Fits

/-- The settings hold what the fields say, and what is usual where they say nothing. -/
structure ReadFrom (surplus : Surplus) (fields : Fields) (settings : CachesSettings) : Prop where
  archives : fields.withDefault "archives" (CacheSettings.ofJson surplus) {} = .ok settings.archives
  archive : fields.withDefault "archive" (CacheSettings.ofJson surplus) {} = .ok settings.archive
  taxonomies :
    fields.withDefault "taxonomies" (CacheSettings.ofJson surplus) {} = .ok settings.taxonomies

variable {surplus : Surplus} {settings : CachesSettings} {value : Json}

theorem fits_default : Fits {} :=
  ⟨CacheSettings.fits_default, CacheSettings.fits_default, CacheSettings.fits_default⟩

theorem toJson_eq (settings : CachesSettings) : settings.toJson = .obj (written settings.parts) :=
  rfl

theorem nodup_names_parts (settings : CachesSettings) : (settings.parts.map (·.1)).Nodup := by
  show ["archives", "archive", "taxonomies"].Nodup
  decide

theorem ofJson_eq_ok_iff : ofJson surplus value = .ok settings ↔
    ∃ fields, Json.fieldsWith surplus ["archives", "archive", "taxonomies"] value = .ok fields ∧
      ReadFrom surplus fields settings := by
  simp only [ofJson, except_bind_eq_ok_iff, pure, Except.pure, Except.ok.injEq]
  refine exists_congr fun fields => and_congr_right fun _ => ?_
  constructor
  · rintro ⟨archives, readArchives, archive, readArchive, taxonomies, readTaxonomies, rfl⟩
    exact ⟨readArchives, readArchive, readTaxonomies⟩
  · rintro ⟨readArchives, readArchive, readTaxonomies⟩
    exact ⟨_, readArchives, _, readArchive, _, readTaxonomies, rfl⟩

theorem ofJson_gives (surplus : Surplus) : Decoder.Gives (ofJson surplus) Fits := by
  intro value settings read
  obtain ⟨fields, -, read⟩ := ofJson_eq_ok_iff.mp read
  have gives := CacheSettings.ofJson_gives surplus
  exact {
    archives := Fields.withDefault_gives gives CacheSettings.fits_default read.archives
    archive := Fields.withDefault_gives gives CacheSettings.fits_default read.archive
    taxonomies := Fields.withDefault_gives gives CacheSettings.fits_default read.taxonomies }

theorem Fits.ofJson_toJson (fits : settings.Fits) (surplus : Surplus) :
    ofJson surplus settings.toJson = .ok settings := by
  rw [toJson_eq]
  refine ofJson_eq_ok_iff.mpr ⟨_, fieldsWith_written settings.nodup_names_parts _ _, ?_⟩
  have found {name : String} {part : Option Json} (member : (name, part) ∈ settings.parts) :=
    lookup_written settings.nodup_names_parts member
  exact {
    archives := Fields.withDefault_of_lookup (found (by simp [parts]))
      (fits.archives.ofJson_toJson surplus)
    archive := Fields.withDefault_of_lookup (found (by simp [parts]))
      (fits.archive.ofJson_toJson surplus)
    taxonomies := Fields.withDefault_of_lookup (found (by simp [parts]))
      (fits.taxonomies.ofJson_toJson surplus) }

theorem Fits.isBounded_toJson (fits : settings.Fits) : settings.toJson.IsBounded := by
  rw [toJson_eq]
  refine haveBounded_written_iff.mpr ?_
  simp only [parts, List.forall_mem_cons, Option.mem_some_iff, forall_eq']
  exact ⟨fits.archives.isBounded_toJson, fits.archive.isBounded_toJson,
    fits.taxonomies.isBounded_toJson, List.forall_mem_nil _⟩

end CachesSettings

namespace Settings

/-- The fields of settings. -/
def parts (settings : Settings) : List (String × Option Json) :=
  [("db_path", some (.str settings.databasePath)), ("page_size", some (.int settings.pageSize)),
    ("taxonomy_page_size", some (.int settings.taxonomyPageSize)),
    ("caches", some settings.caches.toJson)]

/-- The numbers of the settings are in range. -/
structure Fits (settings : Settings) : Prop where
  pageSize : IsNat32 settings.pageSize
  taxonomyPageSize : IsNat32 settings.taxonomyPageSize
  caches : settings.caches.Fits

/-- The settings hold what the fields say, and what is usual where they say nothing. -/
structure ReadFrom (surplus : Surplus) (fields : Fields) (settings : Settings) : Prop where
  databasePath :
    fields.withDefault "db_path" .text ({} : Settings).databasePath = .ok settings.databasePath
  pageSize :
    fields.withDefault "page_size" .nat32 ({} : Settings).pageSize = .ok settings.pageSize
  taxonomyPageSize :
    fields.withDefault "taxonomy_page_size" .nat32 ({} : Settings).taxonomyPageSize =
      .ok settings.taxonomyPageSize
  caches :
    fields.withDefault "caches" (CachesSettings.ofJson surplus) ({} : Settings).caches =
      .ok settings.caches

variable {surplus : Surplus} {settings : Settings} {value : Json}

theorem fits_default : Fits {} :=
  ⟨by decide, by decide, CachesSettings.fits_default⟩

theorem toJson_eq (settings : Settings) : settings.toJson = .obj (written settings.parts) := rfl

theorem nodup_names_parts (settings : Settings) : (settings.parts.map (·.1)).Nodup := by
  show ["db_path", "page_size", "taxonomy_page_size", "caches"].Nodup
  decide

theorem ofJson_eq_ok_iff : ofJson surplus value = .ok settings ↔
    ∃ fields, Json.fieldsWith surplus ["db_path", "page_size", "taxonomy_page_size", "caches"]
        value = .ok fields ∧ ReadFrom surplus fields settings := by
  simp only [ofJson, except_bind_eq_ok_iff, pure, Except.pure, Except.ok.injEq]
  refine exists_congr fun fields => and_congr_right fun _ => ?_
  constructor
  · rintro ⟨path, readPath, pageSize, readSize, taxonomyPageSize, readTaxonomySize, caches,
      readCaches, rfl⟩
    exact ⟨readPath, readSize, readTaxonomySize, readCaches⟩
  · rintro ⟨readPath, readSize, readTaxonomySize, readCaches⟩
    exact ⟨_, readPath, _, readSize, _, readTaxonomySize, _, readCaches, rfl⟩

theorem ofJson_gives (surplus : Surplus) : Decoder.Gives (ofJson surplus) Fits := by
  intro value settings read
  obtain ⟨fields, -, read⟩ := ofJson_eq_ok_iff.mp read
  exact {
    pageSize := Fields.withDefault_gives Decoder.nat32_gives fits_default.pageSize read.pageSize
    taxonomyPageSize := Fields.withDefault_gives Decoder.nat32_gives fits_default.taxonomyPageSize
      read.taxonomyPageSize
    caches := Fields.withDefault_gives (CachesSettings.ofJson_gives surplus) fits_default.caches
      read.caches }

theorem Fits.ofJson_toJson (fits : settings.Fits) (surplus : Surplus) :
    ofJson surplus settings.toJson = .ok settings := by
  rw [toJson_eq]
  refine ofJson_eq_ok_iff.mpr ⟨_, fieldsWith_written settings.nodup_names_parts _ _, ?_⟩
  have found {name : String} {part : Option Json} (member : (name, part) ∈ settings.parts) :=
    lookup_written settings.nodup_names_parts member
  exact {
    databasePath := Fields.withDefault_of_lookup (found (by simp [parts]))
      (Decoder.text_str settings.databasePath)
    pageSize :=
      Fields.withDefault_of_lookup (found (by simp [parts])) (Decoder.nat32_int fits.pageSize)
    taxonomyPageSize := Fields.withDefault_of_lookup (found (by simp [parts]))
      (Decoder.nat32_int fits.taxonomyPageSize)
    caches := Fields.withDefault_of_lookup (found (by simp [parts]))
      (fits.caches.ofJson_toJson surplus) }

theorem Fits.isBounded_toJson (fits : settings.Fits) : settings.toJson.IsBounded := by
  rw [toJson_eq]
  refine haveBounded_written_iff.mpr ?_
  simp only [parts, List.forall_mem_cons, Option.mem_some_iff, forall_eq']
  exact ⟨trivial, fits.pageSize.isBounded, fits.taxonomyPageSize.isBounded,
    fits.caches.isBounded_toJson, List.forall_mem_nil _⟩

end Settings

/-- Archives, filters, windows and settings are read back from their texts, and what their texts
leave out is read as empty. -/
theorem records_roundTrip :
    RoundTrips Archive.Fits Archive.toJson Archive.ofJson ∧
      RoundTrips (fun _ => True) TaxonomyFilter.toJson TaxonomyFilter.ofJson ∧
      RoundTrips PageWindow.Fits PageWindow.toJson PageWindow.ofJson ∧
      (∀ surplus, RoundTrips Settings.Fits Settings.toJson (Settings.ofJson surplus)) ∧
      (∀ taxonomy : Taxonomy, Omits Archive.toJson Archive.ofJson taxonomy.plural
        (fun archive => archive.relations.get taxonomy) []) ∧
      Omits Archive.toJson Archive.ofJson "published_at" Archive.publishedAt none ∧
      Omits Entry.toJson Entry.ofJson "count" Entry.count none ∧
      ∀ slot : Slot, Omits TaxonomyFilter.toJson TaxonomyFilter.ofJson slot.fieldName
        (fun filter => filter.get slot) [] := by
  refine ⟨?_, ?_, ?_, fun surplus => ?_, Archive.omits_relation, Archive.omits_publishedAt,
    Entry.omits_count, TaxonomyFilter.omits_slot⟩
  · exact .of_values (fun _ => Archive.Fits.isBounded_toJson) (fun _ => Archive.Fits.ofJson_toJson)
      Archive.ofJson_gives
  · exact .of_values (fun filter _ => filter.isBounded_toJson)
      (fun filter _ => filter.ofJson_toJson) fun _ _ _ => trivial
  · exact .of_values (fun _ => PageWindow.Fits.isBounded_toJson)
      (fun _ => PageWindow.Fits.ofJson_toJson) PageWindow.ofJson_gives
  · exact .of_values (fun _ => Settings.Fits.isBounded_toJson)
      (fun _ fits => fits.ofJson_toJson surplus) (Settings.ofJson_gives surplus)

/-- The largest and the smallest numbers, and texts with quotes, backslashes, control characters
and letters outside of ASCII. -/
theorem records_roundTrip_extremes :
    let entry : Entry := { id := 1, name := "\u001f", slug := "/", count := some (-2 ^ 63) }
    let archive : Archive := {
      id := -2 ^ 63, title := "\"\\ \u0001 \t", slug := "", path := "a\\b\n"
      pages := 2 ^ 63 - 1, size := 0, createdAt := "été", updatedAt := "日本語"
      relations := .ofFn fun _ => [entry] }
    archive.Fits ∧ read? Archive.ofJson archive.toJson.compact = some archive := by
  intro entry archive
  have entryFits : entry.Fits := by
    refine ⟨by decide, fun n member => ?_⟩
    rw [← Option.mem_some_iff.mp member]
    decide
  have fits : archive.Fits := by
    refine ⟨by decide, by decide, by decide, fun taxonomy => ?_⟩
    rw [PerTaxonomy.get_ofFn]
    exact List.forall_mem_singleton.mpr entryFits
  exact ⟨fits, records_roundTrip.1.reads archive fits⟩

end ComicCatalogue
