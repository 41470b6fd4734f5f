import ComicCatalogue.Json.Decode
import ComicCatalogue.Json.Printer

/-!
# Settings

What can be set about the catalogue: where the archives are kept, how long its pages are, and how
large its caches are and how long they keep their entries. Everything has a default.
-/

namespace ComicCatalogue

/-- The settings of a cache. -/
structure CacheSettings where
  capacity : Nat := 4096
  /-- The lifetime of an entry, in seconds. -/
  seconds : Nat := 3600
  deriving DecidableEq, Repr

namespace CacheSettings

/-- The settings as an object. -/
def toJson (settings : CacheSettings) : Json :=
  .obj [("capacity", .int settings.capacity), ("ttl_secs", .int settings.seconds)]

/-- Reads the settings of a cache. -/
def ofJson (surplus : Json.Surplus) : Json.Decoder CacheSettings := fun value => do
  let default : CacheSettings := {}
  let fields ← Json.fieldsWith surplus ["capacity", "ttl_secs"] value
  return {
    capacity := ← fields.withDefault "capacity" .nat64 default.capacity
    seconds := ← fields.withDefault "ttl_secs" .nat64 default.seconds }

end CacheSettings

/-- The settings of the three caches: of archive listings, of single archives, and of listings of
entries. -/
structure CachesSettings where
  archives : CacheSettings := {}
  archive : CacheSettings := {}
  taxonomies : CacheSettings := {}
  deriving DecidableEq, Repr

namespace CachesSettings

/-- The settings as an object. -/
def toJson (settings : CachesSettings) : Json :=
  .obj [
    ("archives", settings.archives.toJson),
    ("archive", settings.archive.toJson),
    ("taxonomies", settings.taxonomies.toJson)]

/-- Reads the settings of the caches. -/
def ofJson (surplus : Json.Surplus) : Json.Decoder CachesSettings := fun value => do
  let fields ← Json.fieldsWith surplus ["archives", "archive", "taxonomies"] value
  let cache (name : String) : Except DecodeError CacheSettings :=
    fields.withDefault name (CacheSettings.ofJson surplus) {}
  return {
    archives := ← cache "archives"
    archive := ← cache "archive"
    taxonomies := ← cache "taxonomies" }

end CachesSettings

/-- The settings of the catalogue. -/
structure Settings where
  databasePath : String := "./catalog.sqlite"
  /-- The number of archives on a page. -/
  pageSize : Nat := 25
  /-- The number of entries on a page. -/
  taxonomyPageSize : Nat := 200
  caches : CachesSettings := {}
  deriving DecidableEq, Repr

/-- What is wrong with settings: the field and the reason. -/
structure SettingsFault where
  field : String
  reason : String
  deriving DecidableEq, Repr

/-- The fault in a sentence. -/
def SettingsFault.message (fault : SettingsFault) : String :=
  "invalid configuration: " ++ fault.field ++ " - " ++ fault.reason

/-- The largest capacity of a cache. -/
def CacheSettings.maxCapacity : Nat := 1000000

/-- The longest lifetime of an entry: a week, in seconds. -/
def CacheSettings.maxSeconds : Nat := 7 * 24 * 60 * 60

/-- Checks the settings of the cache at a field. -/
def CacheSettings.check (field : String) (settings : CacheSettings) : Except SettingsFault Unit :=
  if settings.capacity = 0 ∨ maxCapacity < settings.capacity then
    .error ⟨field ++ ".capacity", "must be between 1 and " ++ toString maxCapacity⟩
  else if settings.seconds = 0 ∨ maxSeconds < settings.seconds then
    .error ⟨field ++ ".ttl_secs", "must be between 1 second and 7 days"⟩
  else .ok ()

namespace Settings

/-- The largest number of archives on a page. -/
def maxPageSize : Nat := 100

/-- Checks the settings, and says what is wrong first. -/
def check (settings : Settings) : Except SettingsFault Unit := do
  if settings.pageSize = 0 ∨ maxPageSize < settings.pageSize then
    throw ⟨"page_size", "must be between 1 and 100"⟩
  if settings.taxonomyPageSize = 0 then
    throw ⟨"taxonomy_page_size", "must be greater than 0"⟩
  settings.caches.archives.check "caches.archives"
  settings.caches.archive.check "caches.archive"
  settings.caches.taxonomies.check "caches.taxonomies"

/-- The settings as an object. -/
def toJson (settings : Settings) : Json :=
  .obj [
    ("db_path", .str settings.databasePath),
    ("page_size", .int settings.pageSize),
    ("taxonomy_page_size", .int settings.taxonomyPageSize),
    ("caches", settings.caches.toJson)]

/-- Reads settings. -/
def ofJson (surplus : Json.Surplus) : Json.Decoder Settings := fun value => do
  let default : Settings := {}
  let fields ←
    Json.fieldsWith surplus ["db_path", "page_size", "taxonomy_page_size", "caches"] value
  return {
    databasePath := ← fields.withDefault "db_path" .text default.databasePath
    pageSize := ← fields.withDefault "page_size" .nat32 default.pageSize
    taxonomyPageSize :=
      ← fields.withDefault "taxonomy_page_size" .nat32 default.taxonomyPageSize
    caches := ← fields.withDefault "caches" (CachesSettings.ofJson surplus) default.caches }

end Settings

end ComicCatalogue
