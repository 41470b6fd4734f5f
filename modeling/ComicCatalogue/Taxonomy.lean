import ComicCatalogue.Text

/-!
# Taxonomies

The five ways in which archives are classified, the names that they go by, and `PerTaxonomy`, which
holds one value for each of them.
-/

namespace ComicCatalogue

/-- A way of classifying archives. -/
inductive Taxonomy where
  | artist
  | circle
  | magazine
  | parody
  | tag
  deriving DecidableEq, Repr

namespace Taxonomy

/-- Every taxonomy, in order. -/
def all : List Taxonomy :=
  [artist, circle, magazine, parody, tag]

/-- The place of a taxonomy in the order. -/
def rank : Taxonomy → Nat
  | artist => 0
  | circle => 1
  | magazine => 2
  | parody => 3
  | tag => 4

instance : LT Taxonomy := ⟨fun a b => a.rank < b.rank⟩

instance : DecidableLT Taxonomy := fun a b => inferInstanceAs (Decidable (a.rank < b.rank))

/-- The name of a taxonomy. Its table of entries goes by the same name. -/
def name : Taxonomy → String
  | artist => "artist"
  | circle => "circle"
  | magazine => "magazine"
  | parody => "parody"
  | tag => "tag"

/-- The plural of the name: an archive's relation to the taxonomy goes by it. -/
def plural : Taxonomy → String
  | artist => "artists"
  | circle => "circles"
  | magazine => "magazines"
  | parody => "parodies"
  | tag => "tags"

/-- The table that links archives with entries of the taxonomy. -/
def linkTable (taxonomy : Taxonomy) : String :=
  "archive_" ++ taxonomy.plural

/-- The column of the link table that refers to an entry. -/
def linkColumn (taxonomy : Taxonomy) : String :=
  taxonomy.name ++ "_id"

/-- The taxonomy of that name, in any case. -/
def ofName? (name : String) : Option Taxonomy :=
  all.find? (Text.equalIgnoringCase ·.name name)

/-- The taxonomy that a relation leads to: its plural, in any case and with white space around. -/
def ofRelation? (relation : String) : Option Taxonomy :=
  all.find? (Text.equalIgnoringCase ·.plural (Text.trim relation))

end Taxonomy

/-- One value for each taxonomy. -/
structure PerTaxonomy (α : Type) where
  artists : α
  circles : α
  magazines : α
  parodies : α
  tags : α
  deriving DecidableEq, Repr

namespace PerTaxonomy

variable {α β : Type}

/-- The value for a taxonomy. -/
def get (values : PerTaxonomy α) : Taxonomy → α
  | .artist => values.artists
  | .circle => values.circles
  | .magazine => values.magazines
  | .parody => values.parodies
  | .tag => values.tags

/-- The values that a function gives. -/
def ofFn (f : Taxonomy → α) : PerTaxonomy α :=
  ⟨f .artist, f .circle, f .magazine, f .parody, f .tag⟩

/-- The same value for every taxonomy. -/
def const (a : α) : PerTaxonomy α :=
  ofFn fun _ => a

/-- Changes the value for one taxonomy. -/
def modify (taxonomy : Taxonomy) (f : α → α) (values : PerTaxonomy α) : PerTaxonomy α :=
  ofFn fun other => if other = taxonomy then f (values.get other) else values.get other

@[simp] theorem get_ofFn (f : Taxonomy → α) (taxonomy : Taxonomy) :
    (ofFn f).get taxonomy = f taxonomy := by
  cases taxonomy <;> rfl

@[simp] theorem ofFn_get (values : PerTaxonomy α) : ofFn values.get = values := rfl

@[simp] theorem get_modify (taxonomy other : Taxonomy) (f : α → α) (values : PerTaxonomy α) :
    (values.modify taxonomy f).get other =
      if other = taxonomy then f (values.get other) else values.get other := by
  simp [modify]

end PerTaxonomy

end ComicCatalogue
