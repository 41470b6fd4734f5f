import ComicCatalogue.Like
import ComicCatalogue.Query.Basic
import ComicCatalogue.Selection.Fragment

/-!
# Conditions on archives

The conditions that queries are made of, and each as a fragment. Which archives satisfy a condition
is said beside the archives themselves.
-/

namespace ComicCatalogue

/-- A test of a slug. -/
inductive SlugTest where
  /-- The slug is this one. -/
  | equals (slug : String)
  /-- The slug matches this pattern somewhere. -/
  | contains (part : String)
  deriving DecidableEq, Repr

namespace SlugTest

/-- The value that the slug is tested with. -/
def value : SlugTest → String
  | equals slug => slug
  | contains part => part

/-- The test as the database reads it. -/
def comparison : SlugTest → String
  | equals _ => "= ?"
  | contains _ => "LIKE '%' || ? || '%'"

end SlugTest

/-- A condition on an archive. -/
inductive Condition where
  /-- The folded path has this part. -/
  | path (part : String)
  /-- The slug of the title passes the test. -/
  | title (test : SlugTest)
  /-- An entry of the taxonomy passes the test. -/
  | linked (taxonomy : Taxonomy) (test : SlugTest)
  /-- An entry of the taxonomy passes one of the tests. -/
  | linkedAny (taxonomy : Taxonomy) (tests : List SlugTest)
  /-- No entry of the taxonomy passes the test. -/
  | unlinked (taxonomy : Taxonomy) (test : SlugTest)
  /-- The number of pages is within a bound. -/
  | pages (bound : PageBound)
  /-- The archive is published and not withdrawn. -/
  | visible
  deriving DecidableEq, Repr

namespace Condition

/-- That an entry of a taxonomy passes a test, as the database reads it. -/
def existsEntry (taxonomy : Taxonomy) (test : SlugTest) : String :=
  let table := taxonomy.name
  let links := taxonomy.linkTable
  "EXISTS (SELECT 1 FROM " ++ links ++ " JOIN " ++ table ++ " ON " ++ table ++ ".id = " ++ links ++
    "." ++ taxonomy.linkColumn ++ " WHERE " ++ links ++ ".archive_id = archive.id AND " ++ table ++
    ".slug " ++ test.comparison ++ ")"

/-- That an entry of a taxonomy passes a test. -/
def linkedFragment (taxonomy : Taxonomy) (test : SlugTest) : Fragment :=
  ⟨existsEntry taxonomy test, [.text test.value]⟩

/-- A path's part as the pattern that it is sought by. -/
def pathPattern (part : String) : String :=
  String.ofList (Like.escape part.toList)

/-- The condition as the database reads it. -/
def fragment : Condition → Fragment
  | path part =>
    ⟨"archive.path_folded LIKE '%' || ? || '%' ESCAPE '\\'", [.text (pathPattern part)]⟩
  | title test => ⟨"archive.slug " ++ test.comparison, [.text test.value]⟩
  | linked taxonomy test => linkedFragment taxonomy test
  | linkedAny taxonomy tests => .anyOf (tests.map (linkedFragment taxonomy))
  | unlinked taxonomy test => ⟨"NOT " ++ existsEntry taxonomy test, [.text test.value]⟩
  | pages bound =>
    ⟨"archive.pages " ++ bound.comparison.symbol ++ " ?", [.integer bound.count]⟩
  | visible => ⟨"archive.published_at IS NOT NULL AND archive.expunged = 0", []⟩

/-- The conditions of a taxonomy's filter. -/
def ofFilter (taxonomy : Taxonomy) (filter : TaxonomyFilter) : List Condition :=
  let oneOf (tests : List SlugTest) : List Condition :=
    if tests.isEmpty then [] else [linkedAny taxonomy tests]
  oneOf (filter.anyOf.map .equals) ++
    filter.allOf.map (fun slug => linked taxonomy (.equals slug)) ++
    oneOf (filter.anyContaining.map .contains) ++
    filter.allContaining.map (fun part => linked taxonomy (.contains part)) ++
    filter.noneOf.map (fun slug => unlinked taxonomy (.equals slug)) ++
    filter.noneContaining.map (fun part => unlinked taxonomy (.contains part))

/-- The test that a title's constraint asks for. -/
def ofTitle : TitleFilter → Condition
  | .equals slug => title (.equals slug)
  | .contains part => title (.contains part)

/-- The conditions of a query. Only visible archives are ever asked for. -/
def ofQuery (query : Query) : List Condition :=
  (query.path.map path).toList ++
    (query.title.map ofTitle).toList ++
    Taxonomy.all.flatMap (fun taxonomy => ofFilter taxonomy (query.filters.get taxonomy)) ++
    (query.pages.map pages).toList ++
    [visible]

end Condition

end ComicCatalogue
