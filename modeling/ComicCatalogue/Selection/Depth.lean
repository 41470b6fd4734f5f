import ComicCatalogue.Selection.Condition

/-!
# How deep conditions go

The database reads conditions as a tree: columns, values and constants are its leaves, and every
operator stands above its operands. It refuses trees that are too deep. Operators of one kind in a
row lean to the left, so every further condition may add a level, and a look-up among the entries of
a taxonomy counts on top of everything around it.
-/

namespace ComicCatalogue

namespace Depth

/-- A column of a table. -/
def column : Nat := 2

/-- A value left out. -/
def value : Nat := 1

/-- An operator above two operands. -/
def operator (left right : Nat) : Nat :=
  max left right + 1

/-- Operators of one kind between operands. -/
def chain : List Nat → Nat
  | [] => 0
  | first :: rest => rest.foldl operator first

/-- The pattern for a part of a text: the value between two wildcards. -/
def pattern : Nat :=
  chain [1, value, 1]

/-- The largest depth that the database accepts. -/
def maximum : Nat := 1000

end Depth

namespace SlugTest

/-- The depth of a test. -/
def depth : SlugTest → Nat
  | equals _ => Depth.operator Depth.column Depth.value
  | contains _ => Depth.operator Depth.column Depth.pattern

/-- The depth of a link between two columns. -/
def linkDepth : Nat :=
  Depth.operator Depth.column Depth.column

/-- The depth of the condition that an entry passes the test, as a part of others. -/
def lookupDepth (test : SlugTest) : Nat :=
  Depth.chain [linkDepth, test.depth] + 1

/-- The depth of what is tested on entries: the link to the archive, the test, and the link between
the tables. -/
def innerDepth (test : SlugTest) : Nat :=
  Depth.chain [linkDepth, test.depth, linkDepth]

end SlugTest

namespace Condition

/-- The depths of the parts of a condition all of which have to hold. -/
def depths : Condition → List Nat
  | path _ => [Depth.operator Depth.column Depth.pattern]
  | title test => [test.depth]
  | linked _ test => [test.lookupDepth]
  | linkedAny _ tests => [Depth.chain (tests.map SlugTest.lookupDepth)]
  | unlinked _ test => [test.lookupDepth + 1]
  | pages _ => [Depth.operator Depth.column Depth.value]
  | visible => [Depth.column + 1, Depth.operator Depth.column Depth.value]

/-- The tests of a condition that are looked up among entries. -/
def lookups : Condition → List SlugTest
  | linked _ test => [test]
  | linkedAny _ tests => tests
  | unlinked _ test => [test]
  | _ => []

/-- The depth of conditions all of which have to hold. -/
def depth (conditions : List Condition) : Nat :=
  Depth.chain (conditions.flatMap depths) +
    ((conditions.flatMap lookups).map SlugTest.innerDepth).foldl max 0

/-- Whether the database refuses conditions for their depth. -/
def areTooDeep (conditions : List Condition) : Bool :=
  Depth.maximum < depth conditions

end Condition

end ComicCatalogue
