import ComicCatalogue.Clause.Basic
import ComicCatalogue.Like

/-!
# What clauses say

A clause is asked of rows of tables. Besides yes and no there is a third answer, for what is asked
of missing values. A clause has no answer at all where it asks for a table or a column that does not
exist, or compares what cannot be compared.

How large a clause or a pattern may be is not a matter of what it says; the bounds of the database
stand beside the selections that it refuses.
-/

namespace ComicCatalogue

/-- A value in a table. -/
inductive Value where
  | null
  | integer (value : Int)
  | text (value : String)
  deriving DecidableEq, Repr

/-- A row of a table: the values of its columns by name. -/
abbrev Row := List (String × Value)

/-- Tables by name. -/
abbrev Tables := List (String × List Row)

/-- The rows that a clause is asked of, by the names of their tables. -/
abbrev Scope := List (String × Row)

/-- An answer of a clause. -/
inductive Truth where
  | no
  | unknown
  | yes
  deriving DecidableEq, Repr

namespace Truth

/-- The answer where nothing is missing. -/
def ofBool (holds : Bool) : Truth :=
  if holds then yes else no

def not : Truth → Truth
  | no => yes
  | unknown => unknown
  | yes => no

def and : Truth → Truth → Truth
  | no, _ => no
  | _, no => no
  | yes, yes => yes
  | _, _ => unknown

def or (a b : Truth) : Truth :=
  (a.not.and b.not).not

end Truth

namespace Value

/-- A value that is given along with a text. -/
def ofArgument : Argument → Value
  | .text value => text value
  | .integer value => integer value

/-- A text behind another. -/
def concat? : Value → Value → Option Value
  | text front, text back => some (text (front ++ back))
  | integer _, _ => none
  | _, integer _ => none
  | _, _ => some null

/-- Where a text stands in relation to another: before it, beside it, or behind it. -/
def sign (a b : String) : Int :=
  if a < b then -1 else if a = b then 0 else 1

/-- Compares two numbers or two texts. -/
def compare? (comparison : Comparison) : Value → Value → Option Truth
  | integer a, integer b => some (.ofBool (comparison.holds a b))
  | text a, text b => some (.ofBool (comparison.holds (sign a b) 0))
  | null, _ => some .unknown
  | _, null => some .unknown
  | _, _ => none

/-- Matches a text with a pattern. -/
def like? (escape : Option Char) : Value → Value → Option Truth
  | text subject, text pattern =>
    some (.ofBool (Like.accepts escape pattern.toList subject.toList))
  | integer _, _ => none
  | _, integer _ => none
  | _, _ => some .unknown

end Value

/-- The value of a term. -/
def Term.value? (scope : Scope) : Term → Option Value
  | column table name => do (← scope.lookup table).lookup name
  | value given => some (.ofArgument given)
  | concat left right => do (← left.value? scope).concat? (← right.value? scope)

/-- The answer of a clause. -/
def Clause.truth? (tables : Tables) (scope : Scope) : Clause → Option Truth
  | compare comparison left right => do
    Value.compare? comparison (← left.value? scope) (← right.value? scope)
  | like subject pattern escape => do
    Value.like? escape (← subject.value? scope) (← pattern.value? scope)
  | present term => do return .ofBool ((← term.value? scope) ≠ .null)
  | exist first second link condition => do
    let firstRows ← tables.lookup first
    let secondRows ← tables.lookup second
    let pairs := firstRows.flatMap fun row => secondRows.map fun other => (row, other)
    let answers ← pairs.mapM fun pair => do
      let scope := (first, pair.1) :: (second, pair.2) :: scope
      return (← link.truth? tables scope).and (← condition.truth? tables scope)
    return .ofBool (answers.contains .yes)
  | not clause => do return (← clause.truth? tables scope).not
  | and left right => do return (← left.truth? tables scope).and (← right.truth? tables scope)
  | or left right => do return (← left.truth? tables scope).or (← right.truth? tables scope)

end ComicCatalogue
