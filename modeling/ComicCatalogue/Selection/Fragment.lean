/-!
# Fragments

A fragment is a condition as the database reads it: a text with a question mark in the place of
each value, and the values. Values never become part of the text.
-/

namespace ComicCatalogue

/-- A value in the place of a question mark. -/
inductive Argument where
  | text (value : String)
  | integer (value : Int)
  deriving DecidableEq, Repr

/-- A condition with values left out, and the values. -/
structure Fragment where
  condition : String
  arguments : List Argument
  deriving DecidableEq, Repr

namespace Fragment

/-- Fragments with a word between each two of them, and their values in the same order. -/
def joined (word : String) (fragments : List Fragment) : Fragment where
  condition := word.intercalate (fragments.map condition)
  arguments := fragments.flatMap arguments

/-- All of the fragments hold. -/
def allOf (fragments : List Fragment) : Fragment :=
  joined " AND " fragments

/-- One of the fragments holds. A single fragment stands for itself, and several are put in
parentheses. -/
def anyOf : List Fragment → Fragment
  | [fragment] => fragment
  | fragments =>
    let inner := joined " OR " fragments
    { inner with condition := "(" ++ inner.condition ++ ")" }

end Fragment

end ComicCatalogue
