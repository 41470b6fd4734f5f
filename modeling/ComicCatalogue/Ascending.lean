/-!
# Ascending lists

Finite sets as strictly ascending lists: every value once, in order. Equal sets have equal lists,
so the lists can be compared and written down. Finite maps are lists of pairs whose keys are
strictly ascending.
-/

namespace ComicCatalogue.Ascending

variable {α : Type} [LT α] [DecidableLT α] [DecidableEq α]

/-- Adds a value to an ascending list, unless it is there. -/
def insert (a : α) : List α → List α
  | [] => [a]
  | b :: rest =>
    if a < b then a :: b :: rest
    else if a = b then b :: rest
    else b :: insert a rest

/-- The ascending list of the values of a list. -/
def ofList (values : List α) : List α :=
  values.foldr insert []

/-- Sets the value of a key in an ascending list of keys with values. -/
def put {β : Type} (key : α) (value : β) : List (α × β) → List (α × β)
  | [] => [(key, value)]
  | (other, old) :: rest =>
    if key < other then (key, value) :: (other, old) :: rest
    else if key = other then (key, value) :: rest
    else (other, old) :: put key value rest

/-- The ascending list of the keys of a list of pairs, each with the last value it is given. -/
def ofPairs {β : Type} (pairs : List (α × β)) : List (α × β) :=
  pairs.foldl (fun sorted (key, value) => put key value sorted) []

end ComicCatalogue.Ascending
