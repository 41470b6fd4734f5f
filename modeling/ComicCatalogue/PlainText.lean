import ComicCatalogue.Directory
import ComicCatalogue.Query.Draft

/-!
# Searching with plain text

A search line without directives is understood as the name of an artist, circle, parody or tag, as
several tags, or as a part of the path, whichever fits first.
-/

namespace ComicCatalogue

/-- What a plain text was understood as. -/
inductive Understanding where
  | entry (taxonomy : Taxonomy)
  /-- So many of the words are tags. -/
  | tags (count : Nat)
  | path
  | nothing
  deriving DecidableEq, Repr

namespace Directory

/-- The taxonomies that a plain text is looked up in, in order. -/
def lookedUp : List Taxonomy :=
  [.artist, .circle, .parody, .tag]

/-- The first of the taxonomies that knows the text. -/
def firstKnowing (text : String) : List Taxonomy → Service Directory (Option Taxonomy)
  | [] => return none
  | taxonomy :: rest => do
    if ← knows taxonomy text then
      return some taxonomy
    firstKnowing text rest

/-- Those of the words that are tags. -/
def knownTags : List String → Service Directory (List String)
  | [] => return []
  | word :: rest => do
    let known ← knows .tag word
    let tags ← knownTags rest
    return if known then word :: tags else tags

/-- Adds to a draft what a plain text asks for. -/
def understand (text : String) (draft : Draft) : Service Directory (Understanding × Draft) := do
  let text := Text.trim text
  if text.isEmpty then
    return (.nothing, draft)
  match ← firstKnowing text lookedUp with
  | some taxonomy => return (.entry taxonomy, draft.addEntry taxonomy text)
  | none =>
    let words := Text.words text
    let tags ← if 1 < words.length then knownTags words else pure []
    if tags.isEmpty then
      return (.path, { draft with path := some text })
    return (.tags tags.length, tags.foldl (fun draft tag => draft.addEntry .tag tag) draft)

end Directory

end ComicCatalogue
