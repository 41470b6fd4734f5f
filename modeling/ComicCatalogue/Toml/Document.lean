import ComicCatalogue.Toml.Value

/-!
# Documents in TOML

A document is a sequence of lines: entries, headers of tables and of tables in arrays, comments and
empty lines. Entries belong to the table of the last header before them.
-/

namespace ComicCatalogue.Toml

/-- The part of a document that has been read. -/
structure Document where
  /-- The path to the open table. -/
  path : List String := []
  entries : Entries := []

namespace Document

/-- Changes the document from its root. -/
def change (change : Entries.Change) (document : Document) : Option Document :=
  (change .header document.entries).map fun (_, entries) => { document with entries }

/-- Gives a key of the open table its value. -/
def assign (path : List String) (value : Json) (document : Document) : Option Document := do
  let key ← path.getLast?
  document.change (Entries.below false (Entries.assign path.dropLast key value) document.path)

/-- Starts a table or a table in an array. -/
def start (inArray : Bool) (path : List String) (document : Document) : Option Document := do
  let key ← path.getLast?
  let make := if inArray then Entries.append? else Entries.open?
  { document with path }.change (make path.dropLast key)

/-- Reads a header behind its opening brackets. -/
def readHeader (inArray : Bool) (document : Document) : Reader Document := fun text => do
  let (path, rest) ← readPath text
  let document ← document.start inArray path
  match inArray, rest with
  | false, ']' :: rest => some (document, rest)
  | true, ']' :: ']' :: rest => some (document, rest)
  | _, _ => none

/-- Reads what stands on a line that is not empty, up to its comment. -/
def readLine (document : Document) : Reader Document := fun text =>
  match text with
  | '[' :: '[' :: rest => document.readHeader true rest
  | '[' :: rest => document.readHeader false rest
  | _ => do
    let ((path, value), rest) ← readEntry (readValue maxDepth) text
    some (← document.assign path value, rest)

/-- Reads the lines of a text, as many as given at most. -/
def readLines : Nat → Document → List Char → Option Document
  | 0, _, _ => none
  | fuel + 1, document, text =>
    match skipBlank text with
    | [] => some document
    | start =>
      match endLine? start with
      | some rest => readLines fuel document rest
      | none => do
        let (document, rest) ← document.readLine start
        readLines fuel document (← endLine? rest)

end Document

/-- Reads a document as the fields of an object, if it is well-formed. -/
def parse? (text : String) : Option (List (String × Json)) :=
  let chars :=
    match text.toList with
    | '\ufeff' :: rest => rest
    | chars => chars
  (Document.readLines (chars.length + 1) {} chars).map fun document => Item.fields document.entries

end ComicCatalogue.Toml
