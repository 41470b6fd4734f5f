import ComicCatalogue.Archive
import ComicCatalogue.Error
import ComicCatalogue.Selection.Basic

/-!
# Sources and services

A source is where archives and entries come from. A service answers requests with the help of a
source: a step of a service reads the time, puts inquiries to the source, and changes the state of
the service. Every inquiry is noted, so what a step asked for can be told afterwards.
-/

namespace ComicCatalogue

/-- The part of the archives that a selection asks for, and the number of all that satisfy it. -/
structure ArchivePage where
  archives : List Archive
  total : Int
  deriving DecidableEq, Repr

/-- A part of the entries of a taxonomy, and the number of all. -/
structure EntryPage where
  entries : List Entry
  total : Int
  deriving DecidableEq, Repr

/-- Where archives and entries come from. -/
structure Source where
  /-- Carries out a selection. -/
  select : Selection → Except CatalogueError ArchivePage
  /-- The archive of a number, if it is visible, with some relations. -/
  archive : Int → List Taxonomy → Except CatalogueError (Option Archive)
  /-- So many entries of a taxonomy, or all, behind the first few. -/
  entries : Taxonomy → Option Nat → Nat → Except CatalogueError EntryPage

/-- A question to a source. -/
inductive Inquiry where
  | select (selection : Selection)
  | archive (id : Int) (relations : List Taxonomy)
  | entries (taxonomy : Taxonomy) (limit : Option Nat) (offset : Nat)
  deriving DecidableEq, Repr

/-- What the steps of a service read. -/
structure Context where
  source : Source
  /-- The time, in ticks. -/
  now : Nat

/-- The state of a service and the inquiries it has made. -/
structure Traced (σ : Type) where
  state : σ
  inquiries : List Inquiry := []

/-- A step of a service. -/
abbrev Service (σ : Type) := ReaderT Context (StateM (Traced σ))

namespace Service

variable {σ τ α : Type}

/-- The state. -/
def state : Service σ σ := do
  return (← get).state

/-- A step that only concerns the state. -/
def update (f : σ → α × σ) : Service σ α :=
  modifyGet fun traced =>
    let (a, state) := f traced.state
    (a, { traced with state := state })

/-- A step of a part of the service. -/
def part (get : σ → τ) (put : τ → σ → σ) (step : Service τ α) : Service σ α :=
  fun context traced =>
    let (a, inner) := step context { state := get traced.state, inquiries := traced.inquiries }
    (a, { state := put inner.state traced.state, inquiries := inner.inquiries })

/-- Puts an inquiry to the source. -/
def inquire (inquiry : Inquiry) (answer : Source → α) : Service σ α := do
  modify fun traced => { traced with inquiries := traced.inquiries ++ [inquiry] }
  return answer (← read).source

/-- Carries out a selection. -/
def select (selection : Selection) : Service σ (Except CatalogueError ArchivePage) :=
  inquire (.select selection) (·.select selection)

/-- Asks for an archive. -/
def archive (id : Int) (relations : List Taxonomy) :
    Service σ (Except CatalogueError (Option Archive)) :=
  inquire (.archive id relations) (·.archive id relations)

/-- Asks for entries. -/
def entries (taxonomy : Taxonomy) (limit : Option Nat) (offset : Nat) :
    Service σ (Except CatalogueError EntryPage) :=
  inquire (.entries taxonomy limit offset) (·.entries taxonomy limit offset)

/-- Runs a step at a time on a state: the result, the state afterwards, and the inquiries made. -/
def run (step : Service σ α) (source : Source) (now : Nat) (state : σ) :
    α × σ × List Inquiry :=
  let (a, traced) := step ⟨source, now⟩ { state := state }
  (a, traced.state, traced.inquiries)

end Service

end ComicCatalogue
