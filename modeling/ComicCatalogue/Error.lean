import ComicCatalogue.Json.Decode

/-!
# Errors

Why a request to the catalogue fails, and how the failure is worded: in a sentence of its own, in a
JSON answer, and in an answer to a remote call.
-/

namespace ComicCatalogue

/-- Why a request to the catalogue fails. -/
inductive CatalogueError where
  /-- A text looks like a directive but cannot be read as one. -/
  | malformedDirective (text : String)
  /-- The source of the archives failed. -/
  | persistence (reason : String)
  /-- No visible archive has this number. -/
  | archiveNotFound (id : Int)
  /-- The request makes no sense. -/
  | invalidInput (reason : String)
  /-- No cache has this name. -/
  | unknownCache (name : String)
  deriving DecidableEq, Repr

namespace CatalogueError

/-- The word for the kind of error. -/
def kind : CatalogueError → String
  | malformedDirective _ => "MALFORMED_DIRECTIVE"
  | persistence _ => "PERSISTENCE"
  | archiveNotFound _ => "ARCHIVE_NOT_FOUND"
  | invalidInput _ => "INVALID_INPUT"
  | unknownCache _ => "UNKNOWN_CACHE"

/-- The error in a sentence. -/
def message : CatalogueError → String
  | malformedDirective text => "MALFORMED_DIRECTIVE: " ++ text
  | persistence reason => "PERSISTENCE_FAILURE: " ++ reason
  | archiveNotFound id => "ARCHIVE_NOT_FOUND: " ++ toString id
  | invalidInput reason => "INVALID_INPUT: " ++ reason
  | unknownCache name => "UNKNOWN_CACHE: " ++ name

/-- What the error is about. -/
def detail : CatalogueError → Json
  | malformedDirective text => .str text
  | persistence reason => .str reason
  | archiveNotFound id => .int id
  | invalidInput reason => .str reason
  | unknownCache name => .str name

/-- The error as a part of an answer. -/
def toJson (error : CatalogueError) : Json :=
  .obj [("kind", .str error.kind), ("message", error.detail)]

end CatalogueError

/-- The answer to a remote call that fails. -/
structure CallError where
  code : Int
  message : String
  deriving DecidableEq, Repr

namespace CallError

/-- The code of a call whose arguments do not fit. -/
def invalidParams : Int := -32602

/-- The answer to a call whose arguments cannot be read. -/
def ofDecodeError (error : DecodeError) : CallError :=
  ⟨invalidParams, "failed to deserialize parameters: " ++ error.message⟩

/-- The answer to a call that fails in the catalogue. -/
def ofCatalogueError : CatalogueError → CallError
  | .malformedDirective text => ⟨invalidParams, text⟩
  | .invalidInput reason => ⟨invalidParams, reason⟩
  | .archiveNotFound id => ⟨-32001, "archive " ++ toString id ++ " does not exist"⟩
  | .persistence reason => ⟨-32002, reason⟩
  | .unknownCache name => ⟨-32003, "unknown cache: " ++ name⟩

end CallError

/-- Why the database fails. -/
inductive DatabaseFault where
  | connectionClosed
  | noRows
  | patternTooComplex
  | conditionsTooDeep
  /-- A statement leaves out too many values; the first one too many is at this byte. -/
  | tooManyValues (statement : String) (position : Nat)
  | cannotOpen (path : String)
  /-- A name has a null character at this byte. -/
  | nullInName (position : Nat)
  /-- The database is said to be on this other computer. -/
  | foreignAuthority (name : String)
  | unknownCacheMode (value : String)
  | unknownAccess (value : String)
  /-- An access asks for more than is allowed. -/
  | accessDenied (value : String)
  /-- There is no such way to reach files. -/
  | unknownSystem (name : String)
  deriving DecidableEq, Repr

/-- What the database says about a fault, in quotes. -/
def DatabaseFault.reported (text : String) : String :=
  "Error(\"" ++ text ++ "\")"

/-- The wording of a fault. -/
def DatabaseFault.message : DatabaseFault → String
  | connectionClosed => "ConnectionClosed"
  | noRows => reported "Query returned no rows"
  | patternTooComplex => reported "LIKE or GLOB pattern too complex"
  | conditionsTooDeep => reported "Expression tree is too large (maximum depth 1000)"
  | tooManyValues statement position =>
    reported ("too many SQL variables in " ++ statement ++ " at offset " ++ toString position)
  | cannotOpen path => reported ("unable to open database file: " ++ path)
  | nullInName position =>
    reported ("nul byte found in provided data at position: " ++ toString position)
  | foreignAuthority name => reported ("invalid uri authority: " ++ name)
  | unknownCacheMode value => reported ("no such cache mode: " ++ value)
  | unknownAccess value => reported ("no such access mode: " ++ value)
  | accessDenied value => reported ("access mode not allowed: " ++ value)
  | unknownSystem name => reported ("no such vfs: " ++ name)

/-- Why a request to the shelf of archives fails. -/
inductive ShelfError where
  | database (fault : DatabaseFault)
  /-- The tables could not be set up. -/
  | setup (reason : String)
  /-- The request was refused before it reached the database. -/
  | invalidInput (reason : String)
  deriving DecidableEq, Repr

namespace ShelfError

/-- The error in a sentence. -/
def message : ShelfError → String
  | database fault => "DATABASE_ERROR: " ++ fault.message
  | setup reason => "DATABASE_ERROR: migration failed: " ++ reason
  | invalidInput reason => "INVALID_INPUT: " ++ reason

/-- The error as the catalogue passes it on. -/
def toCatalogueError : ShelfError → CatalogueError
  | invalidInput reason => .invalidInput reason
  | error => .persistence error.message

end ShelfError

end ComicCatalogue
