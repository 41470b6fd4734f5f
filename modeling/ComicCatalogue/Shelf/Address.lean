import ComicCatalogue.Error
import ComicCatalogue.Json.Reader
import ComicCatalogue.Text.Utf8

/-!
# Where the database is

The database is opened by the path of its file. A path that starts with `file:` is an address. Two
slashes behind that lead to the name of a computer, which can only be this one. Behind a question
mark stand options, each a name with a value, up to a number sign. In an option, a percent sign and
two hexadecimal digits stand for a byte, and the null byte hides what follows it.
-/

namespace ComicCatalogue.Address

/-- What a path starts with that is an address. -/
def scheme : List Char := "file:".toList

/-- The name of the computer in an address, behind the scheme. -/
def authority : List Char → List Char
  | '/' :: '/' :: rest => rest.takeWhile (· ≠ '/')
  | _ => []

/-- Whether a name is one of this computer. -/
def isHere (name : List Char) : Bool :=
  name = [] ∨ name = "localhost".toList

/-- What stands between the question mark and the number sign of an address. -/
def query (text : List Char) : List Char :=
  ((text.takeWhile (· ≠ '#')).dropWhile (· ≠ '?')).drop 1

/-- The pieces of a text between separators. -/
def pieces (separator : Char) : List Char → List (List Char)
  | [] => [[]]
  | c :: rest =>
    if c = separator then [] :: pieces separator rest
    else
      match pieces separator rest with
      | [] => [[c]]
      | piece :: others => (c :: piece) :: others

/-- The byte that two hexadecimal digits stand for. -/
def byte? (high low : Char) : Option Nat :=
  Json.hexNumber? [high, low]

/-- The bytes that a part of an option stands for. -/
def octets : List Char → List Nat
  | '%' :: high :: low :: rest =>
    match byte? high low with
    | some 0 => []
    | some byte => byte :: octets rest
    | none => Utf8.bytes '%' ++ octets (high :: low :: rest)
  | c :: rest => Utf8.bytes c ++ octets rest
  | [] => []

/-- The text that a part of an option stands for. -/
def plain (text : List Char) : String :=
  String.ofList (Utf8.decode (octets text))

/-- An option: a name and, behind an equals sign, a value. Without a name there is none. -/
def option? (text : List Char) : Option (String × String) :=
  let name := plain (text.takeWhile (· ≠ '='))
  if name.isEmpty then none else some (name, plain ((text.dropWhile (· ≠ '=')).drop 1))

/-- The options of an address. -/
def options (text : List Char) : List (String × String) :=
  (pieces '&' (query text)).filterMap option?

/-- What may be done with the file of a database. -/
inductive Access where
  | readOnly
  | readWrite
  /-- The file may also be made. -/
  | create
  /-- There is no file. -/
  | memory
  deriving DecidableEq, Repr

namespace Access

/-- The access that a value of the option asks for. -/
def ofName? : String → Option Access
  | "ro" => some readOnly
  | "rw" => some readWrite
  | "rwc" => some create
  | "memory" => some memory
  | _ => none

/-- How much an access asks for. -/
def demand : Access → Nat
  | memory => 0
  | readOnly => 1
  | readWrite => 2
  | create => 3

/-- How much may be asked for behind an access. -/
def limit : Access → Nat
  | readOnly => 1
  | readWrite => 2
  | create => 3
  | memory => 4

end Access

/-- How the database may share its pages. -/
def cacheModes : List String := ["shared", "private"]

/-- The names of the ways to reach files. -/
def systems : List String := ["unix", "unix-excl", "unix-dotfile", "unix-none", "memdb"]

/-- What is wrong with options, for an access and a way to reach files that earlier ones asked
for. An access may not ask for more than the one before it. -/
def optionFault? (access : Access) (system : String) : List (String × String) →
    Option DatabaseFault
  | [] => if systems.contains system then none else some (.unknownSystem system)
  | (name, value) :: rest =>
    match name with
    | "vfs" => optionFault? access value rest
    | "cache" =>
      if cacheModes.contains value then optionFault? access system rest
      else some (.unknownCacheMode value)
    | "mode" =>
      match Access.ofName? value with
      | none => some (.unknownAccess value)
      | some next =>
        if access.limit < next.demand then some (.accessDenied value)
        else optionFault? next system rest
    | _ => optionFault? access system rest

/-- What is wrong with a path as an address. A path that is none has no such fault. -/
def fault? (path : List Char) : Option DatabaseFault :=
  if scheme.isPrefixOf path then
    let text := path.drop scheme.length
    if isHere (authority text) then optionFault? .create "unix" (options text)
    else some (.foreignAuthority (String.ofList (authority text)))
  else none

/-- Why the database at a path cannot be opened, where there is none. A path with a null character
is not even looked at. -/
def missing (path : String) : DatabaseFault :=
  let chars := path.toList
  let before := chars.takeWhile (·.toNat != 0)
  if before.length < chars.length then
    .nullInName (before.foldl (fun size c => size + c.utf8Size) 0)
  else (fault? chars).getD (.cannotOpen path)

end ComicCatalogue.Address
