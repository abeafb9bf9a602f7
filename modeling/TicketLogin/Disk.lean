import TicketLogin.Text.Blank
import TicketLogin.Text.Utf8

/-!
# A small disk

A tree of folders and files below one root, kept as a list of places. Paths are texts: one that
starts with the name of the root is absolute, every other one counts from the root as well, because
that is where programs are run. A step through something that is no folder fails as on a real disk.
-/

namespace TicketLogin

inductive SystemFault
  | notFound
  | alreadyExists
  | notFolder
  | isFolder
  | busy
  | notText
  deriving DecidableEq, Repr

def SystemFault.message : SystemFault → String
  | .notFound => "No such file or directory (os error 2)"
  | .alreadyExists => "File exists (os error 17)"
  | .notFolder => "Not a directory (os error 20)"
  | .isFolder => "Is a directory (os error 21)"
  | .busy => "Device or resource busy (os error 16)"
  | .notText => "stream did not contain valid UTF-8"

inductive Entry
  | folder
  | file (bytes : List UInt8) (mode : Nat)
  deriving DecidableEq, Repr

abbrev Place := List String

structure Disk where
  entries : List (Place × Entry)
  deriving DecidableEq, Repr

namespace Disk

def rootName : String := "<TMP>"

/-- The permission bits of a file that a program creates, and of one that it keeps to itself. -/
def openMode : Nat := 0o644
def privateMode : Nat := 0o600

def empty : Disk := ⟨[]⟩

def get? (d : Disk) (p : Place) : Option Entry :=
  if p = [] then some .folder else d.entries.lookup p

def put (d : Disk) (p : Place) (e : Entry) : Disk :=
  ⟨d.entries.filter (fun x => x.1 ≠ p) ++ [(p, e)]⟩

def steps (path : String) : List String :=
  let names := (Text.splitOn '/' path.toList).map String.ofList
  let names := if names.head? = some rootName then names.drop 1 else names
  names.filter fun name => name ≠ "" ∧ name ≠ "."

/-- How a path ends: in a name, in slashes behind one, or in single or double dots. -/
inductive Ending
  | name
  | slashes
  | dots
  deriving DecidableEq, Repr

def ending (path : String) : Ending :=
  let names := Text.splitOn '/' path.toList
  let last := (names.filter (· ≠ [])).getLast?
  if last = some ['.'] ∨ last = some ['.', '.'] then .dots
  else if names.getLast? = some [] then .slashes
  else .name

/-- A place, if a folder is there. -/
def enter (d : Disk) (p : Place) : Except SystemFault Place :=
  match d.get? p with
  | none => .error .notFound
  | some (.file _ _) => .error .notFolder
  | some .folder => .ok p

/-- A place, unless a folder is there. -/
def avoid (d : Disk) (p : Place) : Except SystemFault Place :=
  match d.get? p with
  | some .folder => .error .isFolder
  | _ => .ok p

/-- Walks down from a place. Every step but the last must be a folder. -/
def walk (d : Disk) : Place → List String → Except SystemFault Place
  | p, [] => .ok p
  | p, name :: rest =>
    match d.enter p with
    | .error fault => .error fault
    | .ok p => walk d (if name = ".." then p.dropLast else p ++ [name]) rest

/-- Where a path leads. One that does not end in a name leads to a folder or nowhere. -/
def locate (d : Disk) (path : String) : Except SystemFault Place := do
  let p ← d.walk [] (steps path)
  match ending path with
  | .name => return p
  | _ => d.enter p

/-- Where a file of this path belongs, unless a folder is there. No file has a path that does not
end in a name; how that is reported depends on what is done with it. -/
def seat (d : Disk) (path : String) (slashes dots : SystemFault) : Except SystemFault Place := do
  let p ← d.walk [] (steps path)
  match ending path with
  | .slashes => throw slashes
  | .dots =>
    let _ ← d.enter p
    throw dots
  | .name => d.avoid p

def find? (d : Disk) (path : String) : Option Entry :=
  match d.locate path with
  | .ok p => d.get? p
  | .error _ => none

def isThere (d : Disk) (path : String) : Bool := (d.find? path).isSome

def readBytes (d : Disk) (path : String) : Except SystemFault (List UInt8) := do
  match d.get? (← d.locate path) with
  | none => throw .notFound
  | some .folder => throw .isFolder
  | some (.file bytes _) => return bytes

def readText (d : Disk) (path : String) : Except SystemFault (List Char) := do
  match Utf8.decode? (← d.readBytes path) with
  | some s => return s
  | none => throw .notText

/-- Moves a file of these bytes to a path, in place of any file there. -/
def replaceFile (d : Disk) (path : String) (bytes : List UInt8) (mode : Nat) :
    Except SystemFault Disk := do
  return d.put (← d.seat path .notFolder .busy) (.file bytes mode)

/-- Writes into a file; one that is there keeps its permission bits. -/
def writeFile (d : Disk) (path : String) (bytes : List UInt8) : Except SystemFault Disk := do
  let p ← d.seat path .isFolder .isFolder
  match d.get? p with
  | some (.file _ mode) => return d.put p (.file bytes mode)
  | _ => return d.put p (.file bytes openMode)

/-- Makes one folder; the one above it must be there. -/
def makeFolder (d : Disk) (names : List String) : Except SystemFault Disk :=
  match d.walk [] names with
  | .error fault => .error fault
  | .ok p =>
    match d.get? p with
    | some .folder => .ok d
    | some (.file _ _) => .error .alreadyExists
    | none => .ok (d.put p .folder)

/-- Makes a folder, and before it those above it, if it cannot be made without them. The names are
given from the last one up. Folders that were made stay, even if the rest fails. -/
def makeFoldersUp (d : Disk) : List String → Disk × Except SystemFault Unit
  | [] => (d, .ok ())
  | name :: above =>
    match d.makeFolder (name :: above).reverse with
    | .ok d => (d, .ok ())
    | .error .notFound =>
      match d.makeFoldersUp above with
      | (d, .error fault) => (d, .error fault)
      | (d, .ok ()) =>
        match d.makeFolder (name :: above).reverse with
        | .ok d => (d, .ok ())
        | .error fault => (d, .error fault)
    | .error fault => (d, .error fault)

/-- Makes a folder and all that are missing above it. A file in the place of the folder is one that
exists already; a file above it is no folder. -/
def makeFolders (d : Disk) (path : String) : Disk × Except SystemFault Unit :=
  d.makeFoldersUp (steps path).reverse

/-- Removes slashes and single dots at the end of a path, the first character apart. -/
def trimEnd (path : List Char) : List Char := drop path.reverse |>.reverse
where
  drop : List Char → List Char
    | '/' :: c :: rest => drop (c :: rest)
    | '.' :: '/' :: c :: rest => drop (c :: rest)
    | s => s

/-- What stands before the last name of a path that ends in one. -/
def beforeName (path : List Char) : List Char := (path.reverse.dropWhile (· ≠ '/')).reverse

/-- The path without its last name. -/
def parent (path : String) : String :=
  String.ofList (trimEnd (beforeName (trimEnd path.toList)))

def child (path name : String) : String :=
  if path = "" then name
  else if path.toList.getLast? = some '/' then path ++ name
  else path ++ "/" ++ name

end Disk

end TicketLogin
