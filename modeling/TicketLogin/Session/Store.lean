import TicketLogin.Disk
import TicketLogin.Session.Stored

/-!
# Session stores

A store saves, reads and clears one session beside items of other writers. The items are held in
memory or in a file, a flat JSON record of texts. A file that cannot be read counts as empty when a
session is saved and as no session when one is looked for; reading and clearing report it.
-/

namespace TicketLogin

inductive StoreFault
  | unreadable (path : String) (cause : SystemFault)
  | malformed (path : String)
  | malformedIdentity
  | noFolder (path : String) (cause : SystemFault)
  | noReplacement (path : String) (cause : SystemFault)
  /-- The medium is out of order. -/
  | medium (message : String)
  deriving DecidableEq, Repr

namespace StoreFault

def message : StoreFault → String
  | .unreadable path _ => s!"Failed to read session from {path}"
  | .malformed path => s!"Failed to parse session from {path}"
  | .malformedIdentity => "Failed to parse stored user info"
  | .noFolder path _ => s!"Failed to create directory {path}"
  | .noReplacement path _ => s!"Failed to replace {path}"
  | .medium message => message

/-- What a fault comes from, the nearest first. -/
def causes : StoreFault → List String
  | .unreadable _ cause | .noFolder _ cause => [cause.message]
  | .malformed _ => ["not a JSON record of texts"]
  | .malformedIdentity => ["not a JSON record of an identity"]
  | .noReplacement _ cause =>
    [s!"failed to persist temporary file: {cause.message}", cause.message]
  | .medium _ => []

/-- The message with those of all that the fault comes from. -/
def chain (f : StoreFault) : String := ": ".intercalate (f.message :: f.causes)

end StoreFault

namespace Items

def session? (items : Items) : Except StoreFault (Option Session) :=
  match items.authorization? with
  | none => .ok none
  | some authorization =>
    match items.identity? with
    | none => .error .malformedIdentity
    | some identity =>
      .ok (some ⟨authorization, (items.get? Session.tokenName).getD "", identity⟩)

def textFields? : List (String × Json.Value) → Option (List (String × String))
  | [] => some []
  | (name, .text s) :: rest => (textFields? rest).map ((name, s) :: ·)
  | _ => none

def parse? (s : List Char) : Option Items :=
  match Json.Value.parse s with
  | some (.record fields) => (textFields? fields).map ofFields
  | _ => none

def text (items : Items) : List Char := Json.indented items.entries

end Items

structure SessionFile where
  path : String
  disk : Disk
  deriving DecidableEq

namespace SessionFile

/-- The items in the file; none if there is no file. -/
def load (f : SessionFile) : Except StoreFault Items :=
  if f.disk.isThere f.path then
    match f.disk.readText f.path with
    | .error cause => .error (.unreadable f.path cause)
    | .ok s =>
      match Items.parse? s with
      | some items => .ok items
      | none => .error (.malformed f.path)
  else .ok .empty

def folder (f : SessionFile) : String :=
  let folder := Disk.parent f.path
  if folder = "" then "." else folder

/-- Writes items in place of the file, making its folder first. -/
def save (f : SessionFile) (items : Items) : SessionFile × Except StoreFault Unit :=
  match f.disk.makeFolders f.folder with
  | (disk, .error cause) => ({ f with disk }, .error (.noFolder f.folder cause))
  | (disk, .ok ()) =>
    match disk.replaceFile f.path (Utf8.encode items.text) Disk.privateMode with
    | .error cause => ({ f with disk }, .error (.noReplacement f.path cause))
    | .ok disk => ({ f with disk }, .ok ())

end SessionFile

inductive Medium
  | memory (items : Items)
  | file (f : SessionFile)
  deriving DecidableEq

namespace Medium

def load : Medium → Except StoreFault Items
  | .memory items => .ok items
  | .file f => f.load

def save (m : Medium) (items : Items) : Medium × Except StoreFault Unit :=
  match m with
  | .memory _ => (.memory items, .ok ())
  | .file f => let (f, result) := f.save items; (.file f, result)

/-- Saves a session. Items that cannot be read are given up. -/
def persist (m : Medium) (s : Session) : Medium × Except StoreFault Unit :=
  m.save ((m.load.toOption.getD .empty).putSession s)

def read (m : Medium) : Except StoreFault (Option Session) := do (← m.load).session?

/-- Takes the session away and tells whether there was one. Items that hold nothing of a session
are not written again. -/
def clear (m : Medium) : Medium × Except StoreFault Bool :=
  match m.load with
  | .error e => (m, .error e)
  | .ok items =>
    if items.hasSessionItem then
      let (m, result) := m.save items.dropSession
      (m, result.map fun _ => items.authorization?.isSome)
    else (m, .ok items.authorization?.isSome)

def hasSession (m : Medium) : Bool :=
  match m.read with
  | .ok (some _) => true
  | _ => false

end Medium

structure Store where
  medium : Medium
  persistFails : Bool
  readFails : Bool
  clearFails : Bool
  deriving DecidableEq

namespace Store

def ofMedium (medium : Medium) : Store := ⟨medium, false, false, false⟩

def outOfOrder : StoreFault := .medium "disk full"

def persist (s : Store) (session : Session) : Store × Except StoreFault Unit :=
  if s.persistFails then (s, .error outOfOrder)
  else
    let (medium, result) := s.medium.persist session
    ({ s with medium }, result)

def read (s : Store) : Except StoreFault (Option Session) :=
  if s.readFails then .error outOfOrder else s.medium.read

def clear (s : Store) : Store × Except StoreFault Bool :=
  if s.clearFails then (s, .error outOfOrder)
  else
    let (medium, result) := s.medium.clear
    ({ s with medium }, result)

def hasSession (s : Store) : Bool :=
  match s.read with
  | .ok (some _) => true
  | _ => false

end Store

end TicketLogin
