import TicketLogin.Session.Store

/-!
# Writing a file stage by stage

`SessionFile.save` puts a file in its place in one step. A disk takes more: the folder is made, a
temporary file is created in it, restricted to its owner, written, flushed, and moved into the place
of the file. Each stage can fail for reasons that the tree of files does not show, such as a lack of
space or of permission. A temporary file that cannot be filled is removed before the failure is
reported. One that cannot be moved is held by the report: it goes when the report is dropped, and
stays if the program ends without that.
-/

namespace TicketLogin

inductive Stage
  | load
  | folder
  | create
  | restrict
  | write
  | flush
  | move
  deriving DecidableEq, Repr

/-- One attempt at writing a file: the stages that fail, and what chance decides. -/
structure Attempt where
  fails : Stage → Bool
  /-- How many folders, from the last one up, are not made when making them fails. -/
  unmade : Nat
  /-- How many bytes are written when writing fails. -/
  written : Nat
  /-- The name of the temporary file. -/
  name : String

/-- What is reported of an attempt that has failed, and the temporary file that the report holds. -/
structure Attempt.Report where
  fault : StoreFault
  held : Option Place
  deriving DecidableEq

namespace Disk

def remove (d : Disk) (p : Place) : Disk := ⟨d.entries.filter fun x => x.1 ≠ p⟩

def restrict (d : Disk) (p : Place) (mode : Nat) : Disk :=
  match d.get? p with
  | some (.file bytes _) => d.put p (.file bytes mode)
  | _ => d

/-- Moves a file to a path, in place of any file there. -/
def moveFile (d : Disk) (p : Place) (path : String) : Except SystemFault Disk := do
  let target ← d.seat path .notFolder .busy
  match d.get? p with
  | some (.file bytes mode) => return (d.remove p).put target (.file bytes mode)
  | _ => throw .notFound

end Disk

namespace Attempt

/-- The disk after a stage of filling the temporary file, be it one that fails. -/
def touch (a : Attempt) (temporary : Place) (bytes : List UInt8) (d : Disk) : Stage → Disk
  | .restrict => if a.fails .restrict then d else d.restrict temporary Disk.privateMode
  | .write =>
    let written := if a.fails .write then bytes.take a.written else bytes
    d.put temporary (.file written Disk.privateMode)
  | _ => d

/-- Goes through stages until one fails: the disk then, and the stage. -/
def go (a : Attempt) (temporary : Place) (bytes : List UInt8) :
    Disk → List Stage → Disk × Option Stage
  | d, [] => (d, none)
  | d, stage :: rest =>
    let d := a.touch temporary bytes d stage
    if a.fails stage then (d, some stage) else a.go temporary bytes d rest

end Attempt

namespace SessionFile

/-- A failure of a stage that is not to be seen in the tree of files. -/
def outOfOrder (f : SessionFile) (stage : Stage) : StoreFault :=
  .medium <|
    match stage with
    | .load => s!"Failed to read session from {f.path}"
    | .folder => s!"Failed to create directory {f.folder}"
    | .create => s!"Failed to create temp file in {f.folder}"
    | .restrict => "Failed to restrict session file permissions"
    | .write => s!"Failed to write session to {f.path}"
    | .flush => "Failed to flush session file"
    | .move => s!"Failed to replace {f.path}"

variable (f : SessionFile) (a : Attempt)

def loadBy : Except StoreFault Items :=
  if a.fails .load then .error (f.outOfOrder .load) else f.load

def makeFolderBy : Disk × Except StoreFault Unit :=
  if a.fails .folder then
    ((f.disk.makeFoldersUp ((Disk.steps f.folder).reverse.drop a.unmade)).1,
      .error (f.outOfOrder .folder))
  else
    let (disk, result) := f.disk.makeFolders f.folder
    (disk, result.mapError (.noFolder f.folder))

/-- Where the temporary file is created: in the folder, unless something has its name already. -/
def temporary? (d : Disk) : Option Place :=
  match d.locate f.folder with
  | .error _ => none
  | .ok folder =>
    let temporary := folder ++ [a.name]
    if a.fails .create ∨ (d.get? temporary).isSome then none else some temporary

/-- Fills the temporary file and moves it. -/
def replaceBy (temporary : Place) (bytes : List UInt8) (d : Disk) :
    Disk × Except Attempt.Report Unit :=
  match a.go temporary bytes d [.restrict, .write, .flush] with
  | (d, some stage) => (d.remove temporary, .error ⟨f.outOfOrder stage, none⟩)
  | (d, none) =>
    if a.fails .move then (d, .error ⟨f.outOfOrder .move, some temporary⟩)
    else
      match d.moveFile temporary f.path with
      | .error cause => (d, .error ⟨.noReplacement f.path cause, some temporary⟩)
      | .ok d => (d, .ok ())

def saveBy (items : Items) : SessionFile × Except Attempt.Report Unit :=
  match f.makeFolderBy a with
  | (disk, .error fault) => ({ f with disk }, .error ⟨fault, none⟩)
  | (disk, .ok ()) =>
    match f.temporary? a disk with
    | none => ({ f with disk }, .error ⟨f.outOfOrder .create, none⟩)
    | some temporary =>
      let created := disk.put temporary (.file [] Disk.privateMode)
      let (disk, result) := f.replaceBy a temporary (Utf8.encode items.text) created
      ({ f with disk }, result)

def persistBy (s : Session) : SessionFile × Except Attempt.Report Unit :=
  f.saveBy a (((f.loadBy a).toOption.getD .empty).putSession s)

def clearBy : SessionFile × Except Attempt.Report Bool :=
  match f.loadBy a with
  | .error fault => (f, .error ⟨fault, none⟩)
  | .ok items =>
    if items.hasSessionItem then
      let (f, result) := f.saveBy a items.dropSession
      (f, result.map fun _ => items.authorization?.isSome)
    else (f, .ok items.authorization?.isSome)

end SessionFile

/-- The disk when the report has been dropped. -/
def Attempt.Report.drop (r : Attempt.Report) (d : Disk) : Disk :=
  match r.held with
  | none => d
  | some p => d.remove p

/-- What is left of an attempt when nobody holds a report of it any more. -/
def SessionFile.settle {α : Type} :
    SessionFile × Except Attempt.Report α → SessionFile × Except StoreFault α
  | (f, .error r) => ({ f with disk := r.drop f.disk }, .error r.fault)
  | (f, .ok x) => (f, .ok x)

end TicketLogin
