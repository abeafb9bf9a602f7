import TicketLogin.Disk
import TicketLogin.Settings.Basic

/-!
# The file of settings

A missing file stands for the default settings. A file is made once, from the template, and never
over another one.
-/

namespace TicketLogin

/-- Why settings cannot be loaded or a file of them cannot be made. -/
inductive SettingsFault
  | unreadable (path : String) (cause : SystemFault)
  | malformed (path : String)
  | alreadyThere (path : String)
  | noFolder (path : String) (cause : SystemFault)
  | unwritable (path : String) (cause : SystemFault)
  deriving DecidableEq, Repr

namespace SettingsFault

def message : SettingsFault → String
  | .unreadable path _ => s!"Failed to read config from {path}"
  | .malformed path => s!"Failed to parse config from {path}"
  | .alreadyThere path => s!"Config file already exists at {path}"
  | .noFolder path _ => s!"Failed to create directory {path}"
  | .unwritable path _ => s!"Failed to write config to {path}"

def cause? : SettingsFault → Option SystemFault
  | .unreadable _ cause | .noFolder _ cause | .unwritable _ cause => some cause
  | _ => none

end SettingsFault

namespace Settings

def load (disk : Disk) (path : String) : Except SettingsFault Settings :=
  if disk.isThere path then
    match disk.readText path with
    | .error cause => .error (.unreadable path cause)
    | .ok s =>
      match parse? s with
      | some settings => .ok settings
      | none => .error (.malformed path)
  else .ok default

def create (disk : Disk) (path : String) : Disk × Except SettingsFault Unit :=
  if disk.isThere path then (disk, .error (.alreadyThere path))
  else
    let folder := Disk.parent path
    match disk.makeFolders folder with
    | (disk, .error cause) => (disk, .error (.noFolder folder cause))
    | (disk, .ok ()) =>
      match disk.writeFile path (Utf8.encode templateText) with
      | .error cause => (disk, .error (.unwritable path cause))
      | .ok disk => (disk, .ok ())

end Settings

end TicketLogin
