import TicketLogin.CommandLine.Run

/-!
# The program

Finds the two files of the home folder, runs, and writes back those that the run changed. There is
no network behind it, so that a redemption ends as one whose connection was closed.
-/

namespace TicketLogin.Program

open CommandLine

def variableNames : List String :=
  ["IDSGATE_HOME", "HOME", "IDSGATE_IDS_SERVICE_URL", "IDSGATE_IDS_LOGIN_URL",
    "IDSGATE_TICKET_LOGIN_URL"]

def bytes? (path : String) : IO (Option (List UInt8)) := do
  try
    let bytes ← IO.FS.readBinFile path
    return some bytes.toList
  catch _ => return none

def placed (d : Disk) (path : String) (bytes : List UInt8) : Disk :=
  let d := (d.makeFolders (Disk.parent path)).1
  (d.writeFile path bytes).toOption.getD d

def ownRights : IO.FileRight := { user := { read := true, write := true } }

def writeBack (path : String) (before after : Disk) : IO Unit := do
  let some (.file bytes mode) := after.find? path | return
  if (before.readBytes path).toOption ≠ some bytes then
    let folder := Disk.parent path
    if folder ≠ "" then IO.FS.createDirAll folder
    IO.FS.writeBinFile path ⟨bytes.toArray⟩
    if mode = Disk.privateMode then IO.setAccessRights path ownRights

end TicketLogin.Program

open TicketLogin TicketLogin.CommandLine TicketLogin.Program in
def main (arguments : List String) : IO UInt32 := do
  let mut values := []
  for name in variableNames do
    if let some value ← IO.getEnv name then values := (name, value) :: values
  let table := values
  let bare : Surroundings := ⟨.empty, fun name => table.lookup name, .offline⟩
  let paths := [bare.settingsPath, bare.sessionPath]
  let mut disk := Disk.empty
  for path in paths do
    if let some bytes ← bytes? path then disk := placed disk path bytes
  let r := run { bare with disk } arguments
  for path in paths do writeBack path disk r.disk
  IO.print (Run.written r.printed)
  IO.eprint (Run.written r.complaints)
  return r.verdict.exitCode.toUInt32
