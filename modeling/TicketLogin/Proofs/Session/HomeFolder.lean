import TicketLogin.Proofs.Session.Persist
import TicketLogin.Settings.File

/-!
# A session file in its folder

The folder of a session file may have to be made, for the session or for the settings beside it. A
file keeps its items if it holds them, still holds them when its folder has been made, and can be
written. Saving takes it to the items that are saved, and making the folder or writing another file
into it leaves it as it is.
-/

namespace TicketLogin

namespace Disk

theorem makeFolders_congr (d : Disk) {path path' : String} (h : steps path' = steps path) :
    d.makeFolders path' = d.makeFolders path := by
  rw [makeFolders, makeFolders, h]

theorem writeFile_eq_put {d d' : Disk} {path : String} {bytes : List UInt8}
    (h : d.writeFile path bytes = .ok d') :
    ∃ q mode, d.Accepts path q ∧ d' = d.put q (.file bytes mode) := by
  rw [writeFile] at h
  cases hseat : d.seat path .isFolder .isFolder with
  | error fault =>
    rw [hseat] at h
    cases h
  | ok q =>
    simp only [hseat, bind, Except.bind] at h
    have haccepts := seat_eq_ok_iff.1 hseat
    split at h
    · exact ⟨q, _, haccepts, (Except.ok.inj h).symm⟩
    · exact ⟨q, _, haccepts, (Except.ok.inj h).symm⟩

def removeFile (d : Disk) (path : String) : Disk :=
  match d.locate path with
  | .error _ => d
  | .ok p =>
    match d.get? p with
    | some (.file _ _) => ⟨d.entries.filter fun x => x.1 ≠ p⟩
    | _ => d

theorem removeFile_cases (d : Disk) (path : String) :
    d.removeFile path = d ∨ ∃ p, d.Accepts path p ∧ SameBut p d (d.removeFile path) := by
  unfold removeFile
  split
  · exact .inl rfl
  · next p hlocate =>
    split
    · next bytes mode hfile =>
      refine .inr ⟨p, ⟨hlocate, ?_⟩, ?_⟩
      · rw [hfile]
        intro hfolder
        cases hfolder
      · intro q hq
        simp only [get?, lookup_filter hq]
    · exact .inl rfl

/-- These paths lead to two files in the folder that these names lead to. -/
def Beside (names : List String) (path path' : String) : Prop :=
  ∃ name name', steps path = names ++ [name] ∧ steps path' = names ++ [name'] ∧
    name ≠ ".." ∧ name' ≠ ".." ∧ name ≠ name'

theorem Beside.locate_ne {d : Disk} {names : List String} {path path' : String}
    (h : Beside names path path') {p q : Place} (hp : d.locate path = .ok p)
    (hq : d.locate path' = .ok q) : p ≠ q := by
  obtain ⟨name, name', hpath, hpath', hup, hup', hne⟩ := h
  obtain ⟨folder, hwalk, _, rfl⟩ := walk_concat (hpath ▸ (locate_eq_ok_iff.1 hp).1)
  obtain ⟨folder', hwalk', _, rfl⟩ := walk_concat (hpath' ▸ (locate_eq_ok_iff.1 hq).1)
  obtain rfl := Except.ok.inj (hwalk.symm.trans hwalk')
  rw [if_neg hup, if_neg hup']
  intro heq
  exact hne (List.singleton_inj.1 (List.append_cancel_left heq))

theorem hasFolder_of_locate {d : Disk} {path : String} {names : List String} {name : String}
    (hpath : steps path = names ++ [name]) {p : Place} (hp : d.locate path = .ok p) :
    d.HasFolder names := by
  obtain ⟨folder, hwalk, hfolder, _⟩ := walk_concat (hpath ▸ (locate_eq_ok_iff.1 hp).1)
  exact ⟨folder, hwalk, hfolder⟩

theorem Beside.hasFolder {d : Disk} {names : List String} {path path' : String}
    (h : Beside names path path') {q : Place} (hq : d.locate path' = .ok q) :
    d.HasFolder names := by
  obtain ⟨_, _, _, hpath', _⟩ := h
  exact hasFolder_of_locate hpath' hq

end Disk

namespace SessionFile

/-- The file on the disk on which its folder has been made. -/
def inFolder (f : SessionFile) : SessionFile := { f with disk := (f.disk.makeFolders f.folder).1 }

theorem inFolder_of_hasFolder {f : SessionFile} (h : f.disk.HasFolder (Disk.steps f.folder)) :
    f.inFolder = f := by
  rw [inFolder, h.makeFolders]

theorem path_inFolder (f : SessionFile) : f.inFolder.path = f.path := by rw [inFolder]

structure Keeps (f : SessionFile) (items : Items) : Prop where
  load : f.load = .ok items
  loadInFolder : f.inFolder.load = .ok items
  writable : f.Writable

theorem load_congr {path : String} {d d' : Disk} {p : Place} (hlocate : d.locate path = .ok p)
    (hlocate' : d'.locate path = .ok p) (hget : d'.get? p = d.get? p) :
    load ⟨path, d'⟩ = load ⟨path, d⟩ := by
  simp only [load, Disk.isThere, Disk.find?, Disk.readText, Disk.readBytes, hlocate, hlocate', bind,
    Except.bind, hget]

section

variable {f : SessionFile} {items : Items}

/-- The folder of a file can be made or is there, and then the file can be written. -/
theorem Keeps.accepts (h : f.Keeps items) :
    ∃ disk p, f.disk.makeFolders f.folder = (disk, .ok ()) ∧ disk.Accepts f.path p ∧
      f.inFolder = { f with disk } := by
  obtain ⟨disk, p, hfolder, hp⟩ := exists_of_save (h.writable items)
  refine ⟨disk, p, hfolder, hp, ?_⟩
  rw [SessionFile.inFolder, hfolder]

theorem folder_with (f : SessionFile) (disk : Disk) : ({ f with disk }).folder = f.folder := rfl

theorem keeps_of_accepts {disk : Disk} (hfolder : disk.HasFolder (Disk.steps f.folder)) {p : Place}
    (hp : disk.Accepts f.path p) (hload : ({ f with disk }).load = .ok items) :
    ({ f with disk }).Keeps items := by
  have hthere : disk.HasFolder (Disk.steps ({ f with disk }).folder) := by rwa [folder_with]
  refine ⟨hload, ?_, fun others => ?_⟩
  · rw [inFolder_of_hasFolder (f := { f with disk }) hthere]
    exact hload
  · rw [save_eq (f := { f with disk }) hthere.makeFolders hp]

theorem Keeps.inFolder (h : f.Keeps items) : f.inFolder.Keeps items := by
  obtain ⟨disk, p, hfolder, hp, hin⟩ := h.accepts
  have hload := h.loadInFolder
  rw [hin] at hload ⊢
  exact keeps_of_accepts (Disk.hasFolder_of_makeFolders hfolder) hp hload

theorem keeps_save (h : f.Writable) (items : Items) : (f.save items).1.Keeps items := by
  obtain ⟨disk, p, hsaved⟩ := h.saved items
  rw [hsaved.save]
  exact keeps_of_accepts hsaved.folder hsaved.accepts hsaved.load

theorem get?_ne_folder_of_load {p : Place} (hlocate : f.disk.locate f.path = .ok p)
    (hload : f.load = .ok items) : f.disk.get? p ≠ some .folder := by
  intro hfolder
  have hthere : f.disk.isThere f.path = true := by
    simp only [Disk.isThere, Disk.find?, hlocate, hfolder, Option.isSome_some]
  have htext : f.disk.readText f.path = .error .isFolder := by
    simp only [Disk.readText, Disk.readBytes, hlocate, bind, Except.bind, hfolder]
    rfl
  rw [SessionFile.load, if_pos hthere, htext] at hload
  cases hload

/-- No file is at the root, so a path that leads to one leads through its folder. -/
theorem hasFolder_of_accepts {p : Place} (h : f.disk.Accepts f.path p) :
    f.disk.HasFolder (Disk.steps f.folder) := by
  rw [steps_folder]
  obtain hroot | ⟨name, hpath⟩ := Disk.steps_eq_nil_or_concat f.path
  · have hwalk := (Disk.locate_eq_ok_iff.1 h.1).1
    rw [hroot, Disk.walk, Except.ok.injEq] at hwalk
    exact absurd rfl (hwalk ▸ h.2)
  · exact Disk.hasFolder_of_locate hpath h.1

theorem exists_locate_of_isThere (hthere : f.disk.isThere f.path = true) :
    ∃ p, f.disk.locate f.path = .ok p := by
  cases hlocate : f.disk.locate f.path with
  | error fault =>
    simp only [Disk.isThere, Disk.find?, hlocate] at hthere
    cases hthere
  | ok p => exact ⟨p, rfl⟩

theorem keeps_of_isThere (hthere : f.disk.isThere f.path = true) (hload : f.load = .ok items) :
    f.Keeps items := by
  obtain ⟨p, hlocate⟩ := exists_locate_of_isThere hthere
  have haccepts : f.disk.Accepts f.path p := ⟨hlocate, get?_ne_folder_of_load hlocate hload⟩
  exact keeps_of_accepts (hasFolder_of_accepts haccepts) haccepts hload

theorem keeps_of_absent {name : String} (hpath : Disk.steps f.path = Disk.steps f.folder ++ [name])
    (habsent : f.inFolder.disk.isThere f.path = false) (hwritable : f.Writable) :
    f.Keeps .empty := by
  have hnow : f.disk.isThere f.path = false := by
    rw [← Bool.not_eq_true]
    intro hthere
    obtain ⟨p, hlocate⟩ := exists_locate_of_isThere hthere
    rw [inFolder_of_hasFolder (Disk.hasFolder_of_locate hpath hlocate), hthere] at habsent
    cases habsent
  refine ⟨?_, ?_, hwritable⟩
  · rw [SessionFile.load, hnow]
    rfl
  · rw [SessionFile.load, path_inFolder, habsent]
    rfl

variable {path : String}

/-- Another file that changes beside a session file leaves that one as it is. -/
theorem Keeps.beside (h : f.Keeps items) (hbeside : Disk.Beside (Disk.steps f.folder) f.path path)
    {q : Place} (hq : f.disk.Accepts path q) {disk' : Disk} (hsame : Disk.SameBut q f.disk disk') :
    ({ f with disk := disk' }).Keeps items := by
  have hfolder := hbeside.hasFolder hq.1
  obtain ⟨disk, p, hmade, hp, _⟩ := h.accepts
  obtain rfl : f.disk = disk := congrArg Prod.fst (hfolder.makeFolders.symm.trans hmade)
  have hthere : disk'.get? p = f.disk.get? p := hsame p (hbeside.locate_ne hp.1 hq.1)
  have hlocate : disk'.locate f.path = .ok p := hsame.locate hq.2 hp.1
  have hload := load_congr hp.1 hlocate hthere
  refine keeps_of_accepts (hsame.hasFolder hq.2 hfolder) ⟨hlocate, ?_⟩ (hload.trans h.load)
  rw [hthere]
  exact hp.2

theorem Keeps.writeFile (h : f.Keeps items)
    (hbeside : Disk.Beside (Disk.steps f.folder) f.path path) {bytes : List UInt8} {disk : Disk}
    (hwrite : f.disk.writeFile path bytes = .ok disk) : ({ f with disk }).Keeps items := by
  obtain ⟨q, mode, hq, rfl⟩ := Disk.writeFile_eq_put hwrite
  exact h.beside hbeside hq (f.disk.sameBut_put (Disk.ne_nil_of_get? hq.2) _)

theorem Keeps.removeFile (h : f.Keeps items)
    (hbeside : Disk.Beside (Disk.steps f.folder) f.path path) :
    ({ f with disk := f.disk.removeFile path }).Keeps items := by
  obtain hsame | ⟨q, hq, hremoved⟩ := f.disk.removeFile_cases path
  · rw [hsame]
    exact h
  · exact h.beside hbeside hq hremoved

theorem Keeps.create (h : f.Keeps items)
    (hbeside : Disk.Beside (Disk.steps f.folder) f.path path)
    (hfolder : Disk.steps (Disk.parent path) = Disk.steps f.folder) :
    ({ f with disk := (Settings.create f.disk path).1 }).Keeps items := by
  unfold Settings.create
  split
  · exact h
  · obtain ⟨disk, p, hmade, _, hin⟩ := h.accepts
    have hkeeps : ({ f with disk }).Keeps items := hin ▸ h.inFolder
    dsimp only
    rw [Disk.makeFolders_congr f.disk hfolder, hmade]
    dsimp only
    cases hwrite : disk.writeFile path (Utf8.encode Settings.templateText) with
    | error cause => exact hkeeps
    | ok disk' => exact Keeps.writeFile (f := { f with disk }) hkeeps hbeside hwrite

end

end SessionFile

end TicketLogin
