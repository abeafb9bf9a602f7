import TicketLogin.Proofs.Path
import TicketLogin.Proofs.Session.RoundTrip

/-!
# Saving a session, or failing to

A session that is saved takes the place of the one before, and items of others stay. If it cannot be
saved no file changes; at most folders on the way to it have been made.
-/

namespace TicketLogin

namespace Items

/-- The items afterwards are those before, with this session in the place of any other. -/
structure Took (before : Items) (s : Session) (after : Items) : Prop where
  holds : after.Holds (some s)
  others : ∀ name ∉ Session.itemNames, after.get? name = before.get? name

theorem took_putSession (items : Items) (s : Session) : items.Took s (items.putSession s) :=
  ⟨items.holds_putSession s, fun _ hname => get?_putSession hname items s⟩

end Items

namespace Disk

theorem isThere_of_readBytes {d : Disk} {path : String} {bytes : List UInt8}
    (h : d.readBytes path = .ok bytes) : d.isThere path = true := by
  simp only [readBytes, bind, Except.bind] at h
  simp only [isThere, find?]
  cases hlocate : d.locate path with
  | error fault => simp [hlocate] at h
  | ok p =>
    cases hget : d.get? p with
    | none => simp [hlocate, hget, throw, throwThe, MonadExceptOf.throw] at h
    | some entry => simp only [hget, Option.isSome_some]

theorem readText_toOption (d : Disk) (path : String) :
    (d.readText path).toOption = (d.readBytes path).toOption.bind Utf8.decode? := by
  simp only [readText, bind, Except.bind]
  cases d.readBytes path with
  | error fault => rfl
  | ok bytes =>
    change _ = Utf8.decode? bytes
    dsimp only
    cases Utf8.decode? bytes with
    | none => rfl
    | some s => rfl

end Disk

namespace SessionFile

theorem disk_of_save_error {f : SessionFile} {items : Items} {fault : StoreFault}
    (h : (f.save items).2 = .error fault) :
    (f.save items).1 = { f with disk := (f.disk.makeFolders f.folder).1 } := by
  unfold save at h ⊢
  cases hmake : f.disk.makeFolders f.folder with
  | mk disk made =>
    rw [hmake] at h
    cases made with
    | error cause => rfl
    | ok =>
      dsimp only at h ⊢
      cases hreplace : disk.replaceFile f.path (Utf8.encode items.text) Disk.privateMode with
      | error cause => rfl
      | ok disk =>
        rw [hreplace] at h
        cases h

theorem steps_folder (f : SessionFile) : Disk.steps f.folder = Disk.steps (Disk.parent f.path) := by
  unfold folder
  dsimp only
  split
  · next hroot =>
    rw [hroot]
    rfl
  · rfl

/-- What is in a file that could not be replaced is what was there before, bytes or nothing. -/
theorem bytes_of_save_error {f : SessionFile} {items : Items} {fault : StoreFault}
    (h : (f.save items).2 = .error fault) :
    ((f.save items).1.disk.readBytes f.path).toOption = (f.disk.readBytes f.path).toOption := by
  rw [disk_of_save_error h]
  obtain hroot | ⟨name, hpath⟩ := Disk.steps_eq_nil_or_concat f.path
  · rw [Disk.readBytes_of_root hroot, Disk.readBytes_of_root hroot]
  rw [← steps_folder] at hpath
  by_cases hfolder : f.disk.HasFolder (Disk.steps f.folder)
  · rw [hfolder.makeFolders]
  · rw [Disk.readBytes_of_not_hasFolder hpath hfolder]
    unfold save at h
    cases hmake : f.disk.makeFolders f.folder with
    | mk disk made =>
      rw [hmake] at h
      cases made with
      | error cause =>
        exact Disk.readBytes_of_not_hasFolder hpath (Disk.not_hasFolder_of_makeFolders hmake)
      | ok =>
        dsimp only at h ⊢
        cases hreplace : disk.replaceFile f.path (Utf8.encode items.text) Disk.privateMode with
        | error cause => exact Disk.readBytes_of_replaceFile_error hreplace
        | ok disk =>
          rw [hreplace] at h
          cases h

theorem path_save (f : SessionFile) (items : Items) : (f.save items).1.path = f.path := by
  unfold save
  split
  · rfl
  · split <;> rfl

end SessionFile

namespace Medium

/-- The items that a session is saved into. -/
def found (m : Medium) : Items := m.load.toOption.getD .empty

theorem found_file (f : SessionFile) :
    (Medium.file f).found =
      ((f.disk.readText f.path).toOption.bind Items.parse?).getD .empty := by
  simp only [found, load, SessionFile.load]
  cases hread : f.disk.readText f.path with
  | error cause => split <;> rfl
  | ok s =>
    have hbytes := f.disk.readText_toOption f.path
    rw [hread] at hbytes
    cases hfile : f.disk.readBytes f.path with
    | error cause =>
      rw [hfile] at hbytes
      cases hbytes
    | ok bytes =>
      rw [if_pos (Disk.isThere_of_readBytes hfile)]
      change _ = (Items.parse? s).getD .empty
      cases hparse : Items.parse? s with
      | none => simp only [hparse]; rfl
      | some items => simp only [hparse]; rfl

/-- The same items in memory, or a file of the same path on a disk with the same files. -/
def Untouched : Medium → Medium → Prop
  | .memory items, after => after = .memory items
  | .file f, after => ∃ disk, after = .file { f with disk } ∧ f.disk.SameFiles disk

theorem Untouched.refl (m : Medium) : m.Untouched m := by
  cases m with
  | memory items => exact rfl
  | file f => exact ⟨f.disk, rfl, .refl f.disk⟩

theorem persist_eq (m : Medium) (s : Session) :
    m.persist s = m.save ((m.load.toOption.getD .empty).putSession s) := rfl

theorem took_of_persist {m : Medium} {s : Session} (h : (m.persist s).2 = .ok ()) :
    ∃ items, (m.persist s).1.load = .ok items ∧ (m.load.toOption.getD .empty).Took s items := by
  rw [persist_eq] at h ⊢
  exact ⟨_, load_of_save h, Items.took_putSession _ s⟩

theorem untouched_of_save_error {m : Medium} {items : Items} {fault : StoreFault}
    (h : (m.save items).2 = .error fault) : m.Untouched (m.save items).1 := by
  cases m with
  | memory held => cases h
  | file f =>
    simp only [save_file] at h ⊢
    refine ⟨(f.disk.makeFolders f.folder).1, ?_, f.disk.sameFiles_makeFolders f.folder⟩
    exact congrArg Medium.file (SessionFile.disk_of_save_error h)

theorem untouched_of_persist_error {m : Medium} {s : Session} {fault : StoreFault}
    (h : (m.persist s).2 = .error fault) : m.Untouched (m.persist s).1 := by
  rw [persist_eq] at h ⊢
  exact untouched_of_save_error h

theorem found_of_persist_error {m : Medium} {s : Session} {fault : StoreFault}
    (h : (m.persist s).2 = .error fault) : (m.persist s).1.found = m.found := by
  cases m with
  | memory items => cases h
  | file f =>
    rw [persist_eq, save_file] at h ⊢
    dsimp only at h ⊢
    have hbytes := SessionFile.bytes_of_save_error h
    rw [found_file, found_file, SessionFile.path_save, Disk.readText_toOption,
      Disk.readText_toOption, hbytes]

end Medium

namespace Store

def Untouched (s after : Store) : Prop :=
  ∃ medium, after = { s with medium } ∧ s.medium.Untouched medium

theorem Untouched.refl (s : Store) : s.Untouched s := ⟨s.medium, rfl, .refl s.medium⟩

theorem hasSession_ofMedium (m : Medium) : (ofMedium m).hasSession = m.hasSession := by
  simp only [hasSession, read, ofMedium, Bool.false_eq_true, if_false]
  rfl

theorem persist_ofMedium (m : Medium) (session : Session) :
    (ofMedium m).persist session =
      (ofMedium (m.persist session).1, (m.persist session).2) := by
  simp only [persist, ofMedium, Bool.false_eq_true, if_false]

theorem took_of_persist {s : Store} {session : Session} (h : (s.persist session).2 = .ok ()) :
    ∃ items, (s.persist session).1.medium.load = .ok items ∧
      (s.medium.load.toOption.getD .empty).Took session items := by
  unfold Store.persist at h ⊢
  split at h
  · cases h
  · next hworks =>
    rw [if_neg hworks]
    exact Medium.took_of_persist h

theorem untouched_of_persist_error {s : Store} {session : Session} {fault : StoreFault}
    (h : (s.persist session).2 = .error fault) : s.Untouched (s.persist session).1 := by
  unfold Store.persist at h ⊢
  split at h
  · next hfails =>
    rw [if_pos hfails]
    exact .refl s
  · next hworks =>
    rw [if_neg hworks]
    exact ⟨_, rfl, Medium.untouched_of_persist_error h⟩

theorem found_of_persist_error {s : Store} {session : Session} {fault : StoreFault}
    (h : (s.persist session).2 = .error fault) :
    (s.persist session).1.medium.found = s.medium.found := by
  unfold Store.persist at h ⊢
  split at h
  · next hfails => rw [if_pos hfails]
  · next hworks =>
    rw [if_neg hworks]
    exact Medium.found_of_persist_error h

end Store

end TicketLogin
