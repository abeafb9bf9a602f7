import TicketLogin.Proofs.Disk
import TicketLogin.Proofs.Json.Record
import TicketLogin.Proofs.Session.Items
import TicketLogin.Session.Store

/-!
# A file as good as memory

Items that are written read back, so a file that could be written once holds what was saved last and
can be written again. What a medium holds therefore changes by saving and clearing in the same way,
be it in memory or in a file.
-/

namespace TicketLogin

theorem Items.textFields?_texts (fields : List (String × String)) :
    textFields? (fields.map fun f => (f.1, .text f.2)) = some fields := by
  induction fields with
  | nil => rfl
  | cons f fields ih =>
    rw [List.map_cons, textFields?, ih]
    rfl

theorem Items.parse?_text (items : Items) : parse? items.text = some items := by
  have hparse := Json.Value.parse_indented items.entries
  simp only [parse?, text, hparse, textFields?_texts, Option.map_some, ofFields_entries]

namespace SessionFile

def Writable (f : SessionFile) : Prop := ∀ items, (f.save items).2 = .ok ()

theorem save_eq {f : SessionFile} {disk : Disk} {p : Place}
    (hfolder : f.disk.makeFolders f.folder = (disk, .ok ())) (hp : disk.Accepts f.path p)
    (items : Items) :
    f.save items =
      ({ f with disk := disk.put p (.file (Utf8.encode items.text) Disk.privateMode) }, .ok ()) := by
  rw [save, hfolder]
  simp only [hp.replaceFile]

theorem exists_of_save {f : SessionFile} {items : Items} (h : (f.save items).2 = .ok ()) :
    ∃ disk p, f.disk.makeFolders f.folder = (disk, .ok ()) ∧ disk.Accepts f.path p := by
  unfold save at h
  split at h
  · cases h
  · next disk hfolder =>
    split at h
    · cases h
    · next disk' hreplace =>
      obtain ⟨p, hp⟩ := Disk.accepts_of_replaceFile hreplace
      exact ⟨disk, p, hfolder, hp⟩

theorem writable_of_save {f : SessionFile} {items : Items} (h : (f.save items).2 = .ok ()) :
    f.Writable := by
  obtain ⟨disk, p, hfolder, hp⟩ := exists_of_save h
  intro others
  rw [save_eq hfolder hp]

theorem load_put {path : String} {disk : Disk} {p : Place} (hp : disk.Accepts path p)
    (items : Items) (mode : Nat) :
    load ⟨path, disk.put p (.file (Utf8.encode items.text) mode)⟩ = .ok items := by
  have hread : (disk.put p (.file (Utf8.encode items.text) mode)).readText path = .ok items.text := by
    simp only [Disk.readText, hp.readBytes_put, bind, Except.bind, Utf8.decode?_encode]
    rfl
  simp only [load, hp.isThere_put, if_true, hread, Items.parse?_text]

/-- What a save leaves: the folder is there now, and the file stands where one could be written. -/
structure Saved (f : SessionFile) (items : Items) (disk : Disk) (p : Place) : Prop where
  save : f.save items = ({ f with disk }, .ok ())
  folder : disk.HasFolder (Disk.steps f.folder)
  accepts : disk.Accepts f.path p
  load : load ⟨f.path, disk⟩ = .ok items

theorem Writable.saved {f : SessionFile} (h : f.Writable) (items : Items) :
    ∃ disk p, f.Saved items disk p := by
  obtain ⟨disk, p, hfolder, hp⟩ := exists_of_save (h items)
  refine ⟨disk.put p (.file (Utf8.encode items.text) Disk.privateMode), p, ?_, ?_, ?_, ?_⟩
  · exact save_eq hfolder hp items
  · exact (Disk.hasFolder_of_makeFolders hfolder).put hp.2 _
  · exact hp.put _ _
  · exact load_put hp items Disk.privateMode

theorem Writable.save {f : SessionFile} (h : f.Writable) (items : Items) :
    ∃ f', f.save items = (f', .ok ()) ∧ f'.load = .ok items ∧ f'.Writable := by
  obtain ⟨disk, p, hsaved⟩ := h.saved items
  refine ⟨⟨f.path, disk⟩, hsaved.save, hsaved.load, fun others => ?_⟩
  rw [save_eq (f := ⟨f.path, disk⟩) hsaved.folder.makeFolders hsaved.accepts]

end SessionFile

namespace Medium

/-- The medium holds just these items and lets itself be written. -/
def Holds (items : Items) : Medium → Prop
  | .memory held => held = items
  | .file f => f.load = .ok items ∧ f.Writable

theorem Holds.load {items : Items} {m : Medium} (h : m.Holds items) : m.load = .ok items := by
  cases m with
  | memory held => exact congrArg Except.ok h
  | file f => exact h.1

theorem Holds.save {items : Items} {m : Medium} (h : m.Holds items) (others : Items) :
    ∃ m', m.save others = (m', .ok ()) ∧ m'.Holds others := by
  cases m with
  | memory held => exact ⟨.memory others, rfl, rfl⟩
  | file f =>
    obtain ⟨f', hsave, hholds⟩ := SessionFile.Writable.save h.2 others
    refine ⟨.file f', ?_, hholds⟩
    rw [Medium.save, hsave]

theorem Holds.persist {items : Items} {m : Medium} (h : m.Holds items) (s : Session) :
    ∃ m', m.persist s = (m', .ok ()) ∧ m'.Holds (items.putSession s) := by
  rw [Medium.persist, h.load]
  exact h.save (items.putSession s)

theorem Holds.clear {items : Items} {m : Medium} (h : m.Holds items) :
    ∃ m', m.clear = (m', .ok items.authorization?.isSome) ∧
      m'.Holds (if items.hasSessionItem then items.dropSession else items) := by
  simp only [Medium.clear, h.load]
  cases items.hasSessionItem with
  | true =>
    obtain ⟨m', hsave, hholds⟩ := h.save items.dropSession
    refine ⟨m', ?_, hholds⟩
    simp only [if_true, hsave]
    rfl
  | false => exact ⟨m, rfl, h⟩

/-- Nothing has been stored yet, in memory or in a file that can be made. -/
def Blank : Medium → Prop
  | .memory items => items = .empty
  | .file f => f.disk.isThere f.path = false ∧ f.Writable

theorem Blank.holds {m : Medium} (h : m.Blank) : m.Holds .empty := by
  cases m with
  | memory items => exact h
  | file f =>
    refine ⟨?_, h.2⟩
    rw [SessionFile.load, h.1]
    rfl

end Medium

end TicketLogin
