import Mathlib.Control.Monad.Basic
import Mathlib.Data.Fintype.EquivFin
import TicketLogin.Proofs.Path
import TicketLogin.Proofs.Session.HomeFolder
import TicketLogin.Proofs.Session.Refinement
import TicketLogin.Session.Writing

/-!
# A failure leaves the files as they were

Whichever stage of writing a file fails, every file stays as it was and only folders may have come.
Beside them there is at most the temporary file that the report of a failed move holds, and it goes
with the report. An attempt at which nothing goes wrong does in its stages what saving and clearing
do at once, so what holds of every attempt holds of them.
-/

namespace TicketLogin

namespace Disk

theorem get?_remove {d : Disk} {p q : Place} (h : q ≠ p) : (d.remove p).get? q = d.get? q := by
  simp only [get?, remove, lookup_filter h]

theorem remove_put (d : Disk) (p : Place) (e : Entry) : (d.put p e).remove p = d.remove p := by
  simp only [remove, put, List.filter_append, List.filter_filter]
  simp

theorem put_put (d : Disk) (p : Place) (e e' : Entry) : (d.put p e).put p e' = d.put p e' := by
  have hremove := congrArg Disk.entries (d.remove_put p e)
  simp only [remove] at hremove
  rw [put, hremove, ← put]

theorem remove_of_none {d : Disk} {p : Place} (h : d.get? p = none) : d.remove p = d := by
  have hp := ne_nil_of_get? (ne_folder_of_none h)
  rw [get?, if_neg hp, List.lookup_eq_none_iff] at h
  rw [remove, List.filter_eq_self.2]
  intro x hx
  have hne : p ≠ x.1 := bne_iff_ne.1 (h x hx)
  exact decide_eq_true hne.symm

theorem remove_restrict (d : Disk) (p : Place) (mode : Nat) :
    (d.restrict p mode).remove p = d.remove p := by
  rw [restrict]
  split
  · exact d.remove_put p _
  · rfl

end Disk

namespace Attempt

variable (a : Attempt) (temporary : Place) (bytes : List UInt8)

theorem remove_touch (d : Disk) (stage : Stage) :
    (a.touch temporary bytes d stage).remove temporary = d.remove temporary := by
  cases stage with
  | restrict =>
    rw [touch]
    split
    · rfl
    · exact d.remove_restrict temporary _
  | write => exact d.remove_put temporary _
  | _ => rfl

/-- However far the stages get, what they change is the temporary file. -/
theorem remove_go (d : Disk) (stages : List Stage) :
    (a.go temporary bytes d stages).1.remove temporary = d.remove temporary := by
  induction stages generalizing d with
  | nil => rfl
  | cons stage rest ih =>
    rw [go]
    split
    · exact a.remove_touch temporary bytes d stage
    · rw [ih]
      exact a.remove_touch temporary bytes d stage

end Attempt

/-! ## What a report leaves -/

/-- It is the last stage that has failed. -/
inductive SessionFile.Unmoved (f : SessionFile) : StoreFault → Prop
  | outOfOrder : f.Unmoved (f.outOfOrder .move)
  | refused (cause : SystemFault) : f.Unmoved (.noReplacement f.path cause)

/-- An attempt has failed with this report and spared the files: all are there as they were, and no
other is but the one that the report of a failed move holds. When the report is dropped, that one is
gone as well. -/
structure Attempt.Report.Spares (r : Attempt.Report) (f after : SessionFile) : Prop where
  kept : ∀ p bytes mode, f.disk.get? p = some (.file bytes mode) →
    after.disk.get? p = some (.file bytes mode)
  others : ∀ p bytes mode, after.disk.get? p = some (.file bytes mode) →
    f.disk.get? p = some (.file bytes mode) ∨ r.held = some p
  held : r.held ≠ none → f.Unmoved r.fault
  dropped : (Medium.file f).Untouched (.file { after with disk := r.drop after.disk })

namespace SessionFile

variable {f : SessionFile} {a : Attempt} {r : Attempt.Report}

theorem spares_of_sameFiles {disk : Disk} (h : f.disk.SameFiles disk) (fault : StoreFault) :
    Attempt.Report.Spares ⟨fault, none⟩ f { f with disk } where
  kept p bytes mode hfile := (h p bytes mode).2 hfile
  others p bytes mode hfile := .inl ((h p bytes mode).1 hfile)
  held hheld := absurd rfl hheld
  dropped := ⟨disk, rfl, h⟩

theorem spares_of_held {made after : Disk} {temporary : Place} {fault : StoreFault}
    (hfiles : f.disk.SameFiles made) (hfree : made.get? temporary = none)
    (hafter : after.remove temporary = made) (hfault : f.Unmoved fault) :
    Attempt.Report.Spares ⟨fault, some temporary⟩ f { f with disk := after } := by
  have hget (p : Place) (hp : p ≠ temporary) : after.get? p = made.get? p := by
    rw [← hafter, Disk.get?_remove hp]
  refine ⟨?_, ?_, fun _ => hfault, made, ?_, hfiles⟩
  · intro p bytes mode hfile
    have hmade := (hfiles p bytes mode).2 hfile
    have hp : p ≠ temporary := by
      rintro rfl
      rw [hfree] at hmade
      cases hmade
    exact (hget p hp).trans hmade
  · intro p bytes mode hfile
    by_cases hp : p = temporary
    · exact .inr (congrArg some hp.symm)
    · exact .inl ((hfiles p bytes mode).1 ((hget p hp).symm.trans hfile))
  · exact congrArg (fun disk => Medium.file { f with disk }) hafter

/-- Before the move the temporary file is removed at once; a failed move leaves it to the report. -/
theorem replaceBy_error {temporary : Place} {bytes : List UInt8} {d : Disk}
    (h : (f.replaceBy a temporary bytes d).2 = .error r) :
    (r.held = none ∧ (f.replaceBy a temporary bytes d).1 = d.remove temporary) ∨
    (r.held = some temporary ∧ f.Unmoved r.fault ∧
      (f.replaceBy a temporary bytes d).1.remove temporary = d.remove temporary) := by
  have hgo := a.remove_go temporary bytes d [.restrict, .write, .flush]
  unfold replaceBy at h ⊢
  split
  · next disk stage heq =>
    rw [heq] at hgo h
    obtain rfl := Except.error.inj h
    exact .inl ⟨rfl, hgo⟩
  · next disk heq =>
    rw [heq] at hgo h
    dsimp only at h
    refine .inr ?_
    split
    · next hfails =>
      rw [if_pos hfails] at h
      obtain rfl := Except.error.inj h
      exact ⟨rfl, .outOfOrder, hgo⟩
    · next hmoves =>
      rw [if_neg hmoves] at h
      split
      · next cause hmove =>
        rw [hmove] at h
        obtain rfl := Except.error.inj h
        exact ⟨rfl, .refused cause, hgo⟩
      · next hmove =>
        rw [hmove] at h
        cases h

theorem makeFolderBy_sameFiles (f : SessionFile) (a : Attempt) :
    f.disk.SameFiles (f.makeFolderBy a).1 := by
  unfold makeFolderBy
  split
  · exact f.disk.sameFiles_makeFoldersUp _
  · have hmade := f.disk.sameFiles_makeFolders f.folder
    generalize f.disk.makeFolders f.folder = made at hmade ⊢
    exact hmade

theorem get?_temporary {d : Disk} {temporary : Place} (h : f.temporary? a d = some temporary) :
    d.get? temporary = none := by
  unfold temporary? at h
  split at h
  · cases h
  · obtain ⟨hfree, hplace⟩ := Option.ite_none_left_eq_some.1 h
    rw [not_or, Option.not_isSome_iff_eq_none, Option.some.inj hplace] at hfree
    exact hfree.2

theorem spares_saveBy {items : Items} (h : (f.saveBy a items).2 = .error r) :
    r.Spares f (f.saveBy a items).1 := by
  have hfolder := f.makeFolderBy_sameFiles a
  unfold saveBy at h ⊢
  cases hmake : f.makeFolderBy a with
  | mk made result =>
    rw [hmake] at hfolder h
    cases result with
    | error fault =>
      obtain rfl := Except.error.inj h
      exact spares_of_sameFiles hfolder fault
    | ok =>
      dsimp only at h hfolder ⊢
      cases htemporary : f.temporary? a made with
      | none =>
        rw [htemporary] at h
        obtain rfl := Except.error.inj h
        exact spares_of_sameFiles hfolder _
      | some temporary =>
        rw [htemporary] at h
        dsimp only at h ⊢
        have hfree := get?_temporary htemporary
        -- without the temporary file the disk is the one on which its folder was made
        have hback : (made.put temporary (.file [] Disk.privateMode)).remove temporary = made := by
          rw [Disk.remove_put, Disk.remove_of_none hfree]
        have herror := replaceBy_error h
        rw [hback] at herror
        generalize f.replaceBy a temporary _ _ = replaced at h herror ⊢
        obtain ⟨fault, held⟩ := r
        obtain ⟨hheld, hafter⟩ | ⟨hheld, hunmoved, hafter⟩ := herror
        · obtain rfl : held = none := hheld
          rw [hafter]
          exact spares_of_sameFiles hfolder fault
        · obtain rfl : held = some temporary := hheld
          exact spares_of_held hfolder hfree hafter hunmoved

theorem spares_clearBy (h : (f.clearBy a).2 = .error r) : r.Spares f (f.clearBy a).1 := by
  unfold clearBy at h ⊢
  split
  · next fault hload =>
    rw [hload] at h
    obtain rfl := Except.error.inj h
    exact spares_of_sameFiles (.refl f.disk) fault
  · next items hload =>
    rw [hload] at h
    dsimp only at h
    split
    · next hitem =>
      rw [if_pos hitem] at h
      cases hsave : (f.saveBy a items.dropSession).2 with
      | error r' =>
        simp only [hsave] at h
        obtain rfl := Except.error.inj h
        exact spares_saveBy hsave
      | ok =>
        simp only [hsave] at h
        cases h
    · next hitem =>
      rw [if_neg hitem] at h
      cases h

theorem clearBy_of_holds_none {items : Items} (hload : f.load = .ok items)
    (hnone : items.Holds none) (a : Attempt) :
    f.clearBy a = (f, if a.fails .load then .error ⟨f.outOfOrder .load, none⟩ else .ok false) := by
  rw [clearBy, loadBy, hload]
  cases a.fails .load with
  | true => rfl
  | false =>
    simp only [Bool.false_eq_true, if_false, items.holds_none_iff.1 hnone,
      Items.authorization?_of_holds_none hnone]
    rfl

end SessionFile

/-! ## Attempts at which nothing goes wrong -/

/-- Nothing goes wrong, and the name drawn for the temporary file is not in use, nor a name in the
path of the file. -/
structure Attempt.Smooth (a : Attempt) (f : SessionFile) : Prop where
  works : ∀ stage, a.fails stage = false
  fresh : ∀ folder, (f.disk.makeFolders f.folder).1.locate f.folder = .ok folder →
    (f.disk.makeFolders f.folder).1.get? (folder ++ [a.name]) = none
  apart : a.name ∉ Disk.steps f.path

theorem Attempt.exists_smooth (f : SessionFile) : ∃ a : Attempt, a.Smooth f := by
  generalize hdisk : (f.disk.makeFolders f.folder).1 = disk
  let used := (disk.entries.filterMap fun x => x.1.getLast?).toFinset
  obtain ⟨name, hname⟩ := Infinite.exists_notMem_finset (used ∪ (Disk.steps f.path).toFinset)
  rw [Finset.mem_union, not_or, List.mem_toFinset, List.mem_toFinset] at hname
  refine ⟨⟨fun _ => false, 0, 0, name⟩, fun _ => rfl, fun folder _ => ?_, hname.2⟩
  rw [hdisk, Disk.get?, if_neg (by simp), List.lookup_eq_none_iff]
  intro x hx
  refine bne_iff_ne.2 fun heq => hname.1 ?_
  rw [List.mem_filterMap]
  exact ⟨x, hx, by rw [← heq, List.getLast?_concat]⟩

namespace Disk

theorem mem_of_walk {d : Disk} {start q : Place} {names : List String}
    (h : d.walk start names = .ok q) {x : String} (hx : x ∈ q) : x ∈ start ∨ x ∈ names := by
  induction names generalizing start with
  | nil =>
    rw [walk, Except.ok.injEq] at h
    exact .inl (h ▸ hx)
  | cons name names ih =>
    obtain hstart | hnames := ih (walk_cons_eq_ok_iff.1 h).2
    · split at hstart
      · exact .inl (List.mem_of_mem_dropLast hstart)
      · obtain hstart | hname := List.mem_append.1 hstart
        · exact .inl hstart
        · exact .inr (List.mem_cons.2 (.inl (List.mem_singleton.1 hname)))
    · exact .inr (List.mem_cons_of_mem _ hnames)

theorem HasFolder.walk {d : Disk} {path : String} (h : d.HasFolder (steps (parent path))) :
    ∃ p, d.walk [] (steps path) = .ok p := by
  obtain hroot | ⟨name, hsteps⟩ := steps_eq_nil_or_concat path
  · exact ⟨[], by rw [hroot, Disk.walk]⟩
  · obtain ⟨q, hwalk, hfolder⟩ := h
    rw [hsteps, walk_append, hwalk]
    exact ⟨_, walk_cons_eq_ok_iff.2 ⟨hfolder, by rw [Disk.walk]⟩⟩

theorem seat_congr {d d' : Disk} {path : String} {p : Place} (h : d.walk [] (steps path) = .ok p)
    (h' : d'.walk [] (steps path) = .ok p) (hget : d'.get? p = d.get? p)
    (slashes dots : SystemFault) : d'.seat path slashes dots = d.seat path slashes dots := by
  simp only [seat, h, h', bind, Except.bind, enter, avoid, hget]

/-- Moving a new file is putting it where the path leads. -/
theorem moveFile_put {d : Disk} {temporary p : Place} {path : String} {bytes : List UInt8}
    {mode : Nat} (hfree : d.get? temporary = none) (hwalk : d.walk [] (steps path) = .ok p)
    (hp : p ≠ temporary) :
    (d.put temporary (.file bytes mode)).moveFile temporary path =
      d.replaceFile path bytes mode := by
  have hnone := ne_folder_of_none hfree
  have hget (q : Place) : (d.put temporary (.file bytes mode)).get? q =
      if q = temporary then some (.file bytes mode) else d.get? q :=
    get?_put (ne_nil_of_get? hnone) _ q
  have hthere : (d.put temporary (.file bytes mode)).get? p = d.get? p := by
    rw [hget, if_neg hp]
  rw [moveFile, replaceFile, seat_congr hwalk (walk_put hnone _ hwalk) hthere]
  cases d.seat path .notFolder .busy with
  | error fault => rfl
  | ok target =>
    simp only [bind, Except.bind, hget, if_true, remove_put, remove_of_none hfree]

end Disk

namespace SessionFile

variable {f : SessionFile} {a : Attempt} {r : Attempt.Report}

theorem settle_map {α β : Type} (g : α → β) (left : SessionFile × Except Attempt.Report α) :
    settle (left.1, left.2.map g) = ((settle left).1, (settle left).2.map g) := by
  obtain ⟨f, r | x⟩ := left <;> rfl

theorem go_of_works (h : ∀ stage, a.fails stage = false) (temporary : Place)
    (bytes : List UInt8) (d : Disk) :
    a.go temporary bytes (d.put temporary (.file [] Disk.privateMode))
        [.restrict, .write, .flush] =
      (d.put temporary (.file bytes Disk.privateMode), none) := by
  have hput : ((d.put temporary (.file [] Disk.privateMode)).restrict temporary
      Disk.privateMode).put temporary (.file bytes Disk.privateMode) =
      d.put temporary (.file bytes Disk.privateMode) := by
    rw [Disk.restrict]
    split <;> simp only [Disk.put_put]
  simp only [Attempt.go, Attempt.touch, h, Bool.false_eq_true, if_false, hput]

theorem settle_saveBy (h : a.Smooth f) (items : Items) :
    settle (f.saveBy a items) = f.save items := by
  have hfresh := h.fresh
  unfold saveBy save makeFolderBy
  rw [if_neg (by rw [h.works]; exact Bool.false_ne_true)]
  cases hmake : f.disk.makeFolders f.folder with
  | mk disk made =>
    rw [hmake] at hfresh
    cases made with
    | error cause => rfl
    | ok =>
      have hfolder := Disk.hasFolder_of_makeFolders hmake
      obtain ⟨folder, hwalk, hthere⟩ := id hfolder
      have hlocate : disk.locate f.folder = .ok folder :=
        Disk.locate_eq_ok_iff.2 ⟨hwalk, fun _ => hthere⟩
      have hfree : disk.get? (folder ++ [a.name]) = none := hfresh folder hlocate
      have htemporary : f.temporary? a disk = some (folder ++ [a.name]) := by
        simp only [temporary?, hlocate, h.works, hfree, Bool.false_eq_true, Option.isSome_none,
          or_self, if_false]
      obtain ⟨p, hpath⟩ := Disk.HasFolder.walk (f.steps_folder ▸ hfolder)
      have hp : p ≠ folder ++ [a.name] := by
        rintro rfl
        obtain hstart | hstep := Disk.mem_of_walk hpath (List.mem_concat_self)
        · cases hstart
        · exact h.apart hstep
      simp only [Except.mapError, htemporary, replaceBy, go_of_works h.works, h.works,
        Bool.false_eq_true, if_false, Disk.moveFile_put hfree hpath hp]
      cases disk.replaceFile f.path (Utf8.encode items.text) Disk.privateMode with
      | error cause =>
        simp only [settle, Attempt.Report.drop, Disk.remove_put, Disk.remove_of_none hfree]
      | ok disk => rfl

theorem loadBy_of_smooth (h : a.Smooth f) : f.loadBy a = f.load := by
  rw [loadBy, h.works, if_neg Bool.false_ne_true]

theorem persist_of_smooth (h : a.Smooth f) (s : Session) :
    (Medium.file f).persist s =
      (.file (settle (f.persistBy a s)).1, (settle (f.persistBy a s)).2) := by
  rw [persistBy, loadBy_of_smooth h, settle_saveBy h, Medium.persist_eq, Medium.save_file,
    Medium.load]

theorem clear_of_smooth (h : a.Smooth f) :
    (Medium.file f).clear = (.file (settle (f.clearBy a)).1, (settle (f.clearBy a)).2) := by
  rw [clearBy, loadBy_of_smooth h]
  cases hload : f.load with
  | error fault => rw [Medium.clear, Medium.load, hload]; rfl
  | ok items =>
    rw [Medium.clear_of_load (m := .file f) hload, Medium.save_file]
    dsimp only
    split
    · rw [settle_map, settle_saveBy h]
    · rfl

/-- A file in which items were found can be replaced. -/
theorem writable_of_load {items : Items} (hload : f.load = .ok items)
    (hitem : items.hasSessionItem = true) : f.Writable := by
  have hthere : f.disk.isThere f.path = true := by
    by_contra hmissing
    rw [load, if_neg hmissing] at hload
    obtain rfl := Except.ok.inj hload
    cases hitem
  exact (keeps_of_isThere hthere hload).writable

theorem clearBy_error_of_smooth (h : a.Smooth f) (herror : (f.clearBy a).2 = .error r) :
    (f.clearBy a).1 = f ∧ r.held = none := by
  unfold clearBy at herror ⊢
  rw [loadBy_of_smooth h] at herror ⊢
  cases hload : f.load with
  | error fault =>
    rw [hload] at herror
    obtain rfl := Except.error.inj herror
    exact ⟨rfl, rfl⟩
  | ok items =>
    rw [hload] at herror
    dsimp only at herror
    cases hitem : items.hasSessionItem with
    | false =>
      rw [hitem] at herror
      cases herror
    | true =>
      have hsaved : (settle (f.saveBy a items.dropSession)).2 = .ok () := by
        rw [settle_saveBy h]
        exact writable_of_load hload hitem items.dropSession
      rw [if_pos hitem] at herror
      generalize f.saveBy a items.dropSession = left at herror hsaved
      obtain ⟨after, report | saved⟩ := left
      · cases hsaved
      · cases herror

theorem clear_of_error (h : a.Smooth f) {fault : StoreFault}
    (herror : (Medium.file f).clear.2 = .error fault) : (Medium.file f).clear.1 = .file f := by
  rw [clear_of_smooth h] at herror ⊢
  cases hclear : f.clearBy a with
  | mk after result =>
    rw [hclear] at herror
    cases result with
    | ok had => cases herror
    | error r =>
      obtain ⟨hafter, hheld⟩ := clearBy_error_of_smooth h (congrArg Prod.snd hclear)
      rw [hclear] at hafter
      obtain rfl : after = f := hafter
      simp only [settle, Attempt.Report.drop, hheld]

/-! ## Every attempt -/

/-- A folder in the place of the file, beside a file of somebody else. -/
def takenPlace : SessionFile :=
  ⟨"<TMP>/state",
    ⟨[(["state"], .folder), (["state.json"], .file [0x7B, 0x7D] Disk.openMode)]⟩⟩

def barredSession : Session := ⟨"Bearer T", "T", .blank⟩

def outOfSpace : Attempt := ⟨(· = .write), 0, 1, ".tmp5xQ0aB"⟩

/-- An attempt at which nothing goes wrong but that a folder is in the way. -/
def barredMove : Attempt := { outOfSpace with fails := fun _ => false }

end SessionFile

end TicketLogin
