import TicketLogin.Disk

/-!
# What a change to the disk leaves alone

A path leads through folders, so whatever changes in a place that holds no folder leaves every path
as it was. Hence a folder that was made can be made again, and a file that was replaced can be
replaced again, with nothing else changed.
-/

namespace TicketLogin.Disk

theorem lookup_filter {entries : List (Place × Entry)} {p q : Place} (h : q ≠ p) :
    (entries.filter fun x => x.1 ≠ p).lookup q = entries.lookup q := by
  induction entries with
  | nil => rfl
  | cons x entries ih =>
    obtain ⟨place, e⟩ := x
    by_cases hx : place = p
    · have hq : (q == place) = false := beq_false_of_ne (hx ▸ h)
      rw [List.filter_cons_of_neg (by simpa using hx), ih, List.lookup_cons, hq]
    · rw [List.filter_cons_of_pos (by simpa using hx), List.lookup_cons, List.lookup_cons, ih]

theorem lookup_filter_self (entries : List (Place × Entry)) (p : Place) :
    (entries.filter fun x => x.1 ≠ p).lookup p = none := by
  rw [List.lookup_eq_none_iff]
  intro x hx
  have hne : x.1 ≠ p := of_decide_eq_true (List.mem_filter.1 hx).2
  exact bne_iff_ne.2 hne.symm

theorem get?_put {d : Disk} {p : Place} (hp : p ≠ []) (e : Entry) (q : Place) :
    (d.put p e).get? q = if q = p then some e else d.get? q := by
  simp only [get?, put, List.lookup_append]
  by_cases hq : q = p
  · subst hq
    rw [lookup_filter_self, if_neg hp, if_pos rfl]
    simp
  · rw [lookup_filter hq, if_neg hq]
    have hself : (q == p) = false := beq_false_of_ne hq
    simp [List.lookup_cons, hself]

theorem ne_nil_of_get? {d : Disk} {p : Place} (h : d.get? p ≠ some .folder) : p ≠ [] := by
  rintro rfl
  exact h rfl

theorem ne_folder_of_none {d : Disk} {p : Place} (h : d.get? p = none) :
    d.get? p ≠ some .folder := by
  rw [h]
  exact (Option.some_ne_none _).symm

/-- The second disk is the first one but for what is in this place. -/
def SameBut (p : Place) (d d' : Disk) : Prop := ∀ q, q ≠ p → d'.get? q = d.get? q

theorem sameBut_put (d : Disk) {p : Place} (hp : p ≠ []) (e : Entry) : SameBut p d (d.put p e) := by
  intro q hq
  rw [get?_put hp, if_neg hq]

theorem enter_eq_ok_iff {d : Disk} {p q : Place} :
    d.enter p = .ok q ↔ d.get? p = some .folder ∧ p = q := by
  unfold enter
  cases d.get? p with
  | none => simp
  | some e => cases e <;> simp

theorem avoid_eq_ok_iff {d : Disk} {p q : Place} :
    d.avoid p = .ok q ↔ d.get? p ≠ some .folder ∧ p = q := by
  unfold avoid
  cases d.get? p with
  | none => simp
  | some e => cases e <;> simp

theorem walk_cons_eq_ok_iff {d : Disk} {start q : Place} {name : String} {names : List String} :
    d.walk start (name :: names) = .ok q ↔ d.get? start = some .folder ∧
      d.walk (if name = ".." then start.dropLast else start ++ [name]) names = .ok q := by
  rw [walk]
  cases henter : d.enter start with
  | error fault =>
    have hno : d.get? start ≠ some .folder := by
      intro hfolder
      rw [enter_eq_ok_iff.2 ⟨hfolder, rfl⟩] at henter
      cases henter
    simp [hno]
  | ok p =>
    obtain ⟨hfolder, rfl⟩ := enter_eq_ok_iff.1 henter
    simp [hfolder]

/-- A path that does not end in a name has to lead to a folder. -/
theorem locate_eq_ok_iff {d : Disk} {path : String} {p : Place} :
    d.locate path = .ok p ↔
      d.walk [] (steps path) = .ok p ∧ (ending path ≠ .name → d.get? p = some .folder) := by
  rw [locate]
  cases hwalk : d.walk [] (steps path) with
  | error fault => exact ⟨nofun, fun h => nomatch h.1⟩
  | ok q =>
    simp only [bind, Except.bind, Except.ok.injEq]
    cases ending path with
    | name =>
      exact ⟨fun h => ⟨Except.ok.inj h, fun hne => absurd rfl hne⟩, fun h => congrArg _ h.1⟩
    | slashes | dots =>
      simp only [enter_eq_ok_iff, ne_eq, reduceCtorEq, not_false_eq_true, true_implies]
      exact ⟨fun ⟨h, heq⟩ => ⟨heq, heq ▸ h⟩, fun ⟨heq, h⟩ => ⟨heq ▸ h, heq⟩⟩

/-- No file is found under its name with a slash behind. -/
example : (⟨[(["a"], .file [] openMode)]⟩ : Disk).isThere "a/" = false := by decide +kernel

theorem SameBut.walk {d d' : Disk} {p : Place} (h : SameBut p d d') (hp : d.get? p ≠ some .folder)
    {start q : Place} {names : List String} (hwalk : d.walk start names = .ok q) :
    d'.walk start names = .ok q := by
  induction names generalizing start with
  | nil => exact hwalk
  | cons name names ih =>
    obtain ⟨hfolder, hrest⟩ := walk_cons_eq_ok_iff.1 hwalk
    -- the walk passes folders only, so it never meets the place that changes
    have hne : start ≠ p := by
      rintro rfl
      exact hp hfolder
    exact walk_cons_eq_ok_iff.2 ⟨(h start hne).trans hfolder, ih hrest⟩

theorem SameBut.locate {d d' : Disk} {p : Place} (h : SameBut p d d') (hp : d.get? p ≠ some .folder)
    {path : String} {q : Place} (hlocate : d.locate path = .ok q) : d'.locate path = .ok q := by
  obtain ⟨hwalk, hfolder⟩ := locate_eq_ok_iff.1 hlocate
  refine locate_eq_ok_iff.2 ⟨h.walk hp hwalk, fun hending => ?_⟩
  have hne : q ≠ p := by
    rintro rfl
    exact hp (hfolder hending)
  exact (h q hne).trans (hfolder hending)

theorem walk_put {d : Disk} {p : Place} (hp : d.get? p ≠ some .folder) (e : Entry) {start q : Place}
    {names : List String} (h : d.walk start names = .ok q) :
    (d.put p e).walk start names = .ok q :=
  (d.sameBut_put (ne_nil_of_get? hp) e).walk hp h

def HasFolder (d : Disk) (names : List String) : Prop :=
  ∃ p, d.walk [] names = .ok p ∧ d.get? p = some .folder

theorem HasFolder.makeFolder {d : Disk} {names : List String} (h : d.HasFolder names) :
    d.makeFolder names = .ok d := by
  obtain ⟨p, hwalk, hfolder⟩ := h
  simp only [Disk.makeFolder, hwalk, hfolder]

theorem SameBut.hasFolder {d d' : Disk} {p : Place} (h : SameBut p d d')
    (hp : d.get? p ≠ some .folder) {names : List String} (hfolder : d.HasFolder names) :
    d'.HasFolder names := by
  obtain ⟨q, hwalk, hq⟩ := hfolder
  refine ⟨q, h.walk hp hwalk, ?_⟩
  have hne : q ≠ p := by
    rintro rfl
    exact hp hq
  rw [h q hne, hq]

theorem HasFolder.put {d : Disk} {names : List String} (h : d.HasFolder names) {p : Place}
    (hp : d.get? p ≠ some .folder) (e : Entry) : (d.put p e).HasFolder names :=
  (d.sameBut_put (ne_nil_of_get? hp) e).hasFolder hp h

theorem hasFolder_of_makeFolder {d d' : Disk} {names : List String}
    (h : d.makeFolder names = .ok d') : d'.HasFolder names := by
  unfold makeFolder at h
  split at h
  · cases h
  · next p hwalk =>
    split at h
    · next hfolder =>
      cases h
      exact ⟨p, hwalk, hfolder⟩
    · cases h
    · next hnone =>
      cases h
      have hp := ne_folder_of_none hnone
      refine ⟨p, walk_put hp .folder hwalk, ?_⟩
      rw [get?_put (ne_nil_of_get? hp), if_pos rfl]

theorem hasFolder_of_makeFoldersUp {d d' : Disk} {names : List String}
    (h : d.makeFoldersUp names = (d', .ok ())) : d'.HasFolder names.reverse := by
  cases names with
  | nil => exact ⟨[], rfl, rfl⟩
  | cons name above =>
    rw [makeFoldersUp] at h
    split at h
    · next hmade =>
      cases h
      exact hasFolder_of_makeFolder hmade
    · split at h
      · cases h
      · split at h
        · next hmade =>
          cases h
          exact hasFolder_of_makeFolder hmade
        · cases h
    · cases h

theorem HasFolder.makeFoldersUp {d : Disk} {names : List String} (h : d.HasFolder names.reverse) :
    d.makeFoldersUp names = (d, .ok ()) := by
  cases names with
  | nil => rfl
  | cons name above => rw [Disk.makeFoldersUp, h.makeFolder]

theorem hasFolder_of_makeFolders {d d' : Disk} {path : String}
    (h : d.makeFolders path = (d', .ok ())) : d'.HasFolder (steps path) := by
  have hup := hasFolder_of_makeFoldersUp h
  rwa [List.reverse_reverse] at hup

theorem HasFolder.makeFolders {d : Disk} {path : String} (h : d.HasFolder (steps path)) :
    d.makeFolders path = (d, .ok ()) := by
  rw [← (steps path).reverse_reverse] at h
  exact h.makeFoldersUp

def Accepts (d : Disk) (path : String) (p : Place) : Prop :=
  d.locate path = .ok p ∧ d.get? p ≠ some .folder

theorem seat_eq_ok_iff {d : Disk} {path : String} {slashes dots : SystemFault} {p : Place} :
    d.seat path slashes dots = .ok p ↔ d.Accepts path p := by
  rw [Accepts, locate_eq_ok_iff, seat]
  cases hwalk : d.walk [] (steps path) with
  | error fault => exact ⟨nofun, fun h => nomatch h.1.1⟩
  | ok q =>
    simp only [bind, Except.bind, Except.ok.injEq]
    cases ending path with
    | slashes =>
      refine ⟨nofun, fun ⟨⟨_, hfolder⟩, hno⟩ => absurd (hfolder ?_) hno⟩
      exact Ending.noConfusion
    | dots =>
      refine ⟨fun h => ?_, fun ⟨⟨_, hfolder⟩, hno⟩ => absurd (hfolder ?_) hno⟩
      · cases henter : d.enter q <;> rw [henter] at h <;> cases h
      · exact Ending.noConfusion
    | name =>
      simp only [avoid_eq_ok_iff, ne_eq, not_true_eq_false, false_implies, and_true]
      exact ⟨fun ⟨hno, heq⟩ => ⟨heq, heq ▸ hno⟩, fun ⟨heq, hno⟩ => ⟨heq ▸ hno, heq⟩⟩

theorem Accepts.replaceFile {d : Disk} {path : String} {p : Place} (h : d.Accepts path p)
    (bytes : List UInt8) (mode : Nat) :
    d.replaceFile path bytes mode = .ok (d.put p (.file bytes mode)) := by
  rw [Disk.replaceFile, seat_eq_ok_iff.2 h]
  rfl

theorem accepts_of_replaceFile {d d' : Disk} {path : String} {bytes : List UInt8} {mode : Nat}
    (h : d.replaceFile path bytes mode = .ok d') : ∃ p, d.Accepts path p := by
  rw [replaceFile] at h
  cases hseat : d.seat path .notFolder .busy with
  | error fault =>
    rw [hseat] at h
    cases h
  | ok p => exact ⟨p, seat_eq_ok_iff.1 hseat⟩

theorem Accepts.put {d : Disk} {path : String} {p : Place} (h : d.Accepts path p)
    (bytes : List UInt8) (mode : Nat) : (d.put p (.file bytes mode)).Accepts path p := by
  refine ⟨(d.sameBut_put (ne_nil_of_get? h.2) _).locate h.2 h.1, ?_⟩
  rw [get?_put (ne_nil_of_get? h.2), if_pos rfl]
  intro hfile
  cases hfile

theorem Accepts.isThere_put {d : Disk} {path : String} {p : Place} (h : d.Accepts path p)
    (bytes : List UInt8) (mode : Nat) : (d.put p (.file bytes mode)).isThere path = true := by
  simp only [isThere, find?, (h.put bytes mode).1, get?_put (ne_nil_of_get? h.2), if_true,
    Option.isSome_some]

theorem Accepts.readBytes_put {d : Disk} {path : String} {p : Place} (h : d.Accepts path p)
    (bytes : List UInt8) (mode : Nat) : (d.put p (.file bytes mode)).readBytes path = .ok bytes := by
  have hfile : (d.put p (.file bytes mode)).get? p = some (.file bytes mode) := by
    rw [get?_put (ne_nil_of_get? h.2), if_pos rfl]
  simp only [readBytes, (h.put bytes mode).1, bind, Except.bind, hfile]
  rfl

/-! ## Files stay while folders are made -/

/-- The same files, with the same bytes and permissions; folders may have come. -/
def SameFiles (d d' : Disk) : Prop :=
  ∀ p bytes mode, d'.get? p = some (.file bytes mode) ↔ d.get? p = some (.file bytes mode)

theorem SameFiles.refl (d : Disk) : d.SameFiles d := fun _ _ _ => .rfl

theorem SameFiles.trans {d d' d'' : Disk} (h : d.SameFiles d') (h' : d'.SameFiles d'') :
    d.SameFiles d'' := fun p bytes mode => (h' p bytes mode).trans (h p bytes mode)

theorem sameFiles_makeFolder {d d' : Disk} {names : List String} (h : d.makeFolder names = .ok d') :
    d.SameFiles d' := by
  unfold makeFolder at h
  split at h
  · cases h
  · next p hwalk =>
    split at h
    · cases h
      exact .refl d
    · cases h
    · next hnone =>
      cases h
      intro q bytes mode
      rw [get?_put (ne_nil_of_get? (ne_folder_of_none hnone))]
      by_cases hq : q = p
      · simp [hq, hnone]
      · rw [if_neg hq]

theorem sameFiles_makeFoldersUp (d : Disk) (names : List String) :
    d.SameFiles (d.makeFoldersUp names).1 := by
  induction names generalizing d with
  | nil => exact .refl d
  | cons name above ih =>
    have hup := ih d
    rw [makeFoldersUp]
    split
    · next hmade => exact sameFiles_makeFolder hmade
    · split
      · next heq =>
        rw [heq] at hup
        exact hup
      · next heq =>
        rw [heq] at hup
        split
        · next hmade => exact hup.trans (sameFiles_makeFolder hmade)
        · exact hup
    · exact .refl d

theorem sameFiles_makeFolders (d : Disk) (path : String) : d.SameFiles (d.makeFolders path).1 :=
  d.sameFiles_makeFoldersUp _

/-! ## A folder that cannot be made is not there -/

theorem walk_append (d : Disk) (start : Place) (names more : List String) :
    d.walk start (names ++ more) = (d.walk start names).bind fun p => d.walk p more := by
  induction names generalizing start with
  | nil => rfl
  | cons name names ih =>
    rw [List.cons_append, walk, walk]
    cases d.enter start with
    | error fault => rfl
    | ok p => exact ih _

theorem walk_concat {d : Disk} {names : List String} {name : String} {q : Place}
    (h : d.walk [] (names ++ [name]) = .ok q) :
    ∃ p, d.walk [] names = .ok p ∧ d.get? p = some .folder ∧
      q = if name = ".." then p.dropLast else p ++ [name] := by
  rw [walk_append] at h
  cases hwalk : d.walk [] names with
  | error fault =>
    rw [hwalk] at h
    cases h
  | ok p =>
    rw [hwalk] at h
    obtain ⟨hfolder, hlast⟩ := walk_cons_eq_ok_iff.1 (show d.walk p [name] = .ok q from h)
    rw [walk, Except.ok.injEq] at hlast
    exact ⟨p, rfl, hfolder, hlast.symm⟩

theorem HasFolder.above {d : Disk} {names : List String} {name : String}
    (h : d.HasFolder (names ++ [name])) : d.HasFolder names := by
  obtain ⟨q, hwalk, _⟩ := h
  obtain ⟨p, hwalk, hfolder, _⟩ := walk_concat hwalk
  exact ⟨p, hwalk, hfolder⟩

theorem not_hasFolder_of_makeFoldersUp {d d' : Disk} {names : List String} {fault : SystemFault}
    (h : d.makeFoldersUp names = (d', .error fault)) : ¬ d'.HasFolder names.reverse := by
  intro hfolder
  induction names generalizing d fault with
  | nil => cases h
  | cons name above ih =>
    rw [makeFoldersUp] at h
    split at h
    · cases h
    · split at h
      · next hup =>
        cases h
        rw [List.reverse_cons] at hfolder
        exact ih hup hfolder.above
      · split at h
        · cases h
        · next hmake =>
          cases h
          rw [hfolder.makeFolder] at hmake
          cases hmake
    · next hmake =>
      cases h
      rw [hfolder.makeFolder] at hmake
      cases hmake

theorem not_hasFolder_of_makeFolders {d d' : Disk} {path : String} {fault : SystemFault}
    (h : d.makeFolders path = (d', .error fault)) : ¬ d'.HasFolder (steps path) := by
  have hno := not_hasFolder_of_makeFoldersUp h
  rwa [List.reverse_reverse] at hno

section

variable {d : Disk} {path : String} {names : List String} {name : String}

theorem readBytes_of_locate_error {fault : SystemFault} (h : d.locate path = .error fault) :
    d.readBytes path = .error fault := by
  rw [readBytes, h]
  rfl

/-- The root is a folder, if a path gets there at all. -/
theorem readBytes_of_root (hpath : steps path = []) : (d.readBytes path).toOption = none := by
  cases hlocate : d.locate path with
  | error fault =>
    rw [readBytes_of_locate_error hlocate]
    rfl
  | ok p =>
    have hwalk := (locate_eq_ok_iff.1 hlocate).1
    rw [hpath, walk, Except.ok.injEq] at hwalk
    subst hwalk
    rw [readBytes, hlocate]
    rfl

theorem readBytes_of_not_hasFolder (hpath : steps path = names ++ [name]) (h : ¬ d.HasFolder names) :
    (d.readBytes path).toOption = none := by
  cases hlocate : d.locate path with
  | error fault =>
    rw [readBytes_of_locate_error hlocate]
    rfl
  | ok q =>
    have hwalk := (locate_eq_ok_iff.1 hlocate).1
    rw [hpath] at hwalk
    obtain ⟨p, hwalk, hfolder, _⟩ := walk_concat hwalk
    exact absurd ⟨p, hwalk, hfolder⟩ h

theorem readBytes_of_replaceFile_error {bytes : List UInt8} {mode : Nat} {fault : SystemFault}
    (h : d.replaceFile path bytes mode = .error fault) : (d.readBytes path).toOption = none := by
  cases hlocate : d.locate path with
  | error fault =>
    rw [readBytes_of_locate_error hlocate]
    rfl
  | ok p =>
    by_cases hfolder : d.get? p = some .folder
    · rw [readBytes, hlocate]
      simp only [bind, Except.bind, hfolder]
      rfl
    · have haccepts : d.Accepts path p := ⟨hlocate, hfolder⟩
      rw [haccepts.replaceFile] at h
      cases h

end

end TicketLogin.Disk
