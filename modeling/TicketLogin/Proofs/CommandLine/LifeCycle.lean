import TicketLogin.Proofs.CommandLine.Login
import TicketLogin.Proofs.Session.HomeFolder

/-!
# Signed in from run to run

Runs share nothing but the files of their home folder. Whoever a login has signed in stays signed in
until a logout, whatever else is run and however the settings change in between: each look at the
session shows the one of that login.
-/

namespace TicketLogin

namespace Items

variable {items : Items}

theorem isSome_authorization? {kept : Option Session} (h : items.session? = .ok kept) :
    items.authorization?.isSome = kept.isSome := by
  unfold session? at h
  split at h
  · next hnone =>
    rw [hnone, ← Except.ok.inj h]
    rfl
  · next authorization hsome =>
    split at h
    · cases h
    · rw [hsome, ← Except.ok.inj h]
      rfl

end Items

namespace CommandLine

namespace Surroundings

theorem sessionFile_save (s : Surroundings) (items : Items) :
    s.sessionFile ((s.sessionFile s.disk).save items).1.disk =
      ((s.sessionFile s.disk).save items).1 := by
  have hpath := (s.sessionFile s.disk).path_save items
  generalize ((s.sessionFile s.disk).save items).1 = saved at hpath
  obtain ⟨path, disk⟩ := saved
  have hpath : path = s.sessionPath := hpath
  rw [hpath]
  rfl

/-- The file of the session keeps items in which this session is read, or none. -/
def Keeps (s : Surroundings) (disk : Disk) (kept : Option Session) : Prop :=
  ∃ items, (s.sessionFile disk).Keeps items ∧ items.session? = .ok kept

end Surroundings

section

variable {s : Surroundings} {kept : Option Session}

theorem save_of_keeps {items : Items} (h : (s.sessionFile s.disk).Keeps items) {others : Items}
    {after : Option Session} (hafter : others.session? = .ok after) :
    ∃ m, s.medium.save others = (m, .ok ()) ∧ s.Keeps (diskOf s m) after := by
  refine ⟨.file ((s.sessionFile s.disk).save others).1, ?_, others, ?_, hafter⟩
  · refine (Medium.save_file _ _).trans ?_
    rw [← h.writable others]
    rfl
  · change (s.sessionFile ((s.sessionFile s.disk).save others).1.disk).Keeps others
    rw [s.sessionFile_save]
    exact SessionFile.keeps_save h.writable others

theorem read_of_keeps (h : s.Keeps s.disk kept) : s.medium.read = .ok kept := by
  obtain ⟨items, hkeeps, hsession⟩ := h
  have hload : s.medium.load = .ok items := hkeeps.load
  rw [Medium.read, hload]
  exact hsession

theorem hasSession_of_keeps (h : s.Keeps s.disk kept) : s.medium.hasSession = kept.isSome := by
  rw [Medium.hasSession, read_of_keeps h]
  cases kept <;> rfl

def standing (s : Surroundings) : Option Session → List String
  | none => ["Not logged in."]
  | some session =>
    [s!"Logged in as {session.identity.shown}",
     s!"  Token: {AccessToken.masked session.accessToken}",
     s!"  Session file: {s.sessionPath}"]

/-- What a logout says of the session that was there, or of there having been none. -/
def farewell (s : Surroundings) : Option Session → List String
  | none => ["Not logged in (no session found)."]
  | some _ => ["✓ Logged out", s!"  Session removed from: {s.sessionPath}"]

theorem status_of_read (h : s.medium.read = .ok kept) :
    status s = .printing s.disk (standing s kept) := by
  delta status
  rw [h]
  cases kept <;> rfl

theorem status_of_keeps (h : s.Keeps s.disk kept) :
    status s = .printing s.disk (standing s kept) :=
  status_of_read (read_of_keeps h)

theorem clear_of_keeps (h : s.Keeps s.disk kept) :
    ∃ m, s.medium.clear = (m, .ok kept.isSome) ∧ s.Keeps (diskOf s m) none := by
  obtain ⟨items, hkeeps, hsession⟩ := h
  have hload : s.medium.load = .ok items := hkeeps.load
  simp only [Medium.clear, hload, Items.isSome_authorization? hsession]
  cases hitem : items.hasSessionItem with
  | false =>
    refine ⟨s.medium, rfl, items, hkeeps, ?_⟩
    exact Items.session?_of_holds_none (items.holds_none_iff.2 hitem)
  | true =>
    have hnone := Items.session?_of_holds_none items.holds_dropSession
    obtain ⟨m, hsave, hafter⟩ := save_of_keeps hkeeps hnone
    simp only [if_true, hsave]
    exact ⟨m, rfl, hafter⟩

theorem logout_of_keeps (h : s.Keeps s.disk kept) :
    ∃ disk, logout s = .printing disk (farewell s kept) ∧ s.Keeps disk none := by
  obtain ⟨m, hclear, hafter⟩ := clear_of_keeps h
  refine ⟨diskOf s m, ?_, hafter⟩
  delta logout
  rw [hclear]
  cases kept <;> rfl

theorem obtained?_of_session {text : String} (h : s.medium.hasSession = true) :
    s.obtained? text = none := by
  unfold Surroundings.obtained?
  split
  · rw [if_pos h]
  · rfl

theorem login_of_obtained (h : s.Keeps s.disk kept) {text : String} {g : Grant}
    (hg : s.obtained? text = some g) :
    (login s text).verdict = .success ∧ greeting g.session ∈ (login s text).printed ∧
      s.Keeps (login s text).disk (some g.session) := by
  obtain ⟨hnone, _⟩ | ⟨g', hg', hsaves⟩ := login_cases s text
  · rw [hg] at hnone
    cases hnone
  · obtain rfl := Option.some.inj (hg.symm.trans hg')
    obtain ⟨items, hkeeps, _⟩ := h
    have hload : s.medium.load = .ok items := hkeeps.load
    have hsession := Items.session?_of_holds (items.holds_putSession g.session)
    have hauthorized : g.session.authorization ≠ "" :=
      (Surroundings.usable_of_obtained hg).authorization
    rw [if_neg hauthorized] at hsession
    obtain ⟨m, hsave, hafter⟩ := save_of_keeps hkeeps hsession
    have hpersist : s.medium.persist g.session = (m, .ok ()) := by
      rw [Medium.persist_eq, hload]
      exact hsave
    rw [hpersist] at hsaves
    obtain ⟨hverdict, hprinted⟩ := hsaves.saved rfl
    refine ⟨hverdict, hprinted, ?_⟩
    rw [hsaves.disk]
    exact hafter

theorem login_of_not_obtained {text : String} (h : s.obtained? text = none) :
    (login s text).disk = s.disk := by
  obtain ⟨_, hdisk⟩ | ⟨g, hg, _⟩ := login_cases s text
  · exact hdisk
  · rw [h] at hg
    cases hg

end

/-! ## The settings in the same folder -/

namespace Surroundings

theorem isName_settings : Disk.IsName "config.toml" := by
  constructor <;> decide

theorem steps_settingsPath (s : Surroundings) (disk : Disk) :
    Disk.steps s.settingsPath = Disk.steps (s.sessionFile disk).folder ++ ["config.toml"] := by
  rw [steps_sessionFolder]
  exact Disk.steps_child isName_settings s.home

theorem beside_settings (s : Surroundings) (disk : Disk) :
    Disk.Beside (Disk.steps (s.sessionFile disk).folder) (s.sessionFile disk).path s.settingsPath :=
  ⟨"session.json", "config.toml", s.steps_sessionFile disk, s.steps_settingsPath disk, by decide,
    by decide, by decide⟩

theorem steps_settingsFolder (s : Surroundings) (disk : Disk) :
    Disk.steps (Disk.parent s.settingsPath) = Disk.steps (s.sessionFile disk).folder := by
  rw [steps_sessionFolder]
  exact Disk.steps_parent_child isName_settings s.home

end Surroundings

section

variable {s : Surroundings} {disk : Disk} {kept : Option Session}

theorem keeps_create (h : s.Keeps disk kept) :
    s.Keeps (Settings.create disk s.settingsPath).1 kept := by
  obtain ⟨items, hkeeps, hsession⟩ := h
  exact ⟨items, hkeeps.create (s.beside_settings disk) (s.steps_settingsFolder disk), hsession⟩

/-- The disk with other settings, or none, that somebody has put there. -/
def withSettings (s : Surroundings) (disk : Disk) : Option (List UInt8) → Disk
  | none => disk.removeFile s.settingsPath
  | some bytes =>
    let disk := (disk.makeFolders s.home).1
    (disk.writeFile s.settingsPath bytes).toOption.getD disk

theorem keeps_withSettings (h : s.Keeps disk kept) (content : Option (List UInt8)) :
    s.Keeps (withSettings s disk content) kept := by
  obtain ⟨items, hkeeps, hsession⟩ := h
  refine ⟨items, ?_, hsession⟩
  cases content with
  | none => exact hkeeps.removeFile (s.beside_settings disk)
  | some bytes =>
    have hmade : (s.sessionFile (disk.makeFolders (s.sessionFile disk).folder).1).Keeps items :=
      hkeeps.inFolder
    rw [Disk.makeFolders_congr disk (s.steps_sessionFolder disk)] at hmade
    rw [withSettings]
    generalize (disk.makeFolders s.home).1 = made at hmade ⊢
    cases hwrite : made.writeFile s.settingsPath bytes with
    | error cause => exact hmade
    | ok disk' => exact hmade.writeFile (s.beside_settings made) hwrite

end

/-! ## From run to run -/

/-- Who is signed in after a run: whoever it signs in, nobody after a logout, else who was before. -/
def signedIn (s : Surroundings) (before : Option Session) (arguments : List String) :
    Option Session :=
  match Invocation.ofArguments arguments with
  | .run (.login text) => ((s.obtained? text).map Grant.session).or before
  | .run .logout => none
  | _ => before

theorem disk_loginUrl (s : Surroundings) : (loginUrl s).disk = s.disk := by
  unfold loginUrl
  split
  · rfl
  · split
    · rfl
    · rfl

theorem disk_settingsInit (s : Surroundings) :
    (settingsInit s).disk = (Settings.create s.disk s.settingsPath).1 := by
  unfold settingsInit
  generalize Settings.create s.disk s.settingsPath = created
  rcases created with ⟨disk, fault | -⟩
  · rfl
  · rfl

theorem run_command {s : Surroundings} {arguments : List String} {command : Command}
    (h : Invocation.ofArguments arguments = .run command) : run s arguments = command.run s := by
  rw [run, h]

theorem keeps_run {s : Surroundings} {kept : Option Session} (h : s.Keeps s.disk kept)
    (arguments : List String) : s.Keeps (run s arguments).disk (signedIn s kept arguments) := by
  unfold run signedIn
  cases Invocation.ofArguments arguments with
  | help topic => exact h
  | version => exact h
  | misuse topic => exact h
  | run command =>
    cases command with
    | login text =>
      change s.Keeps (login s text).disk (((s.obtained? text).map Grant.session).or kept)
      cases hg : s.obtained? text with
      | none =>
        rw [login_of_not_obtained hg]
        exact h
      | some g => exact (login_of_obtained h hg).2.2
    | loginUrl opens =>
      change s.Keeps (loginUrl s).disk kept
      rw [disk_loginUrl]
      exact h
    | status =>
      change s.Keeps (status s).disk kept
      rw [status_of_keeps h]
      exact h
    | logout =>
      obtain ⟨disk, hlogout, hafter⟩ := logout_of_keeps h
      change s.Keeps (logout s).disk none
      rw [hlogout]
      exact hafter
    | settingsPath => exact h
    | settingsInit =>
      change s.Keeps (settingsInit s).disk kept
      rw [disk_settingsInit]
      exact keeps_create h

def Surroundings.inHome (home : String) (disk : Disk) (environment : Environment)
    (network : Http.Network) : Surroundings :=
  ⟨disk, fun name => if name = "IDSGATE_HOME" then some home else environment name, network⟩

/-- What comes next in a home folder: a run, or other settings, or none, put there by hand. -/
inductive Turn
  | run (environment : Environment) (network : Http.Network) (arguments : List String)
  | settings (content : Option (List UInt8))

/-- A disk, and who is signed in with the home folder on it. -/
structure HomeState where
  disk : Disk
  session : Option Session

namespace HomeState

variable {home : String} {state : HomeState}

def next (home : String) (state : HomeState) : Turn → HomeState
  | .run environment network arguments =>
    let s := Surroundings.inHome home state.disk environment network
    ⟨(CommandLine.run s arguments).disk, signedIn s state.session arguments⟩
  | .settings content =>
    let s := Surroundings.inHome home state.disk (fun _ => none) .offline
    { state with disk := withSettings s state.disk content }

def play (home : String) (state : HomeState) (turns : List Turn) : HomeState :=
  turns.foldl (next home) state

def file (home : String) (disk : Disk) : SessionFile := ⟨Disk.child home "session.json", disk⟩

/-- The file of the home folder keeps items in which whoever is signed in is read. -/
def Kept (home : String) (state : HomeState) : Prop :=
  ∃ items, (file home state.disk).Keeps items ∧ items.session? = .ok state.session

theorem keeps_inHome {disk disk' : Disk} {environment : Environment} {network : Http.Network}
    {kept : Option Session} :
    (Surroundings.inHome home disk environment network).Keeps disk' kept ↔
      Kept home ⟨disk', kept⟩ := .rfl

theorem Kept.next (h : state.Kept home) (turn : Turn) : (state.next home turn).Kept home := by
  cases turn with
  | run environment network arguments =>
    have hkeeps : (Surroundings.inHome home state.disk environment network).Keeps state.disk
        state.session := keeps_inHome.2 h
    exact keeps_inHome.1 (keeps_run hkeeps arguments)
  | settings content =>
    have hkeeps : (Surroundings.inHome home state.disk (fun _ => none) .offline).Keeps state.disk
        state.session := keeps_inHome.2 h
    exact keeps_inHome.1 (keeps_withSettings hkeeps content)

theorem Kept.play (h : state.Kept home) (turns : List Turn) :
    (state.play home turns).Kept home := by
  induction turns generalizing state with
  | nil => exact h
  | cons turn turns ih => exact ih (h.next turn)

/-- Who is signed in at the start, if there is a session file and it can be read, or if there is
none, not even once its folder is made, and one can be written. -/
inductive Starts (home : String) (disk : Disk) : Option Session → Prop
  | readable {session : Option Session}
      (there : disk.isThere (Disk.child home "session.json") = true)
      (read : (Medium.file (file home disk)).read = .ok session) : Starts home disk session
  | absent
      (missing : (file home disk).inFolder.disk.isThere (Disk.child home "session.json") = false)
      (writable : (file home disk).Writable) : Starts home disk none

theorem load_of_read {f : SessionFile} {kept : Option Session}
    (h : (Medium.file f).read = .ok kept) :
    ∃ items, f.load = .ok items ∧ items.session? = .ok kept := by
  rw [Medium.read, Medium.load] at h
  cases hload : f.load with
  | error fault =>
    rw [hload] at h
    cases h
  | ok items =>
    rw [hload] at h
    exact ⟨items, rfl, h⟩

theorem Starts.kept {disk : Disk} {session : Option Session} (h : Starts home disk session) :
    Kept home ⟨disk, session⟩ := by
  cases h with
  | absent missing writable =>
    have hpath : Disk.steps (file home disk).path =
        Disk.steps (file home disk).folder ++ ["session.json"] :=
      (Surroundings.inHome home disk (fun _ => none) .offline).steps_sessionFile disk
    refine ⟨.empty, SessionFile.keeps_of_absent hpath missing writable, ?_⟩
    rfl
  | readable there read =>
    obtain ⟨items, hload, hsession⟩ := load_of_read read
    exact ⟨items, SessionFile.keeps_of_isThere there hload, hsession⟩

end HomeState

/-- After any runs in one home folder, with any settings put there in between, it is the session
signed in with last that a look at it shows, that keeps a login from asking the server and that a
logout removes; and a login that is granted one greets with it. -/
theorem session_life_cycle {home : String} {disk : Disk} {session : Option Session}
    (h : HomeState.Starts home disk session) (turns : List Turn) (environment : Environment)
    (network : Http.Network) (arguments : List String) :
    let state := HomeState.play home ⟨disk, session⟩ turns
    let s := Surroundings.inHome home state.disk environment network
    let r := run s arguments
    match Invocation.ofArguments arguments with
    | .run .status => r.verdict.exitCode = 0 ∧ r.printed = standing s state.session
    | .run .logout => r.verdict.exitCode = 0 ∧ r.printed = farewell s state.session
    | .run (.login text) =>
      (state.session.isSome = true → r.requests = [] ∧ r.disk = state.disk) ∧
      ∀ g, s.obtained? text = some g → r.verdict.exitCode = 0 ∧ greeting g.session ∈ r.printed
    | _ => True := by
  intro state s r
  have hkeeps : s.Keeps s.disk state.session := HomeState.keeps_inHome.2 (h.kept.play turns)
  split
  · next hstatus =>
    have hstatus : r = status s := run_command hstatus
    rw [hstatus, status_of_keeps hkeeps]
    exact ⟨rfl, rfl⟩
  · next hlogout =>
    have hlogout : r = logout s := run_command hlogout
    obtain ⟨after, hprinted, _⟩ := logout_of_keeps hkeeps
    rw [hlogout, hprinted]
    exact ⟨rfl, rfl⟩
  · next text hlogin =>
    have hlogin : r = login s text := run_command hlogin
    rw [hlogin]
    constructor
    · intro hsome
      have hsession : s.medium.hasSession = true := (hasSession_of_keeps hkeeps).trans hsome
      exact ⟨requests_of_session hsession, login_of_not_obtained (obtained?_of_session hsession)⟩
    · intro g hg
      obtain ⟨hverdict, hgreeting, _⟩ := login_of_obtained hkeeps hg
      exact ⟨congrArg Verdict.exitCode hverdict, hgreeting⟩
  · trivial

def ann : Session := ⟨"Bearer T", "T", ⟨none, "Ann", ""⟩⟩

def annsFile : Entry := .file (Utf8.encode (Items.empty.putSession ann).text) Disk.privateMode

def annsHome : Disk := ⟨[(["home"], .folder), (["home", "session.json"], annsFile)]⟩

theorem starts_annsHome : HomeState.Starts "<TMP>/home" annsHome (some ann) := by
  apply HomeState.Starts.readable
  · decide +kernel
  · decide +kernel

/-- A server that is reached over a secure connection and grants a session to whoever asks. -/
def bobsNetwork : Http.Network :=
  ⟨[⟨200, [], Utf8.encode "\x7b\"access_token\":\"T\",\"uid\":\"Bob\"\x7d".toList, false, 0⟩],
    fun _ _ => true⟩

theorem bob_signed_in_after_ann :
    HomeState.Starts "<TMP>/home" annsHome (some ann) ∧
    let turns : List Turn := [.run (fun _ => none) .offline ["logout"], .settings none,
      .run (fun _ => none) bobsNetwork ["login", "https://[::1]/?ticket=ST-1"]]
    let state := HomeState.play "<TMP>/home" ⟨annsHome, some ann⟩ turns
    let r := run (Surroundings.inHome "<TMP>/home" state.disk (fun _ => none) .offline) ["status"]
    r.verdict.exitCode = 0 ∧
    r.printed =
      ["Logged in as Bob", "  Token: ***", "  Session file: <TMP>/home/session.json"] := by
  refine ⟨starts_annsHome, ?_⟩
  intro turns
  obtain ⟨hcode, hprinted⟩ :=
    session_life_cycle starts_annsHome turns (fun _ => none) .offline ["status"]
  refine ⟨hcode, hprinted.trans ?_⟩
  decide +kernel

def hiddenFile : Disk := ⟨[(["session.json"], annsFile)]⟩

/-- Making the folder brings a session to light that nobody has signed in with. -/
theorem session_comes_to_light :
    let path := Disk.child "<TMP>/x/.." "session.json"
    let file := HomeState.file "<TMP>/x/.." hiddenFile
    let state := HomeState.play "<TMP>/x/.." ⟨hiddenFile, none⟩
      [.run (fun _ => none) .offline ["config", "init"]]
    let r := run (Surroundings.inHome "<TMP>/x/.." state.disk (fun _ => none) .offline) ["status"]
    hiddenFile.isThere path = false ∧ (Medium.file file).read = .ok none ∧ file.Writable ∧
    state.session = none ∧
    r.printed =
      ["Logged in as Ann", "  Token: ***", "  Session file: <TMP>/x/../session.json"] := by
  refine ⟨?_, ?_, ?_, ?_, ?_⟩
  · decide +kernel
  · decide +kernel
  · have hsave : ((HomeState.file "<TMP>/x/.." hiddenFile).save .empty).2 = .ok () := rfl
    exact SessionFile.writable_of_save hsave
  · rfl
  · decide +kernel

end CommandLine

end TicketLogin
