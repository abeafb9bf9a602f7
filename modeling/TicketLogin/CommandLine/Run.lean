import TicketLogin.CommandLine.Arguments
import TicketLogin.Http.Exchange
import TicketLogin.Page.Event
import TicketLogin.Settings.File

/-!
# Runs of the program

A run finds a disk, an environment and a network, and leaves a disk, lines on the two outputs, the
requests it sent and an exit code. The session and the settings are two files of one home folder.
-/

namespace TicketLogin.CommandLine

structure Surroundings where
  disk : Disk
  environment : Environment
  network : Http.Network

namespace Surroundings

/-- The folder of the program: the given one, else one below the folder of the user. -/
def home (s : Surroundings) : String :=
  match s.environment "IDSGATE_HOME" with
  | some home => home
  | none =>
    match (s.environment "HOME").filter (· ≠ "") with
    | some user => Disk.child (Disk.child user ".config") "idsgate"
    | none => ".idsgate"

def settingsPath (s : Surroundings) : String := Disk.child s.home "config.toml"

def sessionPath (s : Surroundings) : String := Disk.child s.home "session.json"

def medium (s : Surroundings) : Medium := .file ⟨s.sessionPath, s.disk⟩

def settings (s : Surroundings) : Except SettingsFault Settings :=
  (Settings.load s.disk s.settingsPath).map (·.withEnvironment s.environment)

end Surroundings

inductive Fault
  | settings (fault : SettingsFault)
  | settingsInit (fault : SettingsFault)
  | loginAddress (fault : LoginAddressFault)
  | page (text : String) (fault : AddressFault)
  | session (fault : StoreFault)
  | sessionMissing
  | ticketLogin
  deriving DecidableEq, Repr

namespace Fault

def context : Fault → String
  | settings fault => "load config: " ++ fault.message
  | settingsInit fault => fault.message
  | loginAddress fault => fault.message
  | page text fault => s!"Invalid page URL: {text}: {fault.message}"
  | session fault => fault.message
  | sessionMissing => "Session missing right after login"
  | ticketLogin => "Ticket login failed; reload the page URL with a fresh ticket to retry"

def causes : Fault → List String
  | settings (.malformed _) => ["not a TOML document of settings"]
  | settings fault | settingsInit fault => (fault.cause?.map (·.message)).toList
  | session fault => fault.causes
  | _ => []

def message (f : Fault) : String := ": ".intercalate (f.context :: f.causes)

end Fault

inductive Verdict
  | success
  | failure (fault : Fault)
  | misuse (topic : Topic)
  deriving DecidableEq, Repr

def Verdict.exitCode : Verdict → Nat
  | success => 0
  | failure _ => 1
  | misuse _ => 2

/-- What a run leaves. Notices are shown among the errors. -/
structure Run where
  disk : Disk
  verdict : Verdict
  printed : List String
  notices : List String
  requests : List Http.Request

namespace Run

/-- A run that printed lines and did nothing else. -/
def printing (disk : Disk) (printed : List String) : Run := ⟨disk, .success, printed, [], []⟩

def failing (disk : Disk) (fault : Fault) : Run := ⟨disk, .failure fault, [], [], []⟩

def noticeLine (notice : String) : String := "✗ " ++ notice

def complaints (r : Run) : List String :=
  r.notices.map noticeLine ++
    match r.verdict with
    | .success => []
    | .failure fault => [fault.message]
    | .misuse topic => [topic.usage]

def written (lines : List String) : String := String.join (lines.map (· ++ "\n"))

end Run

def diskOf (s : Surroundings) : Medium → Disk
  | .memory _ => s.disk
  | .file f => f.disk

structure Visit where
  browser : Browser
  outcome : Outcome
  requests : List Http.Request

/-- Loads the login page and renders it once. If that makes a call, the server answers it. -/
def visit (s : Surroundings) (settings : Settings) (start : Address) : Visit :=
  let fresh := Browser.load .page settings.landingRoute (.ofMedium s.medium) start
  match fresh.simplePass fresh.current none with
  | (b, .done outcome) => ⟨b, outcome, []⟩
  | (b, .waiting call) =>
    match b.pending? call with
    | none => ⟨b, .exchanged (b.surface b.current).phase, []⟩
    | some c =>
      let (answer, requests) :=
        Http.redeem settings.provider.ticketLoginUrl c.ticket c.page s.network
      let (b, phase) := b.answerCall call c.surface answer
      ⟨b, .exchanged phase, requests⟩

namespace Visit

def disk (s : Surroundings) (v : Visit) : Disk := diskOf s v.browser.store.medium

def location (v : Visit) : String := v.browser.history.location.toText

end Visit

def announcement (s : Surroundings) (start : Address) : List String :=
  if start.ticket?.isSome && !s.medium.hasSession then ["Exchanging ticket..."] else []

def welcome (s : Surroundings) (v : Visit) (session : Session) : List String :=
  ["",
   s!"✓ Logged in as {session.identity.shown} (token: {AccessToken.masked session.accessToken})",
   s!"  Session saved to: {s.sessionPath}",
   s!"  Location: {v.location}"]

def report (s : Surroundings) (start : Address) (v : Visit) : Verdict × List String :=
  match v.outcome with
  | .alreadySignedIn =>
    (.success, ["Already logged in.", s!"  Redirected to: {v.location}"])
  | .exchanged .succeeded =>
    match v.browser.store.read with
    | .error fault => (.failure (.session fault), [])
    | .ok none => (.failure .sessionMissing, [])
    | .ok (some session) => (.success, welcome s v session)
  | .exchanged .failed => (.failure .ticketLogin, [])
  | _ =>
    (.success,
      [s!"No ticket in {start.toText}; nothing to exchange.",
       "Run `idsgate login-url` to start a login."])

/-- Completes a login from the page that the provider sent the browser back to. -/
def login (s : Surroundings) (text : String) : Run :=
  match s.settings with
  | .error fault => .failing s.disk (.settings fault)
  | .ok settings =>
    match Address.read (Text.trim text) with
    | .error fault => .failing s.disk (.page text fault)
    | .ok start =>
      let v := visit s settings start
      let (verdict, lines) := report s start v
      ⟨v.disk s, verdict, announcement s start ++ lines, v.browser.notices, v.requests⟩

def loginUrl (s : Surroundings) : Run :=
  match s.settings with
  | .error fault => .failing s.disk (.settings fault)
  | .ok settings =>
    match settings.provider.loginAddress with
    | .error fault => .failing s.disk (.loginAddress fault)
    | .ok url => .printing s.disk [url]

def status (s : Surroundings) : Run :=
  match s.medium.read with
  | .error fault => .failing s.disk (.session fault)
  | .ok none => .printing s.disk ["Not logged in."]
  | .ok (some session) =>
    .printing s.disk
      [s!"Logged in as {session.identity.shown}",
       s!"  Token: {AccessToken.masked session.accessToken}",
       s!"  Session file: {s.sessionPath}"]

def logout (s : Surroundings) : Run :=
  match s.medium.clear with
  | (m, .error fault) => .failing (diskOf s m) (.session fault)
  | (m, .ok true) =>
    .printing (diskOf s m) ["✓ Logged out", s!"  Session removed from: {s.sessionPath}"]
  | (m, .ok false) => .printing (diskOf s m) ["Not logged in (no session found)."]

def settingsInit (s : Surroundings) : Run :=
  match Settings.create s.disk s.settingsPath with
  | (disk, .error fault) => .failing disk (.settingsInit fault)
  | (disk, .ok ()) => .printing disk [s!"Created config at {s.settingsPath}"]

/-- Does what a command says. Opening a browser is for whoever shows the login address. -/
def Command.run (s : Surroundings) : Command → Run
  | .login page => CommandLine.login s page
  | .loginUrl _ => CommandLine.loginUrl s
  | .status => CommandLine.status s
  | .logout => CommandLine.logout s
  | .settingsPath => .printing s.disk [s.settingsPath]
  | .settingsInit => CommandLine.settingsInit s

def run (s : Surroundings) (arguments : List String) : Run :=
  match Invocation.ofArguments arguments with
  | .run command => command.run s
  | .help topic => .printing s.disk topic.page
  | .version => .printing s.disk [versionLine]
  | .misuse topic => ⟨s.disk, .misuse topic, [], [], []⟩

end TicketLogin.CommandLine
