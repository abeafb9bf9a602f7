/-!
# Help

Every command, and every group of commands, has a page of help: what it does, how it is called, and
tables of its commands, arguments and options. The entries of a table stand in a column as wide as
the widest of them.
-/

namespace TicketLogin.CommandLine

/-- What there is help on: the program, its group `config`, and their commands. -/
inductive Topic
  | program
  | login
  | loginUrl
  | status
  | logout
  | config
  | settingsPath
  | settingsInit
  | help
  | settingsHelp
  deriving DecidableEq, Repr

structure HelpEntry where
  entry : String
  meaning : String
  deriving DecidableEq, Repr

structure HelpTable where
  title : String
  entries : List HelpEntry
  deriving DecidableEq, Repr

namespace HelpTable

/-- The width of the first column. -/
def width (t : HelpTable) : Nat := (t.entries.map fun e => e.entry.length).foldl max 0

def padded (width : Nat) (s : String) : String := s ++ "".pushn ' ' (width - s.length)

def row (width : Nat) (e : HelpEntry) : String := "  " ++ padded width e.entry ++ "  " ++ e.meaning

def lines (t : HelpTable) : List String := (t.title ++ ":") :: t.entries.map (row t.width)

end HelpTable

namespace Topic

def programName : String := "idsgate"

/-- The last name of a command or group. -/
def name : Topic → String
  | program => programName
  | login => "login"
  | loginUrl => "login-url"
  | status => "status"
  | logout => "logout"
  | config => "config"
  | settingsPath => "path"
  | settingsInit => "init"
  | help | settingsHelp => "help"

def commands : Topic → List Topic
  | program => [login, loginUrl, status, logout, config, help]
  | config => [settingsPath, settingsInit, settingsHelp]
  | _ => []

def command? (t : Topic) (name : String) : Option Topic := t.commands.find? fun c => c.name = name

def isGroup (t : Topic) : Bool := !t.commands.isEmpty

def isHelp (t : Topic) : Bool := t == help || t == settingsHelp

def callNames : Topic → List String
  | program => [programName]
  | settingsPath => [programName, "config", "path"]
  | settingsInit => [programName, "config", "init"]
  | settingsHelp => [programName, "config", "help"]
  | t => [programName, t.name]

def callRest : Topic → List String
  | program | config => ["<COMMAND>"]
  | login => ["<PAGE_URL>"]
  | loginUrl => ["[OPTIONS]"]
  | help | settingsHelp => ["[COMMAND]..."]
  | _ => []

def usage (t : Topic) : String := "Usage: " ++ " ".intercalate (t.callNames ++ t.callRest)

def meaning : Topic → String
  | program => "Redeem identity-provider login tickets into a local session"
  | login => "Complete a login from the page URL the identity provider redirected to"
  | loginUrl => "Print the identity provider login URL"
  | status => "Show the current session"
  | logout => "Log out (clear the saved session)"
  | config => "Manage configuration"
  | settingsPath => "Show the path to the config file"
  | settingsInit => "Initialize a default config file (if not present)"
  | help | settingsHelp => "Print this message or the help of the given subcommand(s)"

def arguments : Topic → List HelpEntry
  | login => [⟨"<PAGE_URL>", "Page URL carrying the `ticket` query parameter"⟩]
  | help | settingsHelp => [⟨"[COMMAND]...", "Print help for the subcommand(s)"⟩]
  | _ => []

def options : Topic → List HelpEntry
  | program => [⟨"-h, --help", "Print help"⟩, ⟨"-V, --version", "Print version"⟩]
  | loginUrl => [⟨"    --open", "Also open the URL in a browser"⟩, ⟨"-h, --help", "Print help"⟩]
  | help | settingsHelp => []
  | _ => [⟨"-h, --help", "Print help"⟩]

/-- The tables of a page of help; there are no empty ones. -/
def tables (t : Topic) : List HelpTable :=
  [⟨"Commands", t.commands.map fun c => ⟨c.name, c.meaning⟩⟩, ⟨"Arguments", t.arguments⟩,
    ⟨"Options", t.options⟩].filter fun table => !table.entries.isEmpty

def page (t : Topic) : List String :=
  t.meaning :: "" :: t.usage :: t.tables.flatMap fun table => "" :: table.lines

end Topic

def versionLine : String := Topic.programName ++ " 0.1.0"

end TicketLogin.CommandLine
