import TicketLogin.CommandLine.Help

/-!
# Arguments

The words behind the program's name pick a command and say what it needs. They are read from left to
right, and the first word that settles the matter wins: a call for help is answered even if later
words make no sense, and a word that makes no sense is refused even if a call for help follows.
-/

namespace TicketLogin.CommandLine

inductive Command
  | login (page : String)
  /-- Whether a browser is to be opened. -/
  | loginUrl (opens : Bool)
  | status
  | logout
  | settingsPath
  | settingsInit
  deriving DecidableEq, Repr

inductive Invocation
  | run (command : Command)
  | help (topic : Topic)
  | version
  /-- The arguments make no sense to this command. -/
  | misuse (topic : Topic)
  deriving DecidableEq, Repr

inductive Word
  | plain (text : String)
  /-- Two dashes and no more: what follows is plain. -/
  | separator
  /-- One dash and letters. -/
  | letters (first : Char) (rest : List Char)
  /-- Two dashes and a name, with all that follows it. -/
  | long (name : String)
  deriving DecidableEq, Repr

def Word.ofText (s : String) : Word :=
  match s.toList with
  | ['-', '-'] => .separator
  | '-' :: '-' :: name => .long (String.ofList name)
  | '-' :: first :: rest => .letters first rest
  | _ => .plain s

/-- Options, none of which takes a value. -/
inductive Switch
  | help
  | version
  | opens
  deriving DecidableEq, Repr

/-- The option that a word stands for. Letters may be run together, but as each of them ends the
matter, the first one decides. -/
def Topic.switch? (t : Topic) : Word → Option Switch
  | .letters first _ =>
    if first = 'h' then some .help
    else if first = 'V' ∧ t = .program then some .version
    else none
  | .long name =>
    if name = "help" then some .help
    else if name = "version" ∧ t = .program then some .version
    else if name = "open" ∧ t = .loginUrl then some .opens
    else none
  | _ => none

structure Given where
  page : Option String
  opens : Bool
  deriving DecidableEq, Repr

namespace Given

def nothing : Given := ⟨none, false⟩

/-- Takes a plain word, which only a login has a use for, and only once. -/
def addPlain? (g : Given) (t : Topic) (s : String) : Option Given :=
  if t = .login ∧ g.page = none then some { g with page := some s } else none

def command? (g : Given) : Topic → Option Command
  | .login => g.page.map .login
  | .loginUrl => some (.loginUrl g.opens)
  | .status => some .status
  | .logout => some .logout
  | .settingsPath => some .settingsPath
  | .settingsInit => some .settingsInit
  | _ => none

def finish (g : Given) (t : Topic) : Invocation :=
  match g.command? t with
  | some command => .run command
  | none => .misuse t

end Given

namespace Invocation

def ofPlain (t : Topic) (g : Given) : List String → Invocation
  | [] => g.finish t
  | s :: rest =>
    match g.addPlain? t s with
    | some g => ofPlain t g rest
    | none => .misuse t

def ofCommand (t : Topic) (g : Given) : List String → Invocation
  | [] => g.finish t
  | s :: rest =>
    match Word.ofText s with
    | .separator => ofPlain t g rest
    | .plain s =>
      match g.addPlain? t s with
      | some g => ofCommand t g rest
      | none => .misuse t
    | word =>
      match t.switch? word with
      | some .help => .help t
      | some .version => .version
      | some .opens => if g.opens then .misuse t else ofCommand t { g with opens := true } rest
      | none => .misuse t

def ofNames (t : Topic) : List String → Invocation
  | [] => .help t
  | name :: rest =>
    match t.command? name with
    | some c => ofNames c rest
    | none => .misuse t

def ofGroup (t : Topic) : List String → Invocation
  | [] => .misuse t
  | s :: rest =>
    match Word.ofText s with
    | .plain name =>
      match t.command? name with
      | none => .misuse t
      | some c =>
        if c.isHelp then ofNames t rest
        else if c.isGroup then ofGroup c rest
        else ofCommand c .nothing rest
    | word =>
      match t.switch? word with
      | some .help => .help t
      | some .version => .version
      | _ => .misuse t

def ofArguments (arguments : List String) : Invocation := ofGroup .program arguments

end Invocation

end TicketLogin.CommandLine
