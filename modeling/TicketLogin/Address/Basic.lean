/-!
# Addresses

An address is a scheme, an optional authority, a path, and an optional query and fragment, each in
written form. `Address.text` writes it; two addresses are the same when their parts are. A rootless
address (`mailto:someone`) has neither authority nor a path that starts with a slash, so nothing
can be resolved against it but a fragment.
-/

namespace TicketLogin

inductive AddressFault
  | emptyHost
  | domainName
  | port
  | ipv4
  | ipv6
  | hostCharacter
  | noBase
  | rootlessBase
  deriving DecidableEq, Repr

def AddressFault.message : AddressFault → String
  | .emptyHost => "empty host"
  | .domainName => "invalid international domain name"
  | .port => "invalid port number"
  | .ipv4 => "invalid IPv4 address"
  | .ipv6 => "invalid IPv6 address"
  | .hostCharacter => "invalid domain character"
  | .noBase => "relative URL without a base"
  | .rootlessBase => "relative URL with a cannot-be-a-base base"

/-- User, password, host and port. The parts are as written: escaped, and a host of the Internet
Protocol's sixth version in its brackets. A port that the scheme implies is left out. -/
structure Authority where
  user : List Char
  password : List Char
  host : List Char
  port : Option Nat
  deriving DecidableEq, Repr

namespace Authority

def blank : Authority := ⟨[], [], [], none⟩

def userinfo (a : Authority) : List Char :=
  if a.user = [] ∧ a.password = [] then []
  else a.user ++ (if a.password = [] then [] else ':' :: a.password) ++ ['@']

def portText (a : Authority) : List Char :=
  match a.port with
  | none => []
  | some p => ':' :: (toString p).toList

def text (a : Authority) : List Char := a.userinfo ++ a.host ++ a.portText

end Authority

structure Address where
  scheme : List Char
  authority : Option Authority
  path : List Char
  query : Option (List Char)
  fragment : Option (List Char)
  deriving DecidableEq, Repr

namespace Address

/-- Schemes fall into files, the schemes whose hosts are names of the Internet, and all others. -/
inductive Kind
  | file
  | special
  | plain
  deriving DecidableEq, Repr

def kindOf (scheme : List Char) : Kind :=
  if scheme = "file".toList then .file
  else if ["http", "https", "ws", "wss", "ftp"].any (·.toList = scheme) then .special
  else .plain

def Kind.slashes : Kind → Char → Bool
  | .plain, c => c == '/'
  | _, c => c == '/' || c == '\\'

def defaultPort (scheme : List Char) : Option Nat :=
  if scheme = "http".toList ∨ scheme = "ws".toList then some 80
  else if scheme = "https".toList ∨ scheme = "wss".toList then some 443
  else if scheme = "ftp".toList then some 21
  else none

def kind (a : Address) : Kind := kindOf a.scheme

def isRootless (a : Address) : Bool :=
  a.authority.isNone && !(['/'].isPrefixOf a.path)

/-- What stands between the scheme and the path. A path that starts with two slashes is kept apart
from an authority by `/.`. -/
def authorityText (a : Address) : List Char :=
  match a.authority with
  | some h => '/' :: '/' :: h.text
  | none => if ['/', '/'].isPrefixOf a.path then ['/', '.'] else []

def marked (mark : Char) : Option (List Char) → List Char
  | none => []
  | some s => mark :: s

/-- The address without its query and fragment. -/
def stem (a : Address) : List Char := a.scheme ++ ':' :: (a.authorityText ++ a.path)

def text (a : Address) : List Char := a.stem ++ (marked '?' a.query ++ marked '#' a.fragment)

def toText (a : Address) : String := String.ofList a.text

end Address

end TicketLogin
