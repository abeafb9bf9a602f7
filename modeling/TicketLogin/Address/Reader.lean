import TicketLogin.Address.Host
import TicketLogin.Address.Path

/-!
# Reading addresses

`Address.read` reads a text on its own, `Address.join` against a base. Spaces and controls at both
ends and line breaks anywhere are dropped. A scheme decides how the rest is read: files, special
schemes with a host, and all others; without a scheme the base gives what is missing.
-/

namespace TicketLogin.Address

open TicketLogin.Address.Path (startsWithDrive isNormalDrive)

/-- The text without the characters that addresses are read past. -/
def cleaned (s : List Char) : List Char :=
  (Text.trimBy (fun c => c.toNat ≤ 0x20) s).filter fun c => c ≠ '\t' ∧ c ≠ '\n' ∧ c ≠ '\r'

def isSchemeChar (c : Char) : Bool := c.isAlphanum || c == '+' || c == '-' || c == '.'

/-- The scheme at the front of a text, in lower case, and what follows its colon. -/
def cutScheme (s : List Char) : Option (List Char × List Char) :=
  match s.dropWhile isSchemeChar, s.head? with
  | ':' :: rest, some c =>
    if c.isAlpha then some ((s.takeWhile isSchemeChar).map Char.toLower, rest) else none
  | _, _ => none

def readTail (k : Kind) (s : List Char) : Option (List Char) × Option (List Char) :=
  let (query, fragment) := Text.cutAt '#' s
  (match query with
    | '?' :: q => some (Percent.encode (Escapes.inQuery k) q)
    | _ => none,
   fragment.map (Percent.encode Escapes.inFragment))

def build (scheme : List Char) (authority : Option Authority) (path rest : List Char) : Address :=
  let tail := readTail (kindOf scheme) rest
  ⟨scheme, authority, path, tail.1, tail.2⟩

/-- Reads behind a colon up to the path; a port that the scheme implies is left out. -/
def readPort (scheme s : List Char) : Except AddressFault (Option Nat × List Char) :=
  let ds := s.takeWhile Char.isDigit
  let rest := s.dropWhile Char.isDigit
  let n := ds.foldl (fun n c => n * 10 + (c.toNat - 48)) 0
  if 65535 < n then .error .port
  else
    match rest with
    | c :: _ =>
      if "/\\?#".toList.contains c then .ok (kept ds n, rest) else .error .port
    | [] => .ok (kept ds n, rest)
where
  kept (ds : List Char) (n : Nat) : Option Nat :=
    if ds = [] ∨ defaultPort scheme = some n then none else some n

def endsAuthority (k : Kind) (c : Char) : Bool := k.slashes c || c == '?' || c == '#'

/-- Cuts the user information off, up to the last at sign of the authority. -/
def cutUserinfo (k : Kind) (s : List Char) : Option (List Char) × List Char :=
  let span := s.takeWhile fun c => !endsAuthority k c
  if span.contains '@' then
    let host := (span.reverse.takeWhile (· != '@')).reverse
    let count := span.length - host.length
    (some (s.take (count - 1)), s.drop count)
  else (none, s)

def readUserinfo (s : List Char) : List Char × List Char :=
  let (user, password) := Text.cutAt ':' s
  (Percent.encode Escapes.inUserinfo user, Percent.encode Escapes.inUserinfo (password.getD []))

/-- The text of a host: up to a colon outside brackets or the end of the authority. -/
def hostSpan (k : Kind) : Bool → List Char → List Char
  | _, [] => []
  | inside, c :: rest =>
    if endsAuthority k c ∨ (c = ':' ∧ !inside) then []
    else c :: hostSpan k (if c = '[' then true else if c = ']' then false else inside) rest

def readAuthority (scheme s : List Char) : Except AddressFault (Authority × List Char) := do
  let k := kindOf scheme
  let (info, rest) := cutUserinfo k s
  if info = some [] ∧ rest.head?.any (endsAuthority k) then throw .emptyHost
  let (user, password) := readUserinfo (info.getD [])
  let span := hostSpan k false rest
  let rest := rest.drop span.length
  if k ≠ .plain ∧ span = [] then throw .emptyHost
  let host ← Host.read k span
  if host = [] ∧ rest.head? = some ':' then throw .emptyHost
  let (port, rest) ← if rest.head? = some ':' then readPort scheme (rest.drop 1)
    else .ok (none, rest)
  if host = [] ∧ ¬ (user = [] ∧ password = []) then throw .emptyHost
  return (⟨user, password, host, port⟩, rest)

def readAfterSlashes (scheme s : List Char) : Except AddressFault Address := do
  let (authority, rest) ← readAuthority scheme s
  let (path, _, rest) := Path.readAfterHost (kindOf scheme) rest
  return build scheme (some authority) path rest

def withFragment (base : Address) (s : List Char) : Address :=
  { base with fragment := some (Percent.encode Escapes.inFragment s) }

/-- Reads a text without a scheme against a base that is no file. -/
def readRelative (base : Address) (s : List Char) : Except AddressFault Address :=
  let k := base.kind
  match s with
  | [] => .ok { base with fragment := none }
  | '?' :: _ => .ok (build base.scheme base.authority base.path s)
  | '#' :: rest => .ok (base.withFragment rest)
  | c :: rest =>
    if c = '/' ∨ c = '\\' then
      match rest with
      | d :: below =>
        if d = '/' ∨ d = '\\' then
          if c = '/' ∧ d = '/' then readAfterSlashes base.scheme below
          else readAfterSlashes base.scheme (s.dropWhile fun c => c == '/' || c == '\\')
        else
          let (path, _, rest) := Path.read k ['/'] rest
          .ok (build base.scheme base.authority path rest)
      | [] => .ok (build base.scheme base.authority ['/'] [])
    else
      let start := Path.pop k base.path
      let (path, _, rest) := Path.read k (if start = [] then ['/'] else start) s
      .ok (build base.scheme base.authority path rest)

def fileScheme : List Char := "file".toList

def buildFile (host path rest : List Char) : Address :=
  build fileScheme (some { Authority.blank with host }) path rest

/-- A file address without a host, its path read behind a slash. -/
def readLocalFile (s : List Char) : Address :=
  let (path, _, rest) := Path.read .file ['/'] s
  buildFile [] path rest

/-- Reads what follows the two slashes of a file address. A drive letter in the place of the host
belongs to the path, and a drive letter behind a host takes the host away. -/
def readFileHost (s : List Char) : Except AddressFault Address := do
  let span := s.takeWhile fun c => !endsAuthority .file c
  if Path.isDrive span then return readLocalFile s
  let rest := s.drop span.length
  if span = [] then return readLocalFile rest
  let host ← Host.readName span
  if host = "localhost".toList then return readLocalFile rest
  let (path, hostless, rest) := Path.readAfterHost .file rest
  return buildFile (if hostless then [] else host) path rest

/-- The first segment of a path. -/
def firstSegment (path : List Char) : List Char := (path.drop 1).takeWhile (· != '/')

def hostOf (base : Option Address) : List Char :=
  ((base.bind (·.authority)).map (·.host)).getD []

def readFile (base : Option Address) (s : List Char) : Except AddressFault Address :=
  let isSlash := fun c => c == '/' || c == '\\'
  match s.head?.any isSlash, (s.drop 1).head?.any isSlash with
  | true, true => readFileHost (s.drop 2)
  | true, false =>
    let drive := firstSegment ((base.map (·.path)).getD [])
    if startsWithDrive (s.drop 1) then
      let (path, _, rest) := Path.read .file [] s
      .ok (buildFile [] path rest)
    else if isNormalDrive drive then
      let (path, _, rest) := Path.read .file ('/' :: drive) s
      .ok (buildFile [] path rest)
    else
      let (path, _, rest) := Path.read .file [] s
      .ok (buildFile (hostOf base) path rest)
  | false, _ =>
    match base with
    | none => .ok (readLocalFile s)
    | some base =>
      match s with
      | [] => .ok { base with fragment := none }
      | '?' :: _ => .ok (build base.scheme base.authority base.path s)
      | '#' :: rest => .ok (base.withFragment rest)
      | _ =>
        if startsWithDrive s then .ok (readLocalFile s)
        else
          let (path, _, rest) := Path.read .file (Path.pop .file base.path) s
          .ok (build base.scheme base.authority path rest)

def readPlain (scheme s : List Char) : Except AddressFault Address :=
  match s with
  | '/' :: '/' :: rest => readAfterSlashes scheme rest
  | '/' :: rest =>
    let (path, _, rest) := Path.read .plain ['/'] rest
    .ok (build scheme none path rest)
  | _ =>
    let path := s.takeWhile fun c => c != '?' && c != '#'
    .ok (build scheme none (Percent.encode Escapes.control path) (s.drop path.length))

def readWithScheme (base : Option Address) (scheme s : List Char) : Except AddressFault Address :=
  let base := base.filter (·.scheme = scheme)
  match kindOf scheme with
  | .file => readFile base s
  | .special =>
    let isSlash := fun c => c == '/' || c == '\\'
    match base with
    | some base =>
      if (s.takeWhile isSlash).length < 2 then readRelative base s
      else readAfterSlashes scheme (s.dropWhile isSlash)
    | none => readAfterSlashes scheme (s.dropWhile isSlash)
  | .plain => readPlain scheme s

def readWithoutScheme (base : Option Address) (s : List Char) : Except AddressFault Address :=
  match base, s with
  | none, _ => .error .noBase
  | some base, '#' :: rest => .ok (base.withFragment rest)
  | some base, _ =>
    if base.isRootless then .error .rootlessBase
    else if base.kind = .file then readFile (some base) s
    else readRelative base s

/-- Reads cleaned text, with or without a base. -/
def resolve (base : Option Address) (s : List Char) : Except AddressFault Address :=
  match cutScheme s with
  | some (scheme, rest) => readWithScheme base scheme rest
  | none => readWithoutScheme base s

def read (s : String) : Except AddressFault Address := resolve none (cleaned s.toList)

/-- The address that a text stands for as a link on the page `base`. -/
def join (base : Address) (s : String) : Except AddressFault Address :=
  resolve (some base) (cleaned s.toList)

end TicketLogin.Address
