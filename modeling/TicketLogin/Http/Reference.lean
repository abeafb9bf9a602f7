import TicketLogin.Address.Ipv6

/-!
# References of the generic address grammar

Servers redirect by references in the strict grammar of generic addresses: only ASCII characters
that the grammar allows, every percent sign before two digits, nothing repaired. A reference is
resolved against an absolute one part by part; dot segments are taken out of the path.
-/

namespace TicketLogin.Http

structure Reference where
  scheme : Option (List Char)
  authority : Option (List Char)
  path : List Char
  query : Option (List Char)
  fragment : Option (List Char)
  deriving DecidableEq, Repr

namespace Reference

def isUnreserved (c : Char) : Bool := c.isAlphanum || "-._~".toList.contains c
def isDelimiter (c : Char) : Bool := "!$&'()*+,;=".toList.contains c

/-- Whether a text holds allowed characters, unreserved ones, and percent triples only. -/
def allAllowed (extra : Char → Bool) : List Char → Bool
  | [] => true
  | '%' :: a :: b :: rest => (Percent.pair? a b).isSome && allAllowed extra rest
  | c :: rest => c != '%' && (isUnreserved c || isDelimiter c || extra c) && allAllowed extra rest

def inUserinfo (c : Char) : Bool := c == ':'
def inPath (c : Char) : Bool := c == ':' || c == '@' || c == '/'
def inQuery (c : Char) : Bool := inPath c || c == '?'

structure Parts where
  userinfo : Option (List Char)
  host : List Char
  port : Option (List Char)
  deriving DecidableEq, Repr

def cutAuthority (s : List Char) : Parts :=
  let (userinfo, rest) := match Text.cutAt '@' s with
    | (info, some rest) => (some info, rest)
    | (_, none) => (none, s)
  if rest.head? = some '[' then
    let host := rest.takeWhile (· != ']') ++ [']']
    let after := (rest.dropWhile (· != ']')).drop 1
    ⟨userinfo, host, if after = [] then none else some after⟩
  else
    let (host, port) := Text.cutAt ':' rest
    ⟨userinfo, host, port.map (':' :: ·)⟩

/-- Whether the colon and digits behind a host are a port, which may be empty. -/
def isPort : List Char → Bool
  | ':' :: ds => ds.all Char.isDigit
  | _ => false

def isHost (s : List Char) : Bool :=
  if s.head? = some '[' then
    s.getLast? == some ']' && (Ipv6.read? (s.drop 1).dropLast).isSome
  else allAllowed (fun _ => false) s

def isAuthority (s : List Char) : Bool :=
  let p := cutAuthority s
  p.userinfo.all (allAllowed inUserinfo) && isHost p.host && p.port.all isPort

def isScheme (s : List Char) : Bool :=
  s.head?.any Char.isAlpha && s.all fun c => c.isAlphanum || c == '+' || c == '-' || c == '.'

/-- The scheme before the first colon, if that stands in the first segment. -/
def cutScheme (s : List Char) : Option (List Char) × List Char :=
  let first := s.takeWhile (· != '/')
  if first.contains ':' then
    ((some (first.takeWhile (· != ':'))), (s.dropWhile (· != ':')).drop 1)
  else (none, s)

def cutSlashes : List Char → Option (List Char) × List Char
  | '/' :: '/' :: rest => (some (rest.takeWhile (· != '/')), rest.dropWhile (· != '/'))
  | s => (none, s)

def read? (s : List Char) : Option Reference :=
  let (s, fragment) := Text.cutAt '#' s
  let (s, query) := Text.cutAt '?' s
  let (scheme, s) := cutScheme s
  let (authority, path) := cutSlashes s
  if scheme.all isScheme && authority.all isAuthority && allAllowed inPath path
      && query.all (allAllowed inQuery) && fragment.all (allAllowed inQuery) then
    some ⟨scheme, authority, path, query, fragment⟩
  else none

/-- Takes dot segments out of the segments behind the first slash; `acc` is in reverse. A dot
segment at the end leaves an empty one. -/
def withoutDots (acc : List (List Char)) : List (List Char) → List (List Char)
  | [] => acc.reverse
  | [['.']] => withoutDots acc [[]]
  | [['.', '.']] => withoutDots (acc.drop 1) [[]]
  | ['.'] :: rest => withoutDots acc rest
  | ['.', '.'] :: rest => withoutDots (acc.drop 1) rest
  | seg :: rest => withoutDots (seg :: acc) rest
termination_by segments => sizeOf segments

def removeDots (path : List Char) : List Char :=
  match path with
  | '/' :: rest => '/' :: Text.joinWith '/' (withoutDots [] (Text.splitOn '/' rest))
  | _ => path

/-- The path of a base up to its last slash, and a relative path behind it. -/
def merge (base : Reference) (path : List Char) : List Char :=
  if base.authority.isSome ∧ base.path = [] then '/' :: path
  else (base.path.reverse.dropWhile (· != '/')).reverse ++ path

def resolve (base r : Reference) : Reference :=
  match r.scheme, r.authority with
  | some _, _ => { r with path := removeDots r.path }
  | none, some _ => { r with scheme := base.scheme, path := removeDots r.path }
  | none, none =>
    { scheme := base.scheme
      authority := base.authority
      path :=
        if r.path = [] then base.path
        else if r.path.head? = some '/' then removeDots r.path
        else removeDots (merge base r.path)
      query := if r.path = [] ∧ r.query = none then base.query else r.query
      fragment := r.fragment }

end Reference

end TicketLogin.Http
