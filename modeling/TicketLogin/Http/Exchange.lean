import TicketLogin.Http.Reference
import TicketLogin.Json.Reader
import TicketLogin.Page.Basic
import TicketLogin.Text.Base64

/-!
# Redemption over HTTP

A ticket is redeemed by a plain request to its redemption address. The replies of the server are a
list, one for each request; a server that has none left closes the connection. If an address asks
for a secure connection, the network decides whether one comes about, and without it nothing is
sent. Redirects are followed, ten at most. What counts in the end is the body of the last reply, read
as JSON, and its first `Authorization` header; a body that is no JSON counts as an empty record.
-/

namespace TicketLogin.Http

/-- A reply; `missing` bytes of its announced body never come. -/
structure Reply where
  status : Nat
  headers : List (String × List UInt8)
  body : List UInt8
  dropped : Bool
  missing : Nat
  deriving DecidableEq, Repr

/-- What there is to be asked: the replies, in the order in which they come, and the hosts and ports
to which a secure connection comes about. -/
structure Network where
  replies : List Reply
  secures : List Char → Option Nat → Bool

def Network.offline : Network := ⟨[], fun _ _ => false⟩

/-- Replies alone come over a network without secure connections. -/
instance : Coe (List Reply) Network := ⟨fun replies => ⟨replies, fun _ _ => false⟩⟩

/-- Where a request goes: over a secure connection or not, a host, a port other than the usual one,
and a path with its query. -/
structure Target where
  secure : Bool
  host : List Char
  port : Option Nat
  path : List Char
  deriving DecidableEq, Repr

structure Request where
  target : Target
  authorization : Option String
  deriving DecidableEq, Repr

/-- Whether a scheme is the secure one of the two of HTTP. -/
def secure? (scheme : List Char) : Option Bool :=
  if scheme = "http".toList then some false
  else if scheme = "https".toList then some true
  else none

namespace Target

def scheme (t : Target) : List Char := if t.secure then "https".toList else "http".toList

def usualPort (t : Target) : Nat := if t.secure then 443 else 80

def textWith (userinfo : List Char) (t : Target) : List Char :=
  t.scheme ++ "://".toList ++ userinfo ++ t.host ++
    (match t.port with
      | none => []
      | some p => ':' :: Nat.toDigits 10 p) ++ t.path

def text (t : Target) : String := String.ofList (t.textWith [])

def reference? (userinfo : List Char) (t : Target) : Option Reference :=
  Reference.read? (t.textWith userinfo)

end Target

/-- Whether a request to a target can be sent at all. -/
def Network.reaches (n : Network) (t : Target) : Bool := !t.secure || n.secures t.host t.port

/-- Redemptions are read, never sent. -/
def Request.method (_ : Request) : String := "GET"

def Request.url (r : Request) : String := r.target.text

/-- The name and password of an address in the basic scheme of HTTP, if they are text. A password
that is no text is left out. -/
def basicAuthorization (a : Authority) : Option String := do
  let user ← Utf8.decode? (Percent.decode a.user)
  let password := Utf8.decode? (Percent.decode a.password)
  if user = [] ∧ (a.password = [] ∨ password = none) then none
  let pair := user ++ ':' :: password.getD []
  return "Basic " ++ String.ofList (Base64.encode (Utf8.encode pair))

/-- Characters that a host may hold in an address but not in a request. -/
def isUnsendable (c : Char) : Bool :=
  c == '"' || c.toNat == 0x60 || c.toNat == 0x7B || c.toNat == 0x7D

/-- The first request for an address, if it is one of HTTP. -/
def firstRequest? (a : Address) : Option Request := do
  let h ← a.authority
  let secure ← secure? a.scheme
  if h.host.any isUnsendable then none
  return ⟨⟨secure, h.host, h.port, a.path ++ Address.marked '?' a.query⟩, basicAuthorization h⟩

/-- The first request for an address, if it can be sent. -/
def Network.firstRequest? (n : Network) (a : Address) : Option Request :=
  (Http.firstRequest? a).filter fun request => n.reaches request.target

def keptUserinfo (a : Address) : List Char :=
  match a.authority with
  | some h => if (basicAuthorization h).isSome then [] else h.userinfo
  | none => []

/-- The values of headers of a name, whose case does not matter. -/
def headers (r : Reply) (name : String) : List (List UInt8) :=
  (r.headers.filter fun h => h.1.toList.map Char.toLower = name.toList).map (·.2)

/-- A value without spaces and tabs around it. -/
def trimmed (value : List UInt8) : List UInt8 :=
  let isSpace := fun b : UInt8 => b == 32 || b == 9
  ((value.dropWhile isSpace).reverse.dropWhile isSpace).reverse

/-- The first value of a header, without the space around it. -/
def firstHeader? (r : Reply) (name : String) : Option (List UInt8) :=
  (headers r name).head?.map trimmed

def visibleText? (value : List UInt8) : Option String :=
  if value.all fun b => b == 9 || (32 ≤ b && b < 127) then
    some (String.ofList (value.map fun b => Char.ofNat b.toNat))
  else none

def authorization? (r : Reply) : Option String :=
  (firstHeader? r "authorization").bind visibleText?

/-- Whether a reply cannot be read: nothing came, only news of a reply to come, or a header holds
controls. -/
def isBroken (r : Reply) : Bool :=
  r.dropped || (100 ≤ r.status && r.status < 200 && r.status != 101) ||
    r.headers.any fun h => h.2.any fun b => (b < 32 && b != 9) || b == 127

def isBodiless (r : Reply) : Bool := [101, 204, 304].contains r.status

def isRedirect (r : Reply) : Bool := [301, 302, 303, 307, 308].contains r.status

def body? (r : Reply) : Option (List UInt8) :=
  if isBodiless r then some [] else if 0 < r.missing then none else some r.body

/-- What a last reply comes to. -/
def conclude (r : Reply) : Answer :=
  match body? r with
  | none => .error (.transport .connection)
  | some body =>
    Grant.ofAnswer ((Json.Value.ofBytes? body).getD (.record [])) (authorization? r)

inductive Redirection
  /-- Nowhere that could be asked, so that the reply is the last one. -/
  | stays
  /-- To something that is no address of HTTP, neither of the plain nor of the secure one. -/
  | unusable
  | leads (base : Reference) (target : Target)

def portNumber (s : List Char) : Option Nat :=
  let ds := s.drop 1
  if ds = [] then none else some (ds.foldl (fun n c => n * 10 + (c.toNat - 48)) 0)

def redirectionTo (r : Reference) : Redirection :=
  match r.scheme, r.authority with
  | some scheme, some authority =>
    let parts := Reference.cutAuthority authority
    if parts.host = [] ∨ parts.host.contains '%' then .stays
    else
      match secure? (scheme.map Char.toLower) with
      | none => .unusable
      | some secure =>
        let path := if r.path = [] then ['/'] else r.path
        let target : Target :=
          ⟨secure, parts.host, parts.port.bind portNumber, path ++ Address.marked '?' r.query⟩
        .leads { r with scheme := some target.scheme, path, fragment := none }
          { target with port := target.port.filter (· ≠ target.usualPort) }
  | some scheme, none =>
    let whole := scheme ++ ':' :: r.path
    if r.path.contains '/' ∨ r.query.isSome ∨ r.fragment.isSome ∨ whole.getLast? = some '@'
        ∨ 1 < (whole.reverse.takeWhile (· != '@')).count ':'
        ∨ (whole.reverse.takeWhile (· != '@')).contains '%' then .stays
    else .unusable
  | none, _ => .stays

def redirection (base : Option Reference) (r : Reply) : Redirection :=
  match base, (firstHeader? r "location").bind Utf8.decode? with
  | some base, some location =>
    match Reference.read? location with
    | some reference => redirectionTo (base.resolve reference)
    | none => .stays
  | _, _ => .stays

def origin? (t : Target) : Option (List Char × Nat) :=
  match Address.read t.text with
  | .ok a => a.authority.map fun h => (h.host, h.port.getD t.usualPort)
  | .error _ => none

def redirectLimit : Nat := 10

/-- Sends a request and follows redirects: what comes of it, and the requests sent. Credentials go
along only as long as host and port stay. -/
def follow (reaches : Target → Bool) (base : Option Reference) (request : Request)
    (followed : Nat) : List Reply → Answer × List Request
  | [] => (.error (.transport .connection), [request])
  | r :: rest =>
    if isBroken r then (.error (.transport .connection), [request])
    else if isRedirect r then
      match redirection base r with
      | .stays => (conclude r, [request])
      | .unusable => (.error (.transport .connection), [request])
      | .leads base target =>
        match origin? target with
        | none => (.error (.transport .connection), [request])
        | some origin =>
          if redirectLimit ≤ followed ∨ reaches target = false then
            (.error (.transport .connection), [request])
          else
            let authorization :=
              if origin? request.target = some origin then request.authorization else none
            let (answer, requests) :=
              follow reaches (some base) ⟨target, authorization⟩ (followed + 1) rest
            (answer, request :: requests)
    else (conclude r, [request])

def redeem (endpoint : String) (ticket : Ticket) (page : Address) (network : Network) :
    Answer × List Request :=
  match page.redemption endpoint ticket with
  | .error fault => (.error (.transport (.endpoint endpoint fault)), [])
  | .ok address =>
    match network.firstRequest? address with
    | none => (.error (.transport .connection), [])
    | some request =>
      follow network.reaches (request.target.reference? (keptUserinfo address)) request 0
        network.replies

end TicketLogin.Http
