import TicketLogin.Json.Reader
import TicketLogin.Json.Writer
import TicketLogin.Session.Basic
import TicketLogin.Session.Items

/-!
# The stored form of a session

A session is three items: the authorization value, the access token, and the identity as a JSON
record. Items are a session when the authorization value is there and not empty. An identity is read
from a record with each of its names at most once, or from a list of its values in order; other
names are passed over.
-/

namespace TicketLogin

namespace Identity

/-- The fields of an identity; an absent avatar is left out. -/
def fields (i : Identity) : List (String × String) :=
  (match i.avatar with
    | none => []
    | some a => [("avatar", a)]) ++ [("name", i.name), ("email", i.email)]

def text (i : Identity) : String := String.ofList (Json.compact i.fields)

/-- The avatar of a value: a text, or null for none. -/
def avatarOf? : Json.Value → Option (Option String)
  | .text s => some (some s)
  | .null => some none
  | _ => none

def occurrences (name : String) (fields : List (String × Json.Value)) : Nat :=
  fields.countP fun f => f.1 = name

/-- A field read in a way of its own, or its default where the field is missing. -/
def fieldOr? {α : Type} (default : α) (read : Json.Value → Option α) (name : String)
    (fields : List (String × Json.Value)) : Option α :=
  match Json.Value.lookup name fields with
  | none => some default
  | some v => read v

def ofFields? (fields : List (String × Json.Value)) : Option Identity := do
  if ["avatar", "name", "email"].any fun name => 1 < occurrences name fields then none
  let avatar ← fieldOr? none avatarOf? "avatar" fields
  let name ← fieldOr? "" Json.Value.text? "name" fields
  let email ← fieldOr? "" Json.Value.text? "email" fields
  return ⟨avatar, name, email⟩

/-- The identity in a list of its values, of which the last may be missing. -/
def ofItems? : List Json.Value → Option Identity
  | [] => some blank
  | [a] => (avatarOf? a).map fun a => { blank with avatar := a }
  | [a, n] =>
    match avatarOf? a, n.text? with
    | some a, some n => some { blank with avatar := a, name := n }
    | _, _ => none
  | [a, n, e] =>
    match avatarOf? a, n.text?, e.text? with
    | some a, some n, some e => some ⟨a, n, e⟩
    | _, _, _ => none
  | _ => none

def read? (s : String) : Option Identity :=
  match Json.Value.parse s.toList with
  | some (.record fields) => ofFields? fields
  | some (.list items) => ofItems? items
  | _ => none

end Identity

namespace Session

def authorizationName : String := "Authorization"
def tokenName : String := "Token"
def identityName : String := "userInfo"

def itemNames : List String := [authorizationName, tokenName, identityName]

def toFields (s : Session) : List (String × String) :=
  [(authorizationName, s.authorization), (tokenName, s.accessToken),
    (identityName, s.identity.text)]

end Session

namespace Items

/-- The authorization value, if there is one that is not empty. -/
def authorization? (items : Items) : Option String :=
  (items.get? Session.authorizationName).filter (· ≠ "")

/-- The identity in the items; blank if there is no text for it. -/
def identity? (items : Items) : Option Identity :=
  match items.get? Session.identityName with
  | none => some .blank
  | some s => if s = "" then some .blank else Identity.read? s

def putSession (items : Items) (s : Session) : Items := items.insertAll s.toFields

def dropSession (items : Items) : Items := items.eraseAll Session.itemNames

def hasSessionItem (items : Items) : Bool :=
  Session.itemNames.any fun name => (items.get? name).isSome

end Items

end TicketLogin
