import TicketLogin.Text.Utf8

/-!
# Sessions

A session is an authorization value, an access token and the identity of the user. Tokens are shown
masked: at most their first twelve bytes, and those only if the token is longer than sixteen.
-/

namespace TicketLogin

structure Identity where
  avatar : Option String
  name : String
  email : String
  deriving DecidableEq, Repr

namespace Identity

def blank : Identity := ⟨none, "", ""⟩

def shown (i : Identity) : String :=
  if i.name = "" then (if i.email = "" then "unknown user" else i.email)
  else if i.email = "" ∨ i.email = i.name then i.name
  else s!"{i.name} <{i.email}>"

end Identity

structure Session where
  authorization : String
  accessToken : String
  identity : Identity
  deriving DecidableEq, Repr

namespace AccessToken

/-- The characters that fill exactly the first `n` bytes; none if a character straddles them. -/
def firstBytes : Nat → List Char → Option (List Char)
  | 0, _ => some []
  | _ + 1, [] => none
  | n + 1, c :: rest =>
    let size := (Utf8.encodeChar c).length
    if size ≤ n + 1 then (firstBytes (n + 1 - size) rest).map (c :: ·) else none

def size (s : List Char) : Nat := (Utf8.encode s).length

def masked (token : String) : String :=
  let s := token.toList
  if size s ≤ 16 then "***"
  else
    match firstBytes 12 s with
    | some front => String.ofList (front ++ ['.', '.', '.'])
    | none => "***"

end AccessToken

end TicketLogin
