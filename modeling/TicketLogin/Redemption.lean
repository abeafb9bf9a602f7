import TicketLogin.Json.Value
import TicketLogin.Session.Basic
import TicketLogin.Ticket.Basic

/-!
# Redemption

What comes of a redeemed ticket: a grant of credentials, or one of four failures. Servers disagree
on the form of their answer, so `Grant.ofAnswer` alone decides what an answer means. A code of 0 or
200 is a success, and so is a missing code beside a token; a success needs both an authorization
value and a token.
-/

namespace TicketLogin

inductive TransportFault
  | endpoint (endpoint : String) (fault : AddressFault)
  | connection
  | described (detail : String)
  deriving DecidableEq, Repr

def TransportFault.detail : TransportFault → String
  | .endpoint target fault => s!"invalid ticket login URL {target}: {fault.message}"
  | .connection => "no complete answer"
  | .described detail => detail

/-- Why a ticket did not lead to a stored session. -/
inductive RedemptionFailure
  | transport (fault : TransportFault)
  | missingCredentials
  | rejected (message : Option String)
  | persistence (detail : String)
  deriving DecidableEq, Repr

namespace RedemptionFailure

def display : RedemptionFailure → String
  | .transport fault => s!"Ticket exchange request failed: {fault.detail}"
  | .missingCredentials => "Ticket exchange response is missing credentials"
  | .rejected message => "Ticket exchange rejected: " ++ message.getD "no message"
  | .persistence detail => s!"Failed to persist session: {detail}"

/-- The notice that the user sees; a server's own message if it gave one. -/
def notice : RedemptionFailure → String
  | .transport _ => "Ticket login failed"
  | .missingCredentials => "Ticket login response missing token"
  | .rejected message => message.getD "Ticket login failed"
  | .persistence _ => "Failed to save login session"

end RedemptionFailure

structure Grant where
  authorization : String
  accessToken : String
  userId : Option String
  displayName : Option String
  avatar : Option String
  deriving DecidableEq, Repr

namespace Grant

/-- The session of a grant. The user is named by the display name, else by the id, which also stands
for the email address. -/
def session (g : Grant) : Session :=
  let id := g.userId.getD ""
  ⟨g.authorization, g.accessToken,
    ⟨g.avatar, (g.displayName.filter (· ≠ "")).getD id, id⟩⟩

/-- A field that is a text or a number. An empty text counts as missing. -/
def textField (payload : Json.Value) (name : String) : Option String :=
  match payload.get? name with
  | some (.text s) => if s = "" then none else some s
  | some (.number n) => some (String.ofList n.text)
  | _ => none

/-- A field that is there and not null. -/
def presentField (v : Json.Value) (name : String) : Option Json.Value :=
  (v.get? name).filter fun field => !field.isNull

def isSuccess : Json.Value → Bool
  | .number n => n.int64? == some 0 || n.int64? == some 200
  | _ => false

/-- The credentials and the user in the payload of an answer, which is its `data`, if there is any,
or else the whole. -/
def payload (answer : Json.Value) : Json.Value := (presentField answer "data").getD answer

def displayNameOf (payload : Json.Value) : Option String :=
  match presentField payload "userName" with
  | some _ => textField payload "userName"
  | none => textField payload "username"

def ofAnswer (answer : Json.Value) (header : Option String) : Except RedemptionFailure Grant :=
  let payload := payload answer
  let token := textField payload "access_token"
  let succeeded := match answer.get? "code" with
    | none => token.isSome
    | some code => isSuccess code
  if succeeded then
    match token with
    | none => .error .missingCredentials
    | some token =>
      .ok
        { authorization := (header.filter (· ≠ "")).getD ("Bearer " ++ token)
          accessToken := token
          userId := textField payload "uid"
          displayName := displayNameOf payload
          avatar := (payload.get? "avatar").bind (·.text?) }
  else .error (.rejected (((answer.get? "message").bind (·.text?)).filter (· ≠ "")))

end Grant

end TicketLogin
