import TicketLogin.Json.Number

/-!
# JSON values

A record keeps its fields in the order of the text, and of fields with one name the last one counts.
A number out of range, text with half a surrogate pair, and a record with such a name are
`unreadable`: a reader that needs the value refuses it, one that passes over it need not.
-/

namespace TicketLogin.Json

inductive Value
  | null
  | bool (b : Bool)
  | number (n : Number)
  | text (s : String)
  | list (items : List Value)
  | record (fields : List (String × Value))
  | unreadable

namespace Value

/-- The last field of a name. -/
def lookup (name : String) (fields : List (String × Value)) : Option Value :=
  (fields.reverse.find? fun f => f.1 = name).map (·.2)

/-- A field of a record. Other values have none. -/
def get? (v : Value) (name : String) : Option Value :=
  match v with
  | .record fields => lookup name fields
  | _ => none

def isNull : Value → Bool
  | .null => true
  | _ => false

def text? : Value → Option String
  | .text s => some s
  | _ => none

mutual

/-- Whether all of a value is readable and its lists and records nest at most `depth` deep. -/
def isSound (depth : Nat) : Value → Bool
  | .list items => 0 < depth && allSound (depth - 1) items
  | .record fields => 0 < depth && fieldsSound (depth - 1) fields
  | .unreadable => false
  | _ => true

def allSound (depth : Nat) : List Value → Bool
  | [] => true
  | v :: rest => v.isSound depth && allSound depth rest

def fieldsSound (depth : Nat) : List (String × Value) → Bool
  | [] => true
  | (_, v) :: rest => v.isSound depth && fieldsSound depth rest

end

end Value

end TicketLogin.Json
