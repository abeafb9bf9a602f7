import TicketLogin.Json.Token
import TicketLogin.Json.Value
import TicketLogin.Text.Utf8

/-!
# Reading JSON texts

`Value.parse` reads a text to the value that it writes down, unreadable parts included; `Value.read?`
accepts it only if all of it is readable and nests at most 127 deep.
-/

namespace TicketLogin.Json

def recordOf (fields : List (Option String × Value)) : Value :=
  match fields.mapM fun f => f.1.map fun name => (name, f.2) with
  | some fields => .record fields
  | none => .unreadable

mutual

/-- The value at the front of the tokens, and what follows it. `fuel` bounds the tokens read. -/
def takeValue : Nat → List Token → Option (Value × List Token)
  | 0, _ => none
  | _ + 1, [] => none
  | fuel + 1, t :: rest =>
    match t with
    | .null => some (.null, rest)
    | .bool b => some (.bool b, rest)
    | .number n => some ((n.map Value.number).getD .unreadable, rest)
    | .text s => some ((s.map Value.text).getD .unreadable, rest)
    | .openList =>
      match rest with
      | .closeList :: rest => some (.list [], rest)
      | _ => (takeItems fuel rest).map fun (items, rest) => (.list items, rest)
    | .openRecord =>
      match rest with
      | .closeRecord :: rest => some (.record [], rest)
      | _ => (takeFields fuel rest).map fun (fields, rest) => (recordOf fields, rest)
    | _ => none

def takeItems : Nat → List Token → Option (List Value × List Token)
  | 0, _ => none
  | fuel + 1, s =>
    match takeValue fuel s with
    | some (v, .comma :: rest) =>
      (takeItems fuel rest).map fun (items, rest) => (v :: items, rest)
    | some (v, .closeList :: rest) => some ([v], rest)
    | _ => none

def takeFields : Nat → List Token → Option (List (Option String × Value) × List Token)
  | 0, _ => none
  | fuel + 1, s =>
    match s with
    | .text name :: .colon :: rest =>
      match takeValue fuel rest with
      | some (v, .comma :: rest) =>
        (takeFields fuel rest).map fun (fields, rest) => ((name, v) :: fields, rest)
      | some (v, .closeRecord :: rest) => some ([(name, v)], rest)
      | _ => none
    | _ => none

end

namespace Value

def parse (s : List Char) : Option Value := do
  let ts ← Token.tokens s
  match ← takeValue (2 * ts.length + 1) ts with
  | (v, []) => some v
  | _ => none

def depthLimit : Nat := 127

def read? (s : List Char) : Option Value :=
  (parse s).filter (isSound depthLimit)

def ofBytes? (bytes : List UInt8) : Option Value := (Utf8.decode? bytes).bind read?

end Value

end TicketLogin.Json
