/-!
# TOML items

An item is a value or a table. Tables remember how they came about, because that decides what later
lines may add: a table that only lies on the way of a header may still get a header of its own, and
dotted names reach into tables that dotted names or the way of a header have made. A value is closed.
-/

namespace TicketLogin.Toml

inductive Origin
  /-- By a header of its own. -/
  | header
  /-- On the way of another header. -/
  | way
  /-- By dotted names. -/
  | dotted
  deriving DecidableEq, Repr

inductive Item
  | text (s : String)
  /-- A number or truth value, which nothing here needs to know. -/
  | scalar
  /-- A date, a time, or both. -/
  | moment
  | list (items : List Item)
  /-- A table written as a value. -/
  | inline (fields : List (String × Item))
  | table (origin : Origin) (fields : List (String × Item))
  /-- Tables of one name, each with a header of its own. -/
  | tables (elements : List (List (String × Item)))

abbrev Fields := List (String × Item)

namespace Fields

def get? (fields : Fields) (name : String) : Option Item := fields.lookup name

def has (fields : Fields) (name : String) : Bool := (get? fields name).isSome

def set (fields : Fields) (name : String) (item : Item) : Fields :=
  fields.map fun f => if f.1 = name then (name, item) else f

abbrev Change := Origin → Fields → Option Fields

/-- Changes the table that a way of names leads to, making tables that are missing; of several tables
of one name the last is entered. Dotted names do not enter a table with a header. -/
def descend (dotted : Bool) (change : Change) : List String → Origin → Fields → Option Fields
  | [], origin, fields => change origin fields
  | name :: rest, _, fields =>
    match get? fields name with
    | none =>
      let origin := if dotted then .dotted else .way
      (descend dotted change rest origin []).map fun inner =>
        fields ++ [(name, .table origin inner)]
    | some (.table origin inner) =>
      if dotted ∧ origin = .header then none
      else
        (descend dotted change rest origin inner).map fun inner =>
          set fields name (.table origin inner)
    | some (.tables elements) =>
      elements.getLast?.bind fun last =>
        (descend dotted change rest .header last).map fun last =>
          set fields name (.tables (elements.dropLast ++ [last]))
    | some _ => none

def add (name : String) (item : Item) (isDotted : Bool) : Change := fun origin fields =>
  if decide (origin = .dotted) != isDotted || has fields name then none
  else some (fields ++ [(name, item)])

def addDotted (way : List String) (name : String) (item : Item) : Change :=
  descend true (add name item (way ≠ [])) way

def openTable (name : String) : Change := fun _ fields =>
  match get? fields name with
  | none => some (fields ++ [(name, .table .header [])])
  | some (.table .way inner) => some (set fields name (.table .header inner))
  | some _ => none

def openElement (name : String) : Change := fun _ fields =>
  match get? fields name with
  | none => some (fields ++ [(name, .tables [[]])])
  | some (.tables elements) => some (set fields name (.tables (elements ++ [[]])))
  | some _ => none

end Fields

end TicketLogin.Toml
