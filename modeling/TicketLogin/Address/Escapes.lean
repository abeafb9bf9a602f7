import TicketLogin.Text.Percent
import TicketLogin.Address.Basic

/-!
# Escaped characters

Which characters are written as percent triples in each part of an address. Characters beyond
ASCII and controls are escaped everywhere; the classes for fragment, path and user information
grow from one to the next.
-/

namespace TicketLogin.Address.Escapes

/-- Controls and everything beyond ASCII. -/
def control (c : Char) : Bool := c.toNat < 0x20 || 0x7F ≤ c.toNat

/-- Space, double quote, angle brackets and the grave accent. -/
def inFragment (c : Char) : Bool :=
  control c || c == ' ' || c == '"' || c == '<' || c == '>' || c.toNat == 0x60

/-- Beside those of a fragment, the number sign, the question mark and braces. -/
def inPath (c : Char) : Bool :=
  inFragment c || c == '#' || c == '?' || c.toNat == 0x7B || c.toNat == 0x7D

def inUserinfo (c : Char) : Bool :=
  inPath c || "/:;=@[\\]^|".toList.contains c

/-- In a query the grave accent stays, and the apostrophe is escaped for special schemes only. -/
def inQuery (k : Kind) (c : Char) : Bool :=
  control c || c == ' ' || c == '"' || c == '#' || c == '<' || c == '>'
    || (c == '\'' && k != .plain)

end TicketLogin.Address.Escapes
