import TicketLogin.Text.Blank
import TicketLogin.Text.Percent
import TicketLogin.Address.Basic

/-!
# Query pairs

A query is read as a list of named values in the form encoding: pairs stand between `&`, a name
ends at the first `=`, and empty pairs are passed over.
-/

namespace TicketLogin

abbrev Pair := List Char × List Char

namespace Pair

def ofText (s : List Char) : Pair :=
  let (name, value) := Text.cutAt '=' s
  (Percent.formDecode name, Percent.formDecode (value.getD []))

def text (p : Pair) : List Char := Percent.formEncode p.1 ++ '=' :: Percent.formEncode p.2

end Pair

namespace Address

def readPairs (query : List Char) : List Pair :=
  ((Text.splitOn '&' query).filter (· ≠ [])).map Pair.ofText

def writePairs (pairs : List Pair) : List Char := Text.joinWith '&' (pairs.map Pair.text)

def pairs (a : Address) : List Pair := (a.query.map readPairs).getD []

/-- The address with a query of these pairs, written out even if there are none. -/
def withPairs (a : Address) (pairs : List Pair) : Address :=
  { a with query := some (writePairs pairs) }

/-- The address with one more pair. The text of its query stays in front. -/
def addPair (a : Address) (p : Pair) : Address :=
  let before := a.query.getD []
  { a with query := some (if before = [] then p.text else before ++ '&' :: p.text) }

def dropFinalSpaces (s : List Char) : List Char := (s.reverse.dropWhile (· == ' ')).reverse

/-- The address without its query. A rootless path that nothing follows any more ends without
spaces, so that the written form reads back. -/
def withoutQuery (a : Address) : Address :=
  { a with
    query := none
    path := if a.isRootless ∧ a.fragment = none then dropFinalSpaces a.path else a.path }

end Address

end TicketLogin
