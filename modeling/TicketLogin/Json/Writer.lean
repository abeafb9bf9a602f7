import TicketLogin.Json.Quoted

/-!
# Writing records of texts

A record whose fields are all texts is written on one line, or with each field on a line of its own,
two spaces in.
-/

namespace TicketLogin.Json

abbrev TextField := String × String

def compactField (f : TextField) : List Char :=
  Quoted.write f.1.toList ++ ':' :: Quoted.write f.2.toList

def braced (s : List Char) : List Char := Char.ofNat 0x7B :: (s ++ [Char.ofNat 0x7D])

def separated (separator : List Char) : List (List Char) → List Char
  | [] => []
  | [part] => part
  | part :: parts => part ++ separator ++ separated separator parts

def compact (fields : List TextField) : List Char :=
  braced (separated [','] (fields.map compactField))

def indentedField (f : TextField) : List Char :=
  ' ' :: ' ' :: (Quoted.write f.1.toList ++ ':' :: ' ' :: Quoted.write f.2.toList)

def indented (fields : List TextField) : List Char :=
  if fields = [] then braced []
  else braced ('\n' :: (separated [',', '\n'] (fields.map indentedField) ++ ['\n']))

end TicketLogin.Json
