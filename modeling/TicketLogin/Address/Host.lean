import TicketLogin.Address.Escapes
import TicketLogin.Address.Ipv4
import TicketLogin.Address.Ipv6
import TicketLogin.Domain.Basic

/-!
# Hosts

The written form of a host: a bracketed address of version 6, an address of version 4, a domain
name in its ASCII form, or, for schemes that are not special, any escaped text without the
characters that end a host.
-/

namespace TicketLogin.Address.Host

def readBracketed (s : List Char) : Except AddressFault (List Char) :=
  if s.getLast? = some ']' then
    match Ipv6.read? (s.drop 1).dropLast with
    | some groups => .ok ('[' :: (Ipv6.text groups ++ [']']))
    | none => .error .ipv6
  else .error .ipv6

def readName (s : List Char) : Except AddressFault (List Char) :=
  if s.head? = some '[' then readBracketed s
  else
    match Domain.toAscii (Percent.decode s) with
    | none => .error .domainName
    | some name =>
      if name = [] then .error .emptyHost
      else if Ipv4.endsInNumber name then
        match Ipv4.read? name with
        | some n => .ok (Ipv4.text n)
        | none => .error .ipv4
      else .ok name

/-- Characters that cannot stand in the host of any scheme. -/
def isForbidden (c : Char) : Bool :=
  c.toNat == 0 || "\t\n\r #/:<>?@[\\]^|".toList.contains c

/-- A host of a scheme that is not special. -/
def readPlain (s : List Char) : Except AddressFault (List Char) :=
  if s.head? = some '[' then readBracketed s
  else if s.any isForbidden then .error .hostCharacter
  else .ok (Percent.encode Escapes.control s)

def read (k : Kind) (s : List Char) : Except AddressFault (List Char) :=
  if k = .plain then readPlain s else readName s

end TicketLogin.Address.Host
