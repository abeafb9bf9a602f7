import TicketLogin.Text.Utf8
import TicketLogin.Domain.Mapping
import TicketLogin.Domain.Composition
import TicketLogin.Domain.Directions
import TicketLogin.Domain.Joining
import TicketLogin.Domain.Punycode

/-!
# Domain names

`toAscii` turns the bytes of a host name into the ASCII form that is looked up: characters are
mapped, the text is composed, every label is checked, and labels with characters beyond ASCII are
written in Punycode behind `xn--`. A label that already has that form must be one that this process
writes.
-/

namespace TicketLogin.Domain

/-- What becomes of one character of a name; nothing when it is refused. -/
def fate (c : Char) : Option (List Char) :=
  let n := c.toNat
  if keptTable.has n then some [c]
  else if droppedTable.has n then some []
  else
    match pairedTable.find? n with
    | some s => some [if (n - s.low) % 2 = 0 then Char.ofNat (n + 1) else c]
    | none =>
      match shiftedTable.find? n with
      | some s => some (s.target.map fun start => Char.ofNat (start + (n - s.low)))
      | none => (speltTable.find? n).map fun s => s.target.map Char.ofNat

def mapped (s : List Char) : Option (List Char) :=
  (s.mapM fate).map fun parts => compose parts.flatten

def isDenied (c : Char) : Bool :=
  c.toNat ≤ 0x20 || c.toNat == 0x7F || "%#/:<>?@[\\]^|".toList.contains c

def isAscii (c : Char) : Bool := c.toNat < 128

/-- Whether a cursive letter before, or after, asks to be joined across a joiner. -/
def joins (table : Table) (s : List Char) : Bool :=
  match s.dropWhile fun c => transparentTable.has c.toNat with
  | [] => false
  | c :: _ => table.has c.toNat || dualTable.has c.toNat

/-- Each joiner needs a virama before it, or, if it keeps letters apart, letters to keep apart.
`before` is in reverse. -/
def joinersOk (before : List Char) : List Char → Bool
  | [] => true
  | c :: rest =>
    let virama := match before with
      | [] => false
      | b :: _ => markClass b == 9
    let ok :=
      if c = '\u200D' then virama
      else if c = '\u200C' then virama || (joins leftTable before && joins rightTable rest)
      else true
    ok && joinersOk (c :: before) rest

def labelOk (label : List Char) : Bool :=
  joinersOk [] label &&
    match label with
    | [] => true
    | c :: _ => !markTable.has c.toNat

def isRightToLeft (c : Char) : Bool := rightToLeftTable.has c.toNat
def isArabicNumber (c : Char) : Bool := arabicNumberTable.has c.toNat
def isEuropeanNumber (c : Char) : Bool := europeanNumberTable.has c.toNat
def isSpaceless (c : Char) : Bool := spacelessTable.has c.toNat
def isBreak (c : Char) : Bool := breakTable.has c.toNat

def isLeftToRight (c : Char) : Bool :=
  !(isRightToLeft c || isArabicNumber c || isEuropeanNumber c || isSpaceless c || isBreak c
    || neutralTable.has c.toNat)

def directionOk (label : List Char) : Bool :=
  let last := (label.reverse.dropWhile isSpaceless).head?
  match label.head? with
  | none => true
  | some c =>
    if isRightToLeft c then
      label.all (fun c => !(isLeftToRight c || isBreak c))
        && last.any (fun c => isRightToLeft c || isEuropeanNumber c || isArabicNumber c)
        && !(label.any isEuropeanNumber && label.any isArabicNumber)
    else
      isLeftToRight c && label.all (fun c => !(isRightToLeft c || isArabicNumber c || isBreak c))
        && last.any (fun c => isLeftToRight c || isEuropeanNumber c)

def mark : List Char := "xn--".toList

/-- A mapped label in the characters that it stands for. A label in Punycode must stand for a text
that has characters beyond ASCII, is composed, and is left alone by the mapping. -/
def unfolded (label : List Char) : Option (List Char) :=
  if mark.isPrefixOf label then do
    let inner ← Punycode.decode? (label.drop 4)
    if inner.all isAscii ∨ mapped inner ≠ some inner then none else some inner
  else some label

def folded (label : List Char) : List Char :=
  if label.all isAscii then label else mark ++ Punycode.encode label

def toAscii (bytes : List UInt8) : Option (List Char) := do
  let name ← mapped (Utf8.decodeLossy bytes)
  if name.any isDenied then none
  let labels ← (Text.splitOn '.' name).mapM unfolded
  if !labels.all labelOk then none
  if labels.any (·.any fun c => isRightToLeft c || isArabicNumber c)
      && !labels.all directionOk then none
  some (Text.joinWith '.' (labels.map folded))

end TicketLogin.Domain
