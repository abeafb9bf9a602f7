import TicketLogin.Address.Escapes

/-!
# Paths

A path is read segment by segment: `.` stays in place, `..` takes the last segment away, and every
other segment is appended. Paths of files know drive letters, which `..` does not take away.
-/

namespace TicketLogin.Address.Path

/-- A letter and a colon or bar. -/
def isDrive : List Char → Bool
  | [a, b] => a.isAlpha && (b == ':' || b == '|')
  | _ => false

/-- A letter and a colon. -/
def isNormalDrive : List Char → Bool
  | [a, b] => a.isAlpha && b == ':'
  | _ => false

/-- Whether the first segment of a text is a drive letter. -/
def startsWithDrive : List Char → Bool
  | [a, b] => isDrive [a, b]
  | a :: b :: c :: _ => isDrive [a, b] && "/\\?#".toList.contains c
  | _ => false

/-- What stands behind the last slash. -/
def lastSegment (path : List Char) : List Char := (path.reverse.takeWhile (· != '/')).reverse

/-- The path up to its last slash. -/
def uptoLastSlash (path : List Char) : List Char := (path.reverse.dropWhile (· != '/')).reverse

def endsWithSlash (path : List Char) : Bool := path.getLast? == some '/'

/-- The path without its last segment; the drive letter of a file stays. -/
def pop (k : Kind) (path : List Char) : List Char :=
  if k = .file ∧ isNormalDrive (lastSegment path) then path else uptoLastSlash path

/-- Adds a slash unless there is one. -/
def withSlash (path : List Char) : List Char := if endsWithSlash path then path else path ++ ['/']

def dot : List Char → Bool
  | ['.'] => true
  | ['%', '2', e] => e == 'e' || e == 'E'
  | _ => false

/-- A segment that leads one level up, a dot being a dot or its percent triple. -/
def isDoubleDot (seg : List Char) : Bool :=
  (List.range seg.length).any fun i => dot (seg.take i) && dot (seg.drop i)

/-- The part of a path that is read, the open segment behind it, and whether a drive letter was
met that leaves no room for a host. -/
structure Walk where
  done : List Char
  seg : List Char
  hostless : Bool
  deriving DecidableEq, Repr

namespace Walk

/-- Takes a final slash away, but neither the only one nor that of a drive. -/
def unslash (path : List Char) : List Char :=
  let body := path.dropLast
  if endsWithSlash path ∧ body.contains '/' ∧ !startsWithDrive (lastSegment body ++ ['/']) then body
  else path

/-- Ends the open segment, with a slash or at the end of the path. -/
def close (k : Kind) (slash : Bool) (w : Walk) : Walk :=
  if isDoubleDot w.seg then
    let up := pop k (unslash w.done)
    { w with done := if slash then withSlash up else up, seg := [] }
  else if dot w.seg then { w with done := withSlash w.done, seg := [] }
  else
    let tail := if slash then ['/'] else []
    if k = .file ∧ w.done.length = 1 ∧ isDrive w.seg then
      ⟨w.done ++ w.seg.take 1 ++ ':' :: tail, [], true⟩
    else { w with done := w.done ++ w.seg ++ tail, seg := [] }

/-- Adds a character to the open segment. In a file a segment that is a drive letter so far is cut
off by a slash. -/
def push (k : Kind) (c : Char) (w : Walk) : Walk :=
  let written := if Escapes.inPath c then Percent.encodeChar c else [c]
  let path := w.done ++ w.seg
  if k = .file ∧ isNormalDrive (path.drop 1) then
    let path := path ++ ['/']
    { w with done := path.take (w.done.length + 1)
             seg := path.drop (w.done.length + 1) ++ written }
  else { w with seg := w.seg ++ written }

end Walk

/-- Reads a path up to a question mark or number sign; gives what is left too. -/
def walk (k : Kind) (w : Walk) : List Char → Walk × List Char
  | [] => (w.close k false, [])
  | c :: rest =>
    if k.slashes c then walk k (w.close k true) rest
    else if c = '?' ∨ c = '#' then (w.close k false, c :: rest)
    else walk k (w.push k c) rest

/-- Paths of files start with a single slash. -/
def rooted (k : Kind) (path : List Char) : List Char :=
  if k = .file then '/' :: path.dropWhile (· == '/') else path

/-- Reads a path behind `start`: the path, whether a drive letter leaves no room for a host, and
what is left of the text. -/
def read (k : Kind) (start s : List Char) : List Char × Bool × List Char :=
  let (w, rest) := walk k ⟨start, [], false⟩ s
  (rooted k w.done, w.hostless, rest)

/-- Reads the path behind a host. -/
def readAfterHost (k : Kind) (s : List Char) : List Char × Bool × List Char :=
  match k, s with
  | .plain, [] => ([], false, [])
  | .plain, c :: rest =>
    if c = '?' ∨ c = '#' then ([], false, c :: rest)
    else read k (if c = '/' then [] else ['/']) s
  | _, c :: rest => if k.slashes c then read k ['/'] rest else read k ['/'] s
  | _, [] => read k ['/'] s

end TicketLogin.Address.Path
