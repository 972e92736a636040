import VerdictClient.Text

namespace VerdictClient.Yaml

def isEnd (c : Char) : Bool := c = '\x00'

def isBreak (c : Char) : Bool :=
  c = '\n' || c = '\r' || c = '\x85' || c = '\u2028' || c = '\u2029'

def isBreakOrEnd (c : Char) : Bool := isBreak c || isEnd c

def isSpaceOrEnd (c : Char) : Bool := c = ' ' || isBreakOrEnd c

def isBlankOrEnd (c : Char) : Bool := c = '\t' || isSpaceOrEnd c

def isWord (c : Char) : Bool := c.isAlphanum || c = '-' || c = '_'

def isPrintable (c : Char) : Bool :=
  let n := c.toNat
  n == 0x09 || n == 0x0A || n == 0x0D || (0x20 ≤ n && n ≤ 0x7E) || n == 0x85 ||
    (0xA0 ≤ n && n ≤ 0xD7FF) || (0xE000 ≤ n && n ≤ 0xFFFD) || 0x10000 ≤ n

structure Cursor where
  rest : List Char
  index : Nat
  line : Nat
  column : Nat

namespace Cursor

def start (cs : List Char) : Cursor := ⟨cs, 0, 0, 0⟩

def peekAt (n : Nat) (c : Cursor) : Char := c.rest.getD n '\x00'

def peek (c : Cursor) : Char := c.peekAt 0

/-- The place behind one more character. A mark of byte order takes no column. -/
def next (c : Cursor) : Cursor :=
  match c.rest with
  | [] => c
  | ch :: r =>
    if isBreak ch && !(ch = '\r' && r.head? = some '\n') then ⟨r, c.index + 1, c.line + 1, 0⟩
    else ⟨r, c.index + 1, c.line, if ch = '\ufeff' then c.column else c.column + 1⟩

def skip : Nat → Cursor → Cursor
  | 0, c => c
  | n + 1, c => skip n c.next

def takeWhile (p : Char → Bool) (c : Cursor) : List Char × Cursor :=
  let run := c.rest.takeWhile p
  (run, c.skip run.length)

def skipWhile (p : Char → Bool) (c : Cursor) : Cursor := (c.takeWhile p).2

def skipSpaces (c : Cursor) : Cursor := c.skipWhile (· = ' ')

def skipComment (c : Cursor) : Cursor :=
  if c.peek = '#' then c.skipWhile (!isBreak ·) else c

def lineBreak? (c : Cursor) : Option (Char × Cursor) :=
  if c.peek = '\r' && c.peekAt 1 = '\n' then some ('\n', c.skip 2)
  else if c.peek = '\u2028' || c.peek = '\u2029' then some (c.peek, c.next)
  else if isBreak c.peek then some ('\n', c.next)
  else none

def skipBreak (c : Cursor) : Cursor := (c.lineBreak?.map (·.2)).getD c

def isMarker (mark : Char) (c : Cursor) : Bool :=
  c.peek = mark && c.peekAt 1 = mark && c.peekAt 2 = mark && isBlankOrEnd (c.peekAt 3)

def isSeparator (c : Cursor) : Bool := c.isMarker '-' || c.isMarker '.'

def restOfLine? (c : Cursor) : Option Cursor :=
  let c := c.skipSpaces.skipComment
  if isBreakOrEnd c.peek then some c.skipBreak else none

end Cursor

end VerdictClient.Yaml
