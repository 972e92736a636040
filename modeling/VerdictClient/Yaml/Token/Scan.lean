import VerdictClient.Yaml.Token.Name

namespace VerdictClient.Yaml

/-- A place at which a key may have begun. -/
structure KeyPlace where
  before : Nat
  required : Bool
  index : Nat
  line : Nat
  column : Nat

structure Scanner where
  cursor : Cursor
  tokens : Array Token
  flow : Nat
  indent : Int
  outer : List Int
  keyAllowed : Bool
  /-- The places at which keys may have begun, by the flow collections open there. -/
  places : List (Nat × KeyPlace)

namespace Scanner

def start (cs : List Char) : Scanner := ⟨.start cs, #[], 0, -1, [], true, []⟩

def push (t : Token) (s : Scanner) : Scanner := { s with tokens := s.tokens.push t }

def insertAt (n : Nat) (t : Token) (s : Scanner) : Scanner :=
  { s with tokens := s.tokens.insertIdxIfInBounds n t }

def column (s : Scanner) : Int := s.cursor.column

/-- A key ends in the line in which it began, and within 1024 characters. -/
def isStale (s : Scanner) (p : KeyPlace) : Bool :=
  p.line ≠ s.cursor.line || 1024 < s.cursor.index - p.index

def dropStale (s : Scanner) : Except Fault Scanner :=
  if s.places.any fun p ↦ s.isStale p.2 && p.2.required then .error .malformed
  else .ok { s with places := s.places.filter fun p ↦ !s.isStale p.2 }

def dropPlace (s : Scanner) : Except Fault Scanner :=
  match s.places.lookup s.flow with
  | some p =>
    if p.required then .error .malformed
    else .ok { s with places := s.places.filter (·.1 ≠ s.flow) }
  | none => .ok s

def notePlace (s : Scanner) : Except Fault Scanner := do
  if s.keyAllowed then
    let s ← s.dropPlace
    let p : KeyPlace := ⟨s.tokens.size, s.flow = 0 && s.indent = s.column, s.cursor.index,
      s.cursor.line, s.cursor.column⟩
    return { s with places := (s.flow, p) :: s.places }
  else return s

def unwindFrom (column : Int) : List Int → Scanner → Scanner
  | [], s => s
  | i :: is, s =>
    if column < s.indent then unwindFrom column is (push .blockEnd { s with indent := i, outer := is })
    else s

def unwind (column : Int) (s : Scanner) : Scanner :=
  if s.flow = 0 then unwindFrom column s.outer s else s

def openBlock (column : Int) (t : Token) (place : Nat) (s : Scanner) : Scanner :=
  if s.indent < column then
    { s with indent := column, outer := s.indent :: s.outer }.insertAt place t
  else s

def skipGap : Nat → Scanner → Scanner
  | 0, s => s
  | n + 1, s =>
    let c := s.cursor.skipSpaces.skipComment
    match c.lineBreak? with
    | none => { s with cursor := c }
    | some (_, c) => skipGap n { s with cursor := c, keyAllowed := s.keyAllowed || s.flow = 0 }

def toToken (s : Scanner) : Scanner :=
  let c := s.cursor
  let c := if c.index = 0 && c.peek = '\ufeff' then c.next else c
  skipGap (c.rest.length + 1) { s with cursor := c }

def takeChar (t : Token) (s : Scanner) : Scanner := { s with cursor := s.cursor.next }.push t

def setKeyAllowed (b : Bool) (s : Scanner) : Scanner := { s with keyAllowed := b }

def directive (s : Scanner) : Except Fault Scanner := do
  let s ← (s.unwind (-1)).dropPlace
  let (d, c) ← Name.directive s.cursor
  return { s.setKeyAllowed false with cursor := c }.push (.directive d)

def marker (t : Token) (s : Scanner) : Except Fault Scanner := do
  let s ← (s.unwind (-1)).dropPlace
  return { s.setKeyAllowed false with cursor := s.cursor.skip 3 }.push t

def openFlow (t : Token) (s : Scanner) : Except Fault Scanner := do
  let s ← s.notePlace
  return { s.setKeyAllowed true with flow := s.flow + 1 }.takeChar t

def closeFlow (t : Token) (s : Scanner) : Except Fault Scanner := do
  let s ← s.dropPlace
  return { s.setKeyAllowed false with flow := s.flow - 1 }.takeChar t

def comma (s : Scanner) : Except Fault Scanner := do
  let s ← s.dropPlace
  return (s.setKeyAllowed true).takeChar .comma

def item (s : Scanner) : Except Fault Scanner := do
  if s.flow = 0 && !s.keyAllowed then throw .malformed
  let s := if s.flow = 0 then s.openBlock s.column .sequenceStart s.tokens.size else s
  let s ← s.dropPlace
  return (s.setKeyAllowed true).takeChar .item

def key (s : Scanner) : Except Fault Scanner := do
  if s.flow = 0 && !s.keyAllowed then throw .malformed
  let s := if s.flow = 0 then s.openBlock s.column .mappingStart s.tokens.size else s
  let s ← s.dropPlace
  return (s.setKeyAllowed (s.flow = 0)).takeChar .key

/-- A colon: behind a simple key, which begins earlier, or by itself. -/
def value (s : Scanner) : Except Fault Scanner := do
  match s.places.lookup s.flow with
  | some p =>
    let s := { s with places := s.places.filter (·.1 ≠ s.flow) }.insertAt p.before .key
    let s := if s.flow = 0 then s.openBlock p.column .mappingStart p.before else s
    return (s.setKeyAllowed false).takeChar .value
  | none =>
    if s.flow = 0 && !s.keyAllowed then throw .malformed
    let s := if s.flow = 0 then s.openBlock s.column .mappingStart s.tokens.size else s
    return (s.setKeyAllowed (s.flow = 0)).takeChar .value

def word (read : Cursor → Except Fault (Token × Cursor)) (s : Scanner) : Except Fault Scanner := do
  let s ← s.notePlace
  let (t, c) ← read s.cursor
  return { s.setKeyAllowed false with cursor := c }.push t

def plain (s : Scanner) : Except Fault Scanner := do
  let s ← s.notePlace
  let p := Scalar.plain (s.flow ≠ 0) (s.indent + 1) s.cursor
  return { s.setKeyAllowed p.broken with cursor := p.cursor }.push (.scalar p.text true)

def block (s : Scanner) : Except Fault Scanner := do
  let s ← s.dropPlace
  let (t, c) ← Scalar.block s.indent s.cursor
  return { s.setKeyAllowed true with cursor := c }.push (.scalar t false)

def named (token : Text → Token) (c : Cursor) : Except Fault (Token × Cursor) :=
  (Name.anchor c.next).map fun (name, c) ↦ (token name, c)

def startsPlain (s : Scanner) : Bool :=
  let ch := s.cursor.peek
  !(isBlankOrEnd ch || "-?:,[]\x7b\x7d#&*!|>'\"%@\x60".toList.contains ch) ||
    (!isBlankOrEnd (s.cursor.peekAt 1) && (ch = '-' || (s.flow = 0 && (ch = '?' || ch = ':'))))

def token (s : Scanner) : Except Fault Scanner :=
  let c := s.cursor
  let ch := c.peek
  let blankNext := isBlankOrEnd (c.peekAt 1)
  let atStart := c.column = 0
  if ch = '%' && atStart then s.directive
  else if atStart && c.isMarker '-' then s.marker .documentStart
  else if atStart && c.isMarker '.' then s.marker .documentEnd
  else if ch = '[' then s.openFlow .flowSequenceStart
  else if ch = '\x7b' then s.openFlow .flowMappingStart
  else if ch = ']' then s.closeFlow .flowSequenceEnd
  else if ch = '\x7d' then s.closeFlow .flowMappingEnd
  else if ch = ',' then s.comma
  else if ch = '-' && blankNext then s.item
  else if ch = '?' && (s.flow ≠ 0 || blankNext) then s.key
  else if ch = ':' && (s.flow ≠ 0 || blankNext) then s.value
  else if ch = '*' then s.word (named .alias)
  else if ch = '&' then s.word (named .anchor)
  else if ch = '!' then s.word fun c ↦ (Name.tag c).map fun (t, c) ↦ (.tag t, c)
  else if s.flow = 0 && (ch = '|' || ch = '>') then s.block
  else if ch = '\'' || ch = '"' then
    s.word fun c ↦ (Scalar.quoted c).map fun (t, c) ↦ (.scalar t false, c)
  else if s.startsPlain then s.plain
  else .error .malformed

/-- Takes the next token with those that its place in the text brings about, and tells whether it was
the last. The blocks that are open at the end of the text end there. -/
def step (s : Scanner) : Except Fault (Bool × Scanner) := do
  let s ← s.toToken.dropStale
  let s := s.unwind s.column
  if isEnd s.cursor.peek then return (true, ← (s.unwind (-1)).dropPlace)
  else return (false, ← (← s.token).dropStale)

/-- How many tokens stand before the first place at which a key may yet prove to have begun: only
these are certain. -/
def certain (s : Scanner) : Nat := s.places.foldl (fun n p ↦ min n p.2.before) s.tokens.size

/-- Takes tokens to the end of the text, or to what is wrong in it and then only those that are
certain before. -/
def run : Nat → Scanner → List Token × Option Fault
  | 0, s => (s.tokens.toList, none)
  | n + 1, s =>
    match s.step with
    | .error e => (s.tokens.toList.take s.certain, some e)
    | .ok (ended, s) => if ended then (s.tokens.toList, none) else run n s

end Scanner

def tokens (cs : List Char) : List Token × Option Fault :=
  if cs.all isPrintable then (Scanner.start cs).run (cs.length + 1) else ([], some .malformed)

end VerdictClient.Yaml
