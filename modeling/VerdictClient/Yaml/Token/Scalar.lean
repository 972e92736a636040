import VerdictClient.Yaml.Cursor
import VerdictClient.Yaml.Token

namespace VerdictClient.Yaml.Scalar

open Cursor (isSeparator)

def ofChars (cs : List Char) : Text := cs.map .char

/-- What a line break and the breaks of the empty lines after it fold into. -/
def folded (first : Char) (breaks : List Char) : Text :=
  if first ≠ '\n' then ofChars (first :: breaks)
  else if breaks.isEmpty then [.char ' '] else ofChars breaks

def plainStops (flow : Bool) (ch next : Char) : Bool :=
  isBlankOrEnd ch ||
    (ch = ':' && (isBlankOrEnd next || (flow && [',', '[', ']', '\x7b', '\x7d'].contains next))) ||
    (flow && [',', '?', '[', ']', '\x7b', '\x7d'].contains ch)

def plainLength (flow : Bool) : List Char → Nat
  | [] => 0
  | ch :: r => if plainStops flow ch (r.headD '\x00') then 0 else plainLength flow r + 1

/-- The breaks of empty lines, or nothing if a document ends among them. -/
def plainBreaks : Nat → Cursor → Option (List Char) × Cursor
  | 0, c => (some [], c)
  | n + 1, c =>
    let c := c.skipSpaces
    match c.lineBreak? with
    | none => (some [], c)
    | some (b, c) =>
      if isSeparator c then (none, c)
      else
        let (bs, c) := plainBreaks n c
        (bs.map (b :: ·), c)

structure Gap where
  text : Option Text
  broken : Bool
  cursor : Cursor

def plainGap (c : Cursor) : Gap :=
  let (spaces, c) := c.takeWhile (· = ' ')
  match c.lineBreak? with
  | none => ⟨if spaces.isEmpty then none else some (ofChars spaces), false, c⟩
  | some (b, c) =>
    if isSeparator c then ⟨none, true, c⟩
    else
      let (breaks, c) := plainBreaks c.rest.length c
      ⟨breaks.map (folded b), true, c⟩

structure Plain where
  text : Text
  broken : Bool
  cursor : Cursor

/-- The rest of a plain scalar after `gap`; outside of flow collections its lines are indented at
least by `indent`. -/
def plainFrom (flow : Bool) (indent : Int) : Nat → (gap : Text) → (broken : Bool) → Cursor → Plain
  | 0, _, broken, c => ⟨[], broken, c⟩
  | n + 1, gap, broken, c =>
    let word := c.rest.take (plainLength flow c.rest)
    if c.peek = '#' || word.isEmpty then ⟨[], broken, c⟩
    else
      let here := gap ++ ofChars word
      let after := plainGap (c.skip word.length)
      match after.text with
      | none => ⟨here, after.broken, after.cursor⟩
      | some gap =>
        if after.cursor.peek = '#' || (!flow && (after.cursor.column : Int) < indent) then
          ⟨here, after.broken, after.cursor⟩
        else
          let more := plainFrom flow indent n gap after.broken after.cursor
          { more with text := here ++ more.text }

def plain (flow : Bool) (indent : Int) (c : Cursor) : Plain :=
  plainFrom flow indent (c.rest.length + 1) [] false c

def escape? : Char → Option Char
  | '0' => some '\x00'
  | 'a' => some '\x07'
  | 'b' => some '\x08'
  | 't' | '\t' => some '\t'
  | 'n' => some '\n'
  | 'v' => some '\x0b'
  | 'f' => some '\x0c'
  | 'r' => some '\r'
  | 'e' => some '\x1b'
  | ' ' => some ' '
  | '"' => some '"'
  | '\\' => some '\\'
  | '/' => some '/'
  | 'N' => some '\x85'
  | '_' => some '\xa0'
  | 'L' => some '\u2028'
  | 'P' => some '\u2029'
  | _ => none

def escapeDigits? : Char → Option Nat
  | 'x' => some 2
  | 'u' => some 4
  | 'U' => some 8
  | _ => none

def hexNumber? (ds : List Char) : Option Nat :=
  ds.foldlM (fun n d ↦ (CodePoint.hexDigit? (.char d)).map (n * 16 + ·)) 0

def codePoint (digits : List Char) (count : Nat) : Except Fault CodePoint :=
  match hexNumber? digits with
  | some n =>
    if digits.length < count then .error .malformed
    else if 0x110000 ≤ n then .error (.codePoint n)
    else .ok (.ofNat n)
  | none => .error .malformed

def quotedBreaks : Nat → Cursor → Except Fault (List Char × Cursor)
  | 0, c => .ok ([], c)
  | n + 1, c =>
    if isSeparator c then .error .malformed
    else
      let c := c.skipWhile fun ch ↦ ch = ' ' || ch = '\t'
      match c.lineBreak? with
      | none => .ok ([], c)
      | some (b, c) => do
        let (bs, c) ← quotedBreaks n c
        .ok (b :: bs, c)

def isQuotedStop (ch : Char) : Bool := ch = '\'' || ch = '"' || ch = '\\' || isBlankOrEnd ch

def escaped (c : Cursor) : Except Fault (Text × Cursor) :=
  let ch := c.peek
  match escape? ch, escapeDigits? ch with
  | some e, _ => .ok ([.char e], c.next)
  | none, some count => do
    let p ← codePoint (c.next.rest.take count) count
    .ok ([p], c.next.skip count)
  | none, none =>
    if isBreak ch then do
      let (bs, c) ← quotedBreaks c.rest.length c.skipBreak
      .ok (ofChars bs, c)
    else .error .malformed

def quotedWord (double : Bool) : Nat → Cursor → Except Fault (Text × Cursor)
  | 0, c => .ok ([], c)
  | n + 1, c =>
    let (run, c) := c.takeWhile fun ch ↦ !isQuotedStop ch
    let ch := c.peek
    let more (t : Text) (c : Cursor) : Except Fault (Text × Cursor) := do
      let (u, c) ← quotedWord double n c
      .ok (ofChars run ++ t ++ u, c)
    if !double && ch = '\'' && c.peekAt 1 = '\'' then more [.char '\''] (c.skip 2)
    else if (double && ch = '\'') || (!double && (ch = '"' || ch = '\\')) then more [.char ch] c.next
    else if double && ch = '\\' then
      match escaped c.next with
      | .ok (t, c) => more t c
      | .error e => .error e
    else .ok (ofChars run, c)

def quotedGap (c : Cursor) : Except Fault (Text × Cursor) :=
  let (blanks, c) := c.takeWhile fun ch ↦ ch = ' ' || ch = '\t'
  match c.lineBreak? with
  | none => if isEnd c.peek then .error .malformed else .ok (ofChars blanks, c)
  | some (b, c) => do
    let (bs, c) ← quotedBreaks c.rest.length c
    .ok (folded b bs, c)

def quotedFrom (double : Bool) (quote : Char) : Nat → Cursor → Except Fault (Text × Cursor)
  | 0, _ => .error .malformed
  | n + 1, c => do
    let (word, c) ← quotedWord double (c.rest.length + 1) c
    if c.peek = quote then return (word, c.next)
    let (gap, c) ← quotedGap c
    let (t, c) ← quotedFrom double quote n c
    return (word ++ gap ++ t, c)

def quoted (c : Cursor) : Except Fault (Text × Cursor) :=
  quotedFrom (c.peek = '"') c.peek (c.rest.length + 1) c.next

inductive Chomping where
  | strip
  | clip
  | keep
  deriving DecidableEq

structure Header where
  chomping : Chomping
  increment : Option Nat
  cursor : Cursor

def chomping? : Char → Option Chomping
  | '+' => some .keep
  | '-' => some .strip
  | _ => none

def increment? (ch : Char) : Except Fault (Option Nat) :=
  if ch = '0' then .error .malformed
  else if ch.isDigit then .ok (some (ch.toNat - '0'.toNat))
  else .ok none

def header (c : Cursor) : Except Fault Header := do
  let h ← match chomping? c.peek with
    | some chomping => do
      let n ← increment? c.next.peek
      pure (Header.mk chomping n (if n.isSome then c.skip 2 else c.next))
    | none => do
      let n ← increment? c.peek
      match n, chomping? c.next.peek with
      | some n, some chomping => pure (Header.mk chomping (some n) (c.skip 2))
      | some n, none => pure (Header.mk .clip (some n) c.next)
      | none, _ => pure (Header.mk .clip none c)
  if isSpaceOrEnd h.cursor.peek then
    match h.cursor.restOfLine? with
    | some c => return { h with cursor := c }
    | none => throw .malformed
  else throw .malformed

/-- The breaks of leading empty lines, and the widest indentation found among them and of the first
line that is not empty. -/
def leadingBreaks : Nat → (widest : Nat) → Cursor → List Char × Nat × Cursor
  | 0, widest, c => ([], widest, c)
  | n + 1, widest, c =>
    let c := c.skipSpaces
    let widest := max widest c.column
    match c.lineBreak? with
    | none => ([], widest, c)
    | some (b, c) =>
      let (bs, widest, c) := leadingBreaks n widest c
      (b :: bs, widest, c)

def indentTo (indent : Nat) (c : Cursor) : Cursor :=
  c.skip ((c.rest.takeWhile (· = ' ')).length.min (indent - c.column))

def blockBreaks (indent : Nat) : Nat → Cursor → List Char × Cursor
  | 0, c => ([], c)
  | n + 1, c =>
    let c := indentTo indent c
    match c.lineBreak? with
    | none => ([], c)
    | some (b, c) =>
      let (bs, c) := blockBreaks indent n c
      (b :: bs, c)

def isInset (ch : Char) : Bool := ch = ' ' || ch = '\t'

/-- The lines of a block from the one that begins here, with the break of the last line and the
breaks of the empty lines behind it kept apart. -/
def blockLines (fold : Bool) (indent : Nat) : Nat → Cursor → Text × Option Char × List Char × Cursor
  | 0, c => ([], none, [], c)
  | n + 1, c =>
    let inset := isInset c.peek
    let (line, c) := c.takeWhile (!isBreak ·)
    let (last, c) : Option Char × Cursor := match c.lineBreak? with
      | some (b, c) => (some b, c)
      | none => (none, c)
    let (breaks, c) := blockBreaks indent c.rest.length c
    if c.column = indent && !isEnd c.peek then
      let (more, final) := blockLines fold indent n c
      let gap : Text :=
        if fold && last = some '\n' && !inset && !isInset c.peek then
          if breaks.isEmpty then [.char ' '] else []
        else ofChars last.toList
      (ofChars line ++ gap ++ ofChars breaks ++ more, final)
    else (ofChars line, last, breaks, c)

def block (outer : Int) (c : Cursor) : Except Fault (Text × Cursor) := do
  let fold := c.peek = '>'
  let h ← header c.next
  let least := (max (outer + 1) 1).toNat
  let (breaks, indent, c) : List Char × Nat × Cursor := match h.increment with
    | none =>
      let (breaks, widest, c) := leadingBreaks h.cursor.rest.length 0 h.cursor
      (breaks, max least widest, c)
    | some n =>
      let indent := least + n - 1
      let (breaks, c) := blockBreaks indent h.cursor.rest.length h.cursor
      (breaks, indent, c)
  let (body, last, trailing, c) : Text × Option Char × List Char × Cursor :=
    if c.column = indent && !isEnd c.peek then
      let (text, rest) := blockLines fold indent (c.rest.length + 1) c
      (ofChars breaks ++ text, rest)
    else ([], none, breaks, c)
  let ending : Text := match h.chomping with
    | .strip => []
    | .clip => ofChars last.toList
    | .keep => ofChars last.toList ++ ofChars trailing
  return (body ++ ending, c)

end VerdictClient.Yaml.Scalar
