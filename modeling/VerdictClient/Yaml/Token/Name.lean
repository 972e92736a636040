import VerdictClient.Decimal
import VerdictClient.Text.Utf8
import VerdictClient.Yaml.Token.Scalar

namespace VerdictClient.Yaml.Name

open Scalar (ofChars)

def endsAnchor (ch : Char) : Bool :=
  isBlankOrEnd ch || ['?', ':', ',', ']', '\x7d', '%', '@', '\x60'].contains ch

def anchor (c : Cursor) : Except Fault (Text × Cursor) :=
  let (name, c) := c.takeWhile isWord
  if name.isEmpty || !endsAnchor c.peek then .error .malformed else .ok (ofChars name, c)

/-- The handle of a tag: a mark alone, two, or a word between two. -/
def handle (c : Cursor) : Except Fault (Text × Cursor) :=
  if c.peek ≠ '!' then .error .malformed
  else
    let (word, d) := c.next.takeWhile isWord
    if d.peek = '!' then .ok (ofChars ('!' :: word ++ ['!']), d.next)
    else if word.isEmpty && d.peek = ' ' then .ok (ofChars ['!'], d)
    else .error .malformed

def isUri (ch : Char) : Bool := ch.isAlphanum || "-;/?:@&=+$,_.!~*'()[]".toList.contains ch

def octets : Nat → Cursor → Except Fault (Bytes × Cursor)
  | 0, c => .ok ([], c)
  | n + 1, c =>
    if c.peek ≠ '%' then .ok ([], c)
    else
      match Scalar.hexNumber? (c.next.rest.take 2) with
      | some b =>
        if c.next.rest.length < 2 then .error .malformed
        else do
          let (bs, c) ← octets n (c.skip 3)
          .ok (UInt8.ofNat b :: bs, c)
      | none => .error .malformed

def uriPieces : Nat → Cursor → Except Fault (Text × Cursor)
  | 0, c => .ok ([], c)
  | n + 1, c =>
    if c.peek = '%' then do
      let (bs, c) ← octets (c.rest.length + 1) c
      match Utf8.decode false bs with
      | .error _ => .error .malformed
      | .ok t =>
        let (u, c) ← uriPieces n c
        .ok (t ++ u, c)
    else
      let (run, c) := c.takeWhile isUri
      if run.isEmpty then .ok ([], c)
      else do
        let (u, c) ← uriPieces n c
        .ok (ofChars run ++ u, c)

def uri (c : Cursor) : Except Fault (Text × Cursor) := do
  if !(isUri c.peek || c.peek = '%') then throw .malformed
  uriPieces (c.rest.length + 1) c

def hasHandle (c : Cursor) : Bool := (c.rest.takeWhile fun ch ↦ !isSpaceOrEnd ch).contains '!'

def tag (c : Cursor) : Except Fault (TagName × Cursor) := do
  let (t, c) ←
    if c.peekAt 1 = '<' then do
      let (suffix, c) ← uri (c.skip 2)
      if c.peek ≠ '>' then throw .malformed
      pure (TagName.mk none suffix, c.next)
    else if isBlankOrEnd (c.peekAt 1) then pure (TagName.mk none (ofChars ['!']), c.next)
    else do
      let (name, d) ← if hasHandle c.next then handle c else pure (ofChars ['!'], c.next)
      let (suffix, d) ← uri d
      pure (TagName.mk (some name) suffix, d)
  if isSpaceOrEnd c.peek then return (t, c) else throw .malformed

def number (c : Cursor) : Except Fault (Nat × Cursor) :=
  let (digits, c) := c.takeWhile Char.isDigit
  if digits.isEmpty then .error .malformed
  else if Numeral.digitLimit < digits.length then .error (.oversizedVersion digits.length)
  else .ok (digits.foldl (fun n d ↦ n * 10 + (d.toNat - '0'.toNat)) 0, c)

def version (c : Cursor) : Except Fault (Directive × Cursor) := do
  let (major, c) ← number c.skipSpaces
  if c.peek ≠ '.' then throw .malformed
  let (minor, c) ← number c.next
  if isSpaceOrEnd c.peek then return (.version major minor, c) else throw .malformed

def tagDirective (c : Cursor) : Except Fault (Directive × Cursor) := do
  let (name, c) ← handle c.skipSpaces
  if c.peek ≠ ' ' then throw .malformed
  let (target, c) ← uri c.skipSpaces
  if isSpaceOrEnd c.peek then return (.tag name target, c) else throw .malformed

def directive (c : Cursor) : Except Fault (Directive × Cursor) := do
  let (name, c) := c.next.takeWhile isWord
  if name.isEmpty || !isSpaceOrEnd c.peek then throw .malformed
  let (d, c) ←
    if name = "YAML".toList then version c
    else if name = "TAG".toList then tagDirective c
    else pure (.other, c.skipWhile (!isBreak ·))
  match c.restOfLine? with
  | some c => return (d, c)
  | none => throw .malformed

end VerdictClient.Yaml.Name
