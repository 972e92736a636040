import VerdictClient.Decimal
import VerdictClient.Value

namespace VerdictClient.Json

inductive StringFault where
  | unterminated
  | control
  | badEscape
  | badCodePoint
  deriving DecidableEq, Repr

inductive Container where
  | list
  | map
  deriving DecidableEq, Repr

inductive Lexeme where
  | opening (c : Container)
  | closing (c : Container)
  | colon
  | comma
  | text (t : Text)
  | scalar (v : Value)
  | double (x : Float) (digits : Nat)
  | oversized (digits : Nat)
  | broken (fault : StringFault) (position : Nat)
  | junk

structure Token where
  position : Nat
  lexeme : Lexeme

def isSpace (c : CodePoint) : Bool :=
  c = .char ' ' || c = .char '\t' || c = .char '\n' || c = .char '\r'

def hex4 (a b c d : CodePoint) : Option Nat := do
  return (((← a.hexDigit?) * 16 + (← b.hexDigit?)) * 16 + (← c.hexDigit?)) * 16 + (← d.hexDigit?)

def isHigh (n : Nat) : Bool := 0xD800 ≤ n && n < 0xDC00

def isLow (n : Nat) : Bool := 0xDC00 ≤ n && n < 0xE000

def simpleEscape : Char → Option Char
  | '"' => some '"'
  | '\\' => some '\\'
  | '/' => some '/'
  | 'b' => some '\x08'
  | 'f' => some '\x0c'
  | 'n' => some '\n'
  | 'r' => some '\r'
  | 't' => some '\t'
  | _ => none

/-- The low half that follows a high one as a second escape. Behind it one more code point must
stand, as the closing quotation mark at least. -/
def lowEscape (position : Nat) : Text → Except (StringFault × Nat) (Option Nat)
  | .char '\\' :: .char 'u' :: a :: b :: c :: d :: _ :: _ =>
    match hex4 a b c d with
    | none => .error (.badCodePoint, position + 1)
    | some n => .ok (if isLow n then some n else none)
  | _ => .ok none

/-- What an escape stands for, and its width; `r` follows the backslash at `position`. -/
def escapeAt (position : Nat) (r : Text) : Except (StringFault × Nat) (CodePoint × Nat) :=
  match r with
  | .char 'u' :: a :: b :: c :: d :: e :: rest =>
    match hex4 a b c d with
    | none => .error (.badCodePoint, position + 1)
    | some n =>
      if isHigh n then
        match lowEscape (position + 6) (e :: rest) with
        | .error fault => .error fault
        | .ok (some low) => .ok (.ofNat (0x10000 + (n - 0xD800) * 0x400 + (low - 0xDC00)), 12)
        | .ok none => .ok (.ofNat n, 6)
      else .ok (.ofNat n, 6)
  | .char 'u' :: _ => .error (.badCodePoint, position + 1)
  | .char c :: _ =>
    match simpleEscape c with
    | some d => .ok (d, 2)
    | none => .error (.badEscape, position)
  | .half _ :: _ => .error (.badEscape, position)
  | [] => .error (.unterminated, position)

/-- The rest of a string behind its opening quotation mark at `start`, and its width with the
closing one. Skips `skip` code points, already read. -/
def stringFrom (start position : Nat) : Nat → Text → Except (StringFault × Nat) (Text × Nat)
  | _, [] => .error (.unterminated, start)
  | skip + 1, _ :: r => stringFrom start (position + 1) skip r
  | 0, c :: r =>
    if c = .char '"' then .ok ([], position + 1 - start)
    else if c = .char '\\' then
      match escapeAt position r with
      | .ok (d, width) =>
        (stringFrom start (position + 1) (width - 1) r).map fun (t, n) ↦ (d :: t, n)
      | .error (.unterminated, _) => .error (.unterminated, start)
      | .error fault => .error fault
    else if c.val ≤ 0x1F then .error (.control, position)
    else (stringFrom start (position + 1) 0 r).map fun (t, n) ↦ (c :: t, n)

def numberAt (negative : Bool) (t : Text) : Option (Lexeme × Nat) :=
  let (digits, r) : List Nat × Text := match t with
    | .char '0' :: r => ([0], r)
    | t => Numeral.takeDigits t
  if digits.isEmpty then none
  else
    let (fraction, r) := match r with
      | .char '.' :: r' => if (Numeral.takeDigits r').1.isEmpty then ([], r) else Numeral.takeDigits r'
      | r => ([], r)
    let exponent := Numeral.exponentAt r
    let width := (if negative then 1 else 0) + digits.length +
      (if fraction.isEmpty then 0 else 1 + fraction.length) + (exponent.map (·.2)).getD 0
    if fraction.isEmpty && exponent.isNone then
      let n : Int := Numeral.value digits
      if Numeral.digitLimit < digits.length then some (.oversized digits.length, width)
      else some (.scalar (.int (if negative then -n else n)), width)
    else
      let scale := (exponent.map (·.1)).getD 0 - fraction.length
      let x := Numeral.toFloat ⟨negative, Numeral.value (digits ++ fraction), scale⟩
      some (.double x digits.length, width)

def words : List (Text × Value) := [
  ("null", .null), ("true", .bool true), ("false", .bool false), ("NaN", .float Numeral.nan),
  ("Infinity", .float Numeral.infinity), ("-Infinity", .float (-Numeral.infinity))]

def lexemeAt (position : Nat) (c : CodePoint) (r : Text) : Lexeme × Nat :=
  match c with
  | .char '{' => (.opening .map, 1)
  | .char '}' => (.closing .map, 1)
  | .char '[' => (.opening .list, 1)
  | .char ']' => (.closing .list, 1)
  | .char ':' => (.colon, 1)
  | .char ',' => (.comma, 1)
  | .char '"' =>
    match stringFrom position (position + 1) 0 r with
    | .ok (t, width) => (.text t, width)
    | .error (fault, place) => (.broken fault place, 1)
  | c =>
    match words.find? fun w ↦ w.1.isPrefixOf (c :: r) with
    | some (w, v) => (.scalar v, w.length)
    | none =>
      let number := if c = .char '-' then numberAt true r else numberAt false (c :: r)
      number.getD (.junk, 1)

def Lexeme.isFault : Lexeme → Bool
  | .broken .. | .junk => true
  | _ => false

/-- The tokens of a text from `position` on, up to the first fault. Skips `skip` code points,
already read. -/
def tokensFrom (position : Nat) : Nat → Text → List Token
  | _, [] => []
  | skip + 1, _ :: r => tokensFrom (position + 1) skip r
  | 0, c :: r =>
    if isSpace c then tokensFrom (position + 1) 0 r
    else
      let (lexeme, width) := lexemeAt position c r
      ⟨position, lexeme⟩ :: if lexeme.isFault then [] else tokensFrom (position + 1) (width - 1) r

def tokens (t : Text) : List Token := tokensFrom 0 0 t

end VerdictClient.Json
