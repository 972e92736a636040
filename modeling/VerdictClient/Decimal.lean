import VerdictClient.Text.Class
import VerdictClient.Text.Quoted

namespace VerdictClient

structure Numeral where
  negative : Bool
  digits : Nat
  scale : Int
  deriving DecidableEq, Repr

namespace Numeral

def digitLimit : Nat := 4300

def oversizedText (digits : Nat) : Text :=
  "Exceeds the limit (" ++ Text.ofNat digitLimit ++
    " digits) for integer string conversion: value has " ++ Text.ofNat digits ++
    " digits; use sys.set_int_max_str_digits() to increase the limit"

def nan : Float := 0.0 / 0.0

def infinity : Float := 1.0 / 0.0

/-- The nearest double; magnitudes far outside the range of doubles are settled by their size. -/
def toFloat (n : Numeral) : Float :=
  let size : Int := (Nat.toDigits 10 n.digits).length + n.scale
  let magnitude : Float :=
    if n.digits = 0 ∨ size < -400 then 0.0
    else if 400 < size then infinity
    else Float.ofScientific n.digits (n.scale < 0) n.scale.natAbs
  if n.negative then -magnitude else magnitude

def value (ds : List Nat) : Nat := ds.foldl (fun n d ↦ n * 10 + d) 0

def takeDigits : Text → List Nat × Text
  | [] => ([], [])
  | c :: r =>
    match c.digit? with
    | some d =>
      let (ds, rest) := takeDigits r
      (d :: ds, rest)
    | none => ([], c :: r)

def takeSign : Text → Bool × Text
  | .char '-' :: r => (true, r)
  | .char '+' :: r => (false, r)
  | t => (false, t)

/-- An exponent part, `e` or `E`, a sign or none, and digits, and its width; without digits there
is none. -/
def exponentAt : Text → Option (Int × Nat)
  | c :: r =>
    if c = .char 'e' ∨ c = .char 'E' then
      let (negative, signWidth, r) : Bool × Nat × Text := match r with
        | .char '-' :: r => (true, 1, r)
        | .char '+' :: r => (false, 1, r)
        | r => (false, 0, r)
      match (takeDigits r).1 with
      | [] => none
      | ds => some (if negative then -(value ds : Int) else value ds, 1 + signWidth + ds.length)
    else none
  | [] => none

/-- Digits with a point anywhere or nowhere, at least one digit, and an exponent part or none. -/
def readUnsigned (negative : Bool) (t : Text) : Option Numeral :=
  let (whole, r) := takeDigits t
  let (fraction, r) := match r with
    | .char '.' :: r => takeDigits r
    | r => ([], r)
  if whole.isEmpty && fraction.isEmpty then none
  else
    let (exponent, width) := (exponentAt r).getD (0, 0)
    if (r.drop width).isEmpty then some ⟨negative, value (whole ++ fraction), exponent - fraction.length⟩
    else none

def dropUnderscores : (afterDigit : Bool) → Text → Option Text
  | _, [] => some []
  | afterDigit, .char '_' :: r =>
    if afterDigit && (r.head?.map CodePoint.isDigit).getD false then dropUnderscores false r
    else none
  | _, c :: r => (dropUnderscores c.isDigit r).map (c :: ·)

/-- Writes decimal digits of any script as ASCII digits. -/
def toAscii (t : Text) : Text := t.map fun c ↦ match c.decimal? with
  | some d => .ofNat (0x30 + d)
  | none => c

end Numeral

def Float.unreadable (t : Text) : Text := "could not convert string to float: " ++ t.quoted

/-- The double that a text names: blanks around, digits of any script, underscores between digits,
`inf`, `infinity` and `nan` in any case. -/
def Float.read (t : Text) : Option Float := do
  let t ← Numeral.dropUnderscores false (Numeral.toAscii (t.trim CodePoint.isNumberBlank))
  let (negative, body) := Numeral.takeSign t
  let signed (x : Float) : Float := if negative then -x else x
  if body.lower = "inf" ∨ body.lower = "infinity" then return signed Numeral.infinity
  if body.lower = "nan" then return Numeral.nan
  let n ← Numeral.readUnsigned negative body
  return n.toFloat

end VerdictClient
