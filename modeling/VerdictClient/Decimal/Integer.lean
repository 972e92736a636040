import VerdictClient.Decimal

namespace VerdictClient.Numeral

inductive IntegerError where
  | invalid (base : Nat) (t : Text)
  | oversized (digits : Nat)
  deriving DecidableEq, Repr

def IntegerError.message : IntegerError → Text
  | invalid base t =>
    "invalid literal for int() with base " ++ Text.ofNat base ++ ": " ++ t.quoted.take 200
  | oversized digits => oversizedText digits

def digitIn? (base : Nat) (c : CodePoint) : Option Nat := c.hexDigit?.filter (· < base)

def baseMark? : Nat → Option Char
  | 2 => some 'b'
  | 8 => some 'o'
  | 16 => some 'x'
  | _ => none

def dropBaseMark (base : Nat) : Text → Text
  | z :: c :: r =>
    if z = .char '0' && (baseMark? base).any (c.lower = .char ·) then r else z :: c :: r
  | t => t

def valueIn (base : Nat) (ds : List Nat) : Nat := ds.foldl (fun n d ↦ n * base + d) 0

/-- Whether the number of digits in this base is limited: powers of two are read digit by digit. -/
def isLimited (base : Nat) : Bool := base = 10

/-- The whole number that a text names: blanks around, a sign, a mark of the base, digits of any
script. Underscores are no part of it. -/
def readInteger (base : Nat) (t : Text) : Except IntegerError Int :=
  let (negative, body) := takeSign (toAscii (t.trim CodePoint.isNumberBlank))
  let body := dropBaseMark base body
  let digits := (body.takeWhile fun c ↦ (digitIn? base c).isSome).filterMap (digitIn? base)
  if isLimited base && digitLimit < digits.length then .error (.oversized digits.length)
  else if digits.isEmpty || digits.length ≠ body.length then .error (.invalid base t)
  else
    let n : Int := valueIn base digits
    .ok (if negative then -n else n)

end VerdictClient.Numeral
