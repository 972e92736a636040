import VerdictClient.Text

namespace VerdictClient.Shortest

structure Binary where
  mantissa : Nat
  exponent : Int

def hidden : Nat := 0x10000000000000

def exponentBits (x : Float) : Nat := x.toBits.toNat / hidden % 0x800

def isNegative (x : Float) : Bool := 0x8000000000000000 ≤ x.toBits.toNat

def Binary.ofFloat (x : Float) : Binary :=
  let fraction := x.toBits.toNat % hidden
  let e := exponentBits x
  if e = 0 then ⟨fraction, -1074⟩ else ⟨hidden + fraction, (e : Int) - 1075⟩

/-- Four times the double and the ends of the interval that rounds to it, in units of
`num / den`; the interval is closed when the mantissa is even. -/
structure Interval where
  low : Nat
  mid : Nat
  high : Nat
  num : Nat
  den : Nat
  closed : Bool

def Binary.interval (b : Binary) : Interval :=
  let low := if b.mantissa = hidden ∧ b.exponent ≠ -1074 then 4 * b.mantissa - 1 else 4 * b.mantissa - 2
  let e := b.exponent - 2
  ⟨low, 4 * b.mantissa, 4 * b.mantissa + 2, Nat.pow 2 e.toNat, Nat.pow 2 (-e).toNat, b.mantissa % 2 = 0⟩

structure Decimal where
  digits : Nat
  scale : Int
  deriving DecidableEq, Repr

def Interval.compare (i : Interval) (d : Decimal) (k : Nat) : Ordering :=
  Ord.compare (d.digits * Nat.pow 10 d.scale.toNat * i.den) (k * i.num * Nat.pow 10 (-d.scale).toNat)

def Interval.contains (i : Interval) (d : Decimal) : Bool :=
  match i.compare d i.low, i.compare d i.high with
  | .gt, .lt => true
  | .eq, _ | _, .eq => i.closed
  | _, _ => false

/-- Whether `d` lies nearer to the middle than its upper neighbour does; ties go to the even one. -/
def Interval.prefersLower (i : Interval) (d : Decimal) : Bool :=
  match i.compare ⟨2 * d.digits + 1, d.scale⟩ (2 * i.mid) with
  | .gt => true
  | .eq => d.digits % 2 = 0
  | .lt => false

/-- The place `k` with `10 ^ (k - 1) ≤ v < 10 ^ k` for the double `v` in the middle. -/
def Interval.magnitude (i : Interval) : Int :=
  ((Nat.toDigits 10 (i.mid * i.num * Nat.pow 10 340 / i.den)).length : Int) - 340

/-- The best decimal with the places down to `10 ^ scale`, if one reads back. -/
def Interval.atScale (i : Interval) (scale : Int) : Option Decimal :=
  let below : Decimal :=
    ⟨i.mid * i.num * Nat.pow 10 (-scale).toNat / (i.den * Nat.pow 10 scale.toNat), scale⟩
  let above : Decimal := ⟨below.digits + 1, scale⟩
  match i.contains below, i.contains above with
  | true, true => some (if i.prefersLower below then below else above)
  | true, false => some below
  | false, true => some above
  | false, false => none

/-- The decimal with the fewest digits that reads back as this positive double. -/
def Binary.shortest (b : Binary) : Decimal :=
  let i := b.interval
  let k := i.magnitude
  ((List.range 17).findSome? fun n ↦ i.atScale (k - (n + 1 : Nat))).getD ⟨0, 0⟩

def exponentText (e : Int) : Text :=
  let digits := Nat.toDigits 10 e.natAbs
  (if e < 0 then "-" else "+") ++
    Text.ofString (String.ofList (List.replicate (2 - digits.length) '0' ++ digits))

def layout (digits : List Char) (place : Int) : Text :=
  let n : Int := digits.length
  let text : String :=
    if place ≤ -4 ∨ 16 < place then
      String.ofList (digits.take 1 ++ if digits.length = 1 then [] else '.' :: digits.drop 1)
    else if place ≤ 0 then String.ofList ('0' :: '.' :: List.replicate (-place).toNat '0' ++ digits)
    else if n ≤ place then
      String.ofList (digits ++ List.replicate (place - n).toNat '0' ++ ['.', '0'])
    else String.ofList (digits.take place.toNat ++ '.' :: digits.drop place.toNat)
  if place ≤ -4 ∨ 16 < place then text ++ "e" ++ exponentText (place - 1) else text

def magnitudeText (x : Float) : Text :=
  let b := Binary.ofFloat x
  if exponentBits x = 2047 then if b.mantissa = hidden then "inf" else "nan"
  else if b.mantissa = 0 then "0.0"
  else
    let d := b.shortest
    let all := Nat.toDigits 10 d.digits
    let kept := (all.reverse.dropWhile (· == '0')).reverse
    layout kept ((all.length : Int) + d.scale)

end VerdictClient.Shortest

namespace VerdictClient

def Text.ofFloat (x : Float) : Text :=
  let t := Shortest.magnitudeText x
  if Shortest.isNegative x && t != Text.ofString "nan" then .char '-' :: t else t

end VerdictClient
