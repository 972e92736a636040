import VerdictClient.Decimal.Integer
import VerdictClient.Text.Base64
import VerdictClient.Text.LowerCase
import VerdictClient.Text.Utf8
import VerdictClient.Value
import VerdictClient.Yaml.Scalar

namespace VerdictClient.Yaml

inductive Error where
  | malformed
  | codePoint (n : Nat)
  | integer (e : Numeral.IntegerError)
  | float (t : Text)
  | emptyNumber
  | oversizedNumber
  | switch (t : Text)
  | timestamp (e : TimestampError)
  | timestampForm
  | timestampInMapping
  | tooDeep
  deriving DecidableEq, Repr

/-- Numbers of code points above this are not even taken as numbers. -/
def codePointLimit : Nat := 0x80000000

def Error.message : Error → Text
  | malformed => "malformed document"
  | codePoint n =>
    if n < codePointLimit then "chr() arg not in range(0x110000)"
    else "Python int too large to convert to C int"
  | integer e => e.message
  | float t => Float.unreadable t
  | emptyNumber => "string index out of range"
  | oversizedNumber => "int too large to convert to float"
  | switch t => t.quoted
  | timestamp e => e.message
  | timestampForm => "'NoneType' object has no attribute 'groupdict'"
  | timestampInMapping => "expected string or bytes-like object, got 'list'"
  | tooDeep => "maximum recursion depth exceeded"

def Error.ofFault : Fault → Error
  | .malformed => malformed
  | .codePoint n => codePoint n
  | .oversizedVersion digits => integer (.oversized digits)
  | .tooDeep => tooDeep

namespace Meaning

def dropUnderscores (t : Text) : Text := t.filter (· ≠ .char '_')

def sign (t : Text) : Except Error (Bool × Text) :=
  match t with
  | [] => .error .emptyNumber
  | c :: r => if Form.isSign c then .ok (c = .char '-', r) else .ok (false, c :: r)

def ofSixties (parts : List Int) : Int := parts.foldl (fun n d ↦ n * 60 + d) 0

def readInteger (base : Nat) (t : Text) : Except Error Int :=
  (Numeral.readInteger base t).mapError .integer

def magnitude (t : Text) : Except Error Int :=
  match t with
  | [] => .error .emptyNumber
  | [.char '0'] => .ok 0
  | .char '0' :: .char 'b' :: r => readInteger 2 r
  | .char '0' :: .char 'x' :: r => readInteger 16 r
  | .char '0' :: r => readInteger 8 (.char '0' :: r)
  | t =>
    if t.contains (.char ':') then ((Form.pieces t).mapM (readInteger 10)).map ofSixties
    else readInteger 10 t

def integer (t : Text) : Except Error Int := do
  let (negative, t) ← sign (dropUnderscores t)
  let n ← magnitude t
  return if negative then -n else n

def readFloat (t : Text) : Except Error Float :=
  match Float.read t with
  | some x => .ok x
  | none => .error (.float t)

/-- How many parts a number in base sixty may have, so that every weight is a double. -/
def sixtyParts : Nat := 174

def sumSixties (parts : List Float) : Float :=
  (parts.foldl
    (fun (acc : Float × Nat) x ↦ (acc.1 + x * Numeral.toFloat ⟨false, acc.2, 0⟩, acc.2 * 60))
    (0.0, 1)).1

def floatParts (t : Text) : Except Error (Bool × Text) := sign (dropUnderscores t).lowerCase

def nan : Text := ".nan"

def isNan (t : Text) : Bool :=
  match floatParts t with
  | .ok (_, t) => t = nan
  | .error _ => false

def float (t : Text) : Except Error Float := do
  let (negative, t) ← floatParts t
  let x ←
    if t = ".inf" then pure Numeral.infinity
    else if t = nan then pure Numeral.nan
    else if t.contains (.char ':') then do
      let parts ← (Form.pieces t).mapM readFloat
      if sixtyParts < parts.length then throw .oversizedNumber
      pure (sumSixties parts.reverse)
    else readFloat t
  return if negative then -x else x

def switch (t : Text) : Except Error Bool :=
  if Form.truths.contains t.lowerCase then .ok true
  else if Form.falsehoods.contains t.lowerCase then .ok false
  else .error (.switch t.lowerCase)

def timestamp (t : Text) : Except Error Timestamp :=
  match Form.timestamp? (Form.dropLineFeed t) with
  | some s => s.check.mapError .timestamp |>.map fun _ ↦ s
  | none => .error .timestampForm

def ascii? (t : Text) : Option (List Char) :=
  t.mapM fun
    | .char c => if c.toNat < 128 then some c else none
    | .half _ => none

def octets (t : Text) : Except Error Bytes :=
  match (ascii? t).bind Base64.decode? with
  | some bs => .ok bs
  | none => .error .malformed

end Meaning

def Tag.hasText : Tag → Bool
  | .null | .bool | .int | .float | .binary | .timestamp | .str => true
  | .omap | .pairs | .set | .seq | .map | .merge | .value | .other _ => false

def Tag.valueOf (tag : Tag) (t : Text) : Except Error Value :=
  match tag with
  | .null => .ok .null
  | .bool => (Meaning.switch t).map .bool
  | .int => (Meaning.integer t).map .int
  | .float => (Meaning.float t).map .float
  | .binary => (Meaning.octets t).map .bytes
  | .timestamp => (Meaning.timestamp t).map .date
  | .str => .ok (.text t)
  | .omap | .pairs | .set | .seq | .map | .merge | .value | .other _ => .error .malformed

end VerdictClient.Yaml
