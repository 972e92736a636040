import VerdictClient.Decimal.Shortest
import VerdictClient.Text.Quoted
import VerdictClient.Timestamp

namespace VerdictClient

inductive Value where
  | null
  | bool (b : Bool)
  | int (n : Int)
  | float (x : Float)
  | text (t : Text)
  | list (items : List Value)
  | map (entries : List (Value × Value))
  | date (s : Timestamp)
  | bytes (bs : Bytes)
  /-- A list of two items that stands for an entry of an ordered map. -/
  | pair (key value : Value)
  | set (items : List Value)
  | again (isMap : Bool)
  deriving Inhabited

namespace Value

def typeName : Value → Text
  | null => "NoneType"
  | bool _ => "bool"
  | int _ => "int"
  | float _ => "float"
  | text _ => "str"
  | list _ => "list"
  | map _ => "dict"
  | date s => if s.time.isSome then "datetime.datetime" else "datetime.date"
  | bytes _ => "bytes"
  | pair _ _ => "tuple"
  | set _ => "set"
  | again true => "dict"
  | again false => "list"

def ofBool (b : Bool) : Int := if b then 1 else 0

def wholeNumber? (x : Float) : Option Int :=
  let b := Shortest.Binary.ofFloat x
  let small := Nat.pow 2 (-b.exponent).toNat
  if Shortest.exponentBits x = 2047 ∨ b.mantissa % small ≠ 0 then none
  else
    let n : Int := b.mantissa / small * Nat.pow 2 b.exponent.toNat
    some (if Shortest.isNegative x then -n else n)

/-- The greatest whole number that is not above a finite double. -/
def floor (x : Float) : Int :=
  let b := Shortest.Binary.ofFloat x
  let n : Int := b.mantissa * Nat.pow 2 b.exponent.toNat
  (if Shortest.isNegative x then -n else n).fdiv (Nat.pow 2 (-b.exponent).toNat)

def floatIs (x : Float) (n : Int) : Bool := wholeNumber? x == some n

def weigh : Value → Value
  | bool b => int (ofBool b)
  | v => v

def isLess (v w : Value) : Bool :=
  match v.weigh, w.weigh with
  | int m, int n => m < n
  | float x, float y => x < y
  | int n, float x => if x.isFinite then n < -floor (-x) else 0.0 < x
  | float x, int n => if x.isFinite then floor x < n else x < 0.0
  | _, _ => false

def isNumber : Value → Bool
  | bool _ | int _ | float _ => true
  | _ => false

/-- Whether two keys of a map are the same key; numbers and truth values are compared as numbers. -/
def sameKey : Value → Value → Bool
  | null, null => true
  | bool a, bool b => a == b
  | bool a, int n | int n, bool a => ofBool a == n
  | int m, int n => m == n
  | bool a, float x | float x, bool a => floatIs x (ofBool a)
  | int n, float x | float x, int n => floatIs x n
  | float x, float y => x == y
  | text s, text t => s == t
  | date s, date t => s.isSame t
  | bytes s, bytes t => s == t
  | _, _ => false

/-- Gives `k` the value `v`: where the key stands already, or else at the end. -/
def insert (k v : Value) : List (Value × Value) → List (Value × Value)
  | [] => [(k, v)]
  | (k', v') :: es => if sameKey k' k then (k', v) :: es else (k', v') :: insert k v es

def get? (key : Text) : List (Value × Value) → Option Value
  | [] => none
  | (text k, v) :: es => if k = key then some v else get? key es
  | _ :: es => get? key es

def object (members : List (Text × Value)) : Value := map (members.map fun m ↦ (text m.1, m.2))

def displayByte (quote : Char) (b : UInt8) : Text :=
  let c := Char.ofNat b.toNat
  if c = quote ∨ c = '\\' then ['\\', c]
  else if c = '\n' then "\\n"
  else if c = '\r' then "\\r"
  else if c = '\t' then "\\t"
  else if 0x20 ≤ b && b < 0x7F then [c]
  else "\\x" ++ Text.hex 2 b.toNat

def displayBytes (bs : Bytes) : Text :=
  let quote := if bs.contains 0x27 && !bs.contains 0x22 then '"' else '\''
  "b" ++ [CodePoint.char quote] ++ bs.flatMap (displayByte quote) ++ [CodePoint.char quote]

mutual

def display : Value → Text
  | null => "None"
  | bool b => if b then "True" else "False"
  | int n => Text.ofInt n
  | float x => Text.ofFloat x
  | text t => t.quoted
  | list items => "[" ++ displayItems items ++ "]"
  | map entries => "\x7b" ++ displayEntries entries ++ "\x7d"
  | date s => s.display
  | bytes bs => displayBytes bs
  | pair k v => "(" ++ k.display ++ ", " ++ v.display ++ ")"
  | set [] => "set()"
  | set items => "\x7b" ++ displayItems items ++ "\x7d"
  | again true => "\x7b...\x7d"
  | again false => "[...]"

def displayItems : List Value → Text
  | [] => []
  | [v] => v.display
  | v :: vs => v.display ++ ", " ++ displayItems vs

def displayEntries : List (Value × Value) → Text
  | [] => []
  | [(k, v)] => k.display ++ ": " ++ v.display
  | (k, v) :: es => k.display ++ ": " ++ v.display ++ ", " ++ displayEntries es

end

def plain : Value → Text
  | text t => t
  | date s => s.iso " "
  | v => v.display

/-- Whether a value counts as given: neither null, false, zero nor empty. -/
def isTruthy : Value → Bool
  | null => false
  | bool b => b
  | int n => n != 0
  | float x => x != 0.0
  | text t => !t.isEmpty
  | list items => !items.isEmpty
  | map entries => !entries.isEmpty
  | date _ => true
  | bytes bs => !bs.isEmpty
  | pair _ _ => true
  | set items => !items.isEmpty
  | again _ => true

end Value

end VerdictClient
