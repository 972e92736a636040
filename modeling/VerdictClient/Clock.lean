import VerdictClient.Value

namespace VerdictClient

class Clock (τ : Type) where
  zero : τ
  add : τ → τ → τ
  sub : τ → τ → τ
  lt : τ → τ → Bool
  /-- Whether a span is longer than anyone can be made to wait. -/
  outlasts : τ → Bool

/-- The seconds of a machine whose waits are counted in nanoseconds, in words of 64 bits. -/
instance : Clock Float where
  zero := 0.0
  add := (· + ·)
  sub := (· - ·)
  lt a b := a < b
  outlasts span := 9223372036854775808.0 ≤ span * 1000000000.0

instance : Clock Int where
  zero := 0
  add := (· + ·)
  sub := (· - ·)
  lt a b := decide (a < b)
  outlasts span := decide (9223372036854775808 ≤ span * 1000000000)

namespace Clock

variable {τ : Type} [Clock τ]

def left (now deadline : τ) : τ :=
  let d := sub deadline now
  if lt zero d then d else zero

def wake (now deadline : τ) : τ := add now (left now deadline)

end Clock

inductive Timeout (τ : Type) where
  | after (span : τ)
  | whole (span : τ)
  | never
  /-- A whole number of seconds that no double comes near. -/
  | oversized (isPositive : Bool)
  | unusable (typeName : Text)

def Timeout.span? {τ : Type} : Timeout τ → Option τ
  | after span | whole span => some span
  | never | oversized _ | unusable _ => none

def Timeout.ofValue : Value → Timeout Float
  | .int n => if (Float.ofInt n).isFinite then whole (Float.ofInt n) else oversized (decide (0 < n))
  | .float x => after x
  | .bool b => whole (if b then 1.0 else 0.0)
  | .null => never
  | v => unusable v.typeName

end VerdictClient
