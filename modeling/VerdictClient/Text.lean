namespace VerdictClient

/-- A character, or one half of a surrogate pair standing alone. -/
inductive CodePoint where
  | char (c : Char)
  | half (i : Fin 0x800)
  deriving DecidableEq, Repr, Inhabited

abbrev Text := List CodePoint

abbrev Bytes := List UInt8

namespace CodePoint

def val : CodePoint → Nat
  | char c => c.toNat
  | half i => 0xD800 + i

/-- The code point with this number; numbers above the last code point give NUL. -/
def ofNat (n : Nat) : CodePoint :=
  if h : 0xD800 ≤ n ∧ n < 0xE000 then half ⟨n - 0xD800, by omega⟩ else char (Char.ofNat n)

def isChar : CodePoint → Bool
  | char _ => true
  | half _ => false

def hexDigit? (c : CodePoint) : Option Nat :=
  let n := c.val
  if 0x30 ≤ n && n ≤ 0x39 then some (n - 0x30)
  else if 0x41 ≤ n && n ≤ 0x46 then some (n - 0x41 + 10)
  else if 0x61 ≤ n && n ≤ 0x66 then some (n - 0x61 + 10)
  else none

def digit? (c : CodePoint) : Option Nat :=
  let n := c.val
  if 0x30 ≤ n && n ≤ 0x39 then some (n - 0x30) else none

def isDigit (c : CodePoint) : Bool := c.digit?.isSome

def lower : CodePoint → CodePoint
  | char c => char c.toLower
  | half i => half i

instance : Coe Char CodePoint := ⟨char⟩

end CodePoint

namespace Text

def ofString (s : String) : Text := s.toList.map .char

instance : Coe String Text := ⟨ofString⟩

/-- The text as a string; a lone half becomes the replacement character. -/
def toString (t : Text) : String :=
  String.ofList (t.map fun | .char c => c | .half _ => '\ufffd')

def ofNat (n : Nat) : Text := ofString n.repr

def ofInt (n : Int) : Text := ofString (if n < 0 then "-" ++ n.natAbs.repr else n.natAbs.repr)

def lower (t : Text) : Text := t.map CodePoint.lower

def intercalate (sep : Text) (ts : List Text) : Text := (ts.intersperse sep).flatten

def IsWhole (t : Text) : Prop := ∀ c ∈ t, c.isChar = true

instance (t : Text) : Decidable t.IsWhole := inferInstanceAs (Decidable (∀ c ∈ t, _))

theorem isWhole_ofString (s : String) : (ofString s).IsWhole := by
  intro c hc
  obtain ⟨d, _, rfl⟩ := List.mem_map.1 hc
  rfl

def le (s t : Text) : Bool := !List.lex t s fun a b ↦ a.val < b.val

def hex (width n : Nat) : Text :=
  let digits := Nat.toDigits 16 n
  ofString (String.ofList (List.replicate (width - digits.length) '0' ++ digits))

end Text

end VerdictClient
