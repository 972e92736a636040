import VerdictClient.Text

namespace VerdictClient.Utf8

inductive Fault where
  | invalidStart
  | invalidContinuation
  | unexpectedEnd
  deriving DecidableEq, Repr

inductive Head where
  | point (c : CodePoint) (width : Nat)
  | bad (fault : Fault) (width : Nat)

def announced (b : UInt8) : Option Nat :=
  if b < 0x80 then some 0
  else if b < 0xC2 then none
  else if b < 0xE0 then some 1
  else if b < 0xF0 then some 2
  else if b < 0xF5 then some 3
  else none

def isContinuation (b : UInt8) : Bool := 0x80 ≤ b && b < 0xC0

/-- Whether `c` may follow the leading octet `b`: no overlong form, no half of a pair, nothing
above the last code point. -/
def isSecond (b c : UInt8) : Bool :=
  isContinuation c &&
    (b != 0xE0 || 0xA0 ≤ c) && (b != 0xED || c < 0xA0) &&
    (b != 0xF0 || 0x90 ≤ c) && (b != 0xF4 || c < 0x90)

def join (b : UInt8) (tail : Bytes) : Nat :=
  tail.foldl (fun n c ↦ n * 64 + c.toNat % 64)
    (if tail.isEmpty then b.toNat else b.toNat % Nat.pow 2 (6 - tail.length))

def halfAt (b : UInt8) : Bytes → Option CodePoint
  | c :: d :: _ =>
    if b == 0xED && 0xA0 ≤ c && c < 0xC0 && isContinuation d then some (.ofNat (join b [c, d]))
    else none
  | _ => none

def headChar (b : UInt8) (rest : Bytes) : Head :=
  match announced b with
  | none => .bad .invalidStart 1
  | some n =>
    let tail := match rest.take n with
      | [] => []
      | c :: cs => if isSecond b c then c :: cs.takeWhile isContinuation else []
    if tail.length = n then .point (.ofNat (join b tail)) (n + 1)
    else if (rest.drop tail.length).isEmpty then .bad .unexpectedEnd (tail.length + 1)
    else .bad .invalidContinuation (tail.length + 1)

/-- With `halves`, three octets that spell half of a pair are read as that half. -/
def head (halves : Bool) (b : UInt8) (rest : Bytes) : Head :=
  match if halves then halfAt b rest else none with
  | some c => .point c 3
  | none => headChar b rest

structure Error where
  fault : Fault
  position : Nat
  octets : Bytes
  deriving DecidableEq, Repr

def decodeFrom (halves : Bool) (position : Nat) : Nat → Bytes → Except Error Text
  | _, [] => .ok []
  | skip + 1, _ :: bs => decodeFrom halves (position + 1) skip bs
  | 0, b :: bs =>
    match head halves b bs with
    | .point c width => (decodeFrom halves (position + 1) (width - 1) bs).map (c :: ·)
    | .bad fault width => .error ⟨fault, position, (b :: bs).take width⟩

def decode (halves : Bool) (bs : Bytes) : Except Error Text := decodeFrom halves 0 0 bs

def decodeReplacingFrom : Nat → Bytes → Text
  | _, [] => []
  | skip + 1, _ :: bs => decodeReplacingFrom skip bs
  | 0, b :: bs =>
    match headChar b bs with
    | .point c width => c :: decodeReplacingFrom (width - 1) bs
    | .bad _ width => .char '\ufffd' :: decodeReplacingFrom (width - 1) bs

/-- Every longest run of octets that is no text becomes one replacement character. -/
def decodeReplacing (bs : Bytes) : Text := decodeReplacingFrom 0 bs

def encodePoint (c : CodePoint) : Bytes :=
  let n := c.val
  let octet (k : Nat) : UInt8 := .ofNat k
  let continuation (unit : Nat) : UInt8 := octet (0x80 + n / unit % 0x40)
  if n < 0x80 then [octet n]
  else if n < 0x800 then [octet (0xC0 + n / 0x40), continuation 1]
  else if n < 0x10000 then [octet (0xE0 + n / 0x1000), continuation 0x40, continuation 1]
  else [octet (0xF0 + n / 0x40000), continuation 0x1000, continuation 0x40, continuation 1]

def encode (t : Text) : Bytes := t.flatMap encodePoint

structure EncodeError where
  position : Nat
  halves : Text
  deriving DecidableEq, Repr

def EncodeError.message (e : EncodeError) : Text :=
  let place : Text := match e.halves with
    | [c] => "character '\\u" ++ Text.hex 4 c.val ++ "' in position " ++ Text.ofNat e.position
    | hs => "characters in position " ++ Text.ofNat e.position ++ "-" ++
        Text.ofNat (e.position + hs.length - 1)
  "'utf-8' codec can't encode " ++ place ++ ": surrogates not allowed"

/-- The first run of halves that begins with a bad one. -/
def EncodeError.find? (isBad : CodePoint → Bool) (t : Text) : Option EncodeError :=
  let good := t.takeWhile (!isBad ·)
  let halves := (t.drop good.length).takeWhile fun c ↦ !c.isChar
  if halves.isEmpty then none else some ⟨good.length, halves⟩

theorem EncodeError.find?_eq_none_iff {isBad : CodePoint → Bool}
    (h : ∀ c, isBad c = true → c.isChar = false) (t : Text) :
    find? isBad t = none ↔ ∀ c ∈ t, isBad c = false := by
  induction t with
  | nil => simp [find?]
  | cons c t ih =>
    cases hc : isBad c with
    | true => simp [find?, hc, h c hc]
    | false =>
      have htail : find? isBad (c :: t) = none ↔ find? isBad t = none := by simp [find?, hc]
      rw [htail, ih]
      simp [hc]

end VerdictClient.Utf8
