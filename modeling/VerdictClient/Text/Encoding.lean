import VerdictClient.Text.Utf8

namespace VerdictClient

inductive Endian where
  | little
  | big
  deriving DecidableEq, Repr

inductive Encoding where
  | utf8
  | utf16 (order : Endian)
  | utf32 (order : Endian)
  deriving DecidableEq, Repr

namespace Encoding

def octets (count n : Nat) : Bytes :=
  (List.range count).reverse.map fun i ↦ .ofNat (n / Nat.pow 256 i)

def unit (order : Endian) (count n : Nat) : Bytes :=
  match order with
  | .big => octets count n
  | .little => (octets count n).reverse

def ofUnit (order : Endian) (bs : Bytes) : Nat :=
  let big := match order with
    | .big => bs
    | .little => bs.reverse
  big.foldl (fun n b ↦ n * 256 + b.toNat) 0

def units16 (c : CodePoint) : List Nat :=
  let n := c.val
  if n < 0x10000 then [n] else [0xD800 + (n - 0x10000) / 0x400, 0xDC00 + (n - 0x10000) % 0x400]

def encode (t : Text) : Encoding → Bytes
  | utf8 => Utf8.encode t
  | utf16 order => t.flatMap fun c ↦ (units16 c).flatMap (unit order 2)
  | utf32 order => t.flatMap fun c ↦ unit order 4 c.val

/-- The encoding of U+FEFF, which may open a text to tell its encoding. -/
def mark (e : Encoding) : Bytes := e.encode [.char '\ufeff']

structure DecodeError where
  encoding : Encoding
  reason : Text
  position : Nat
  octets : Bytes
  deriving DecidableEq, Repr

def name : Encoding → Text
  | utf8 => "utf-8"
  | utf16 .little => "utf-16-le"
  | utf16 .big => "utf-16-be"
  | utf32 .little => "utf-32-le"
  | utf32 .big => "utf-32-be"

def DecodeError.message (e : DecodeError) : Text :=
  let place : Text := match e.octets with
    | [b] => "byte 0x" ++ Text.hex 2 b.toNat ++ " in position " ++ Text.ofNat e.position
    | bs => "bytes in position " ++ Text.ofNat e.position ++ "-" ++
        Text.ofNat (e.position + bs.length - 1)
  "'" ++ e.encoding.name ++ "' codec can't decode " ++ place ++ ": " ++ e.reason

def faultReason : Utf8.Fault → Text
  | .invalidStart => "invalid start byte"
  | .invalidContinuation => "invalid continuation byte"
  | .unexpectedEnd => "unexpected end of data"

/-- Joins the halves of each surrogate pair; a half without its partner stands alone. -/
def joinPairs : List Nat → Text
  | [] => []
  | [u] => [.ofNat u]
  | u :: v :: us =>
    if 0xD800 ≤ u ∧ u < 0xDC00 ∧ 0xDC00 ≤ v ∧ v < 0xE000 then
      .ofNat (0x10000 + (u - 0xD800) * 0x400 + (v - 0xDC00)) :: joinPairs us
    else .ofNat u :: joinPairs (v :: us)

def truncated (e : Encoding) (position : Nat) (bs : Bytes) : DecodeError :=
  ⟨e, "truncated data", position, bs⟩

def decode16 (order : Endian) (position : Nat) : Bytes → Except DecodeError (List Nat)
  | [] => .ok []
  | [b] => .error (truncated (utf16 order) position [b])
  | a :: b :: bs => (decode16 order (position + 2) bs).map (ofUnit order [a, b] :: ·)

def decode32 (order : Endian) (position : Nat) : Bytes → Except DecodeError Text
  | [] => .ok []
  | a :: b :: c :: d :: bs =>
    let n := ofUnit order [a, b, c, d]
    if n < 0x110000 then (decode32 order (position + 4) bs).map (.ofNat n :: ·)
    else .error ⟨utf32 order, "code point not in range(0x110000)", position, [a, b, c, d]⟩
  | bs => .error (truncated (utf32 order) position bs)

/-- Reads octets in a known encoding; the first of them stands at `position`. A half of a
surrogate pair may stand alone. -/
def decode (bs : Bytes) (position : Nat) : Encoding → Except DecodeError Text
  | utf8 => match Utf8.decodeFrom true position 0 bs with
    | .ok t => .ok t
    | .error e => .error ⟨utf8, faultReason e.fault, e.position, e.octets⟩
  | utf16 order => (decode16 order position bs).map joinPairs
  | utf32 order => decode32 order position bs

def decodeWhole (bs : Bytes) : Except DecodeError Text :=
  (Utf8.decode false bs).mapError fun e ↦ ⟨utf8, faultReason e.fault, e.position, e.octets⟩

def marked? (bs : Bytes) : Option Encoding :=
  [utf32 .big, utf32 .little, utf16 .big, utf16 .little, utf8].find? fun e ↦ e.mark.isPrefixOf bs

/-- The encoding that the first octets suggest, a text opening with two ASCII characters. -/
def guess : Bytes → Encoding
  | 0 :: 0 :: _ :: _ :: _ => utf32 .big
  | 0 :: _ :: _ :: _ :: _ => utf16 .big
  | _ :: 0 :: 0 :: 0 :: _ => utf32 .little
  | _ :: 0 :: _ :: _ :: _ => utf16 .little
  | [0, _] => utf16 .big
  | [_, 0] => utf16 .little
  | _ => utf8

/-- Reads octets in the encoding that they announce or suggest, leaving out the mark. Places are
counted from the first octet, in UTF-8 from the first behind the mark. -/
def detectAndDecode (bs : Bytes) : Except DecodeError Text :=
  match marked? bs with
  | none => (guess bs).decode bs 0
  | some utf8 => utf8.decode (bs.drop 3) 0
  | some e => e.decode (bs.drop e.mark.length) e.mark.length

end Encoding

end VerdictClient
