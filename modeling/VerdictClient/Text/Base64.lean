import VerdictClient.Text

namespace VerdictClient.Base64

def digit? (c : Char) : Option Nat :=
  if c.isUpper then some (c.toNat - 'A'.toNat)
  else if c.isLower then some (c.toNat - 'a'.toNat + 26)
  else if c.isDigit then some (c.toNat - '0'.toNat + 52)
  else if c = '+' then some 62
  else if c = '/' then some 63
  else none

/-- Reads on in a group of four of which `held` digits have been read, the last of them `last`, and
`pads` signs of padding in a row. Nothing is returned if a group is not complete at the end. -/
def decodeFrom : (held last pads : Nat) → List Char → Option Bytes
  | held, _, _, [] => if held = 0 then some [] else none
  | held, last, pads, c :: r =>
    if c = '=' then
      if 2 ≤ held then
        if 4 ≤ held + pads + 1 then some [] else decodeFrom held last (pads + 1) r
      else decodeFrom held last pads r
    else
      match digit? c with
      | none => decodeFrom held last pads r
      | some d =>
        if held = 0 then decodeFrom 1 d 0 r
        else
          let octet := (last * 64 + d) / Nat.pow 4 (3 - held)
          (decodeFrom ((held + 1) % 4) d 0 r).map (UInt8.ofNat octet :: ·)

def decode? (cs : List Char) : Option Bytes := decodeFrom 0 0 0 cs

end VerdictClient.Base64
