import VerdictClient.Text

namespace VerdictClient.Text

def commonPrefix : Text → Text → Nat
  | c :: s, d :: t => if c = d then commonPrefix s t + 1 else 0
  | _, _ => 0

structure Block where
  left : Nat
  right : Nat
  length : Nat
  deriving DecidableEq, Repr

def blocks (s t : Text) : List Block :=
  (List.range s.length).flatMap fun i ↦
    (List.range t.length).map fun j ↦ ⟨i, j, commonPrefix (s.drop i) (t.drop j)⟩

def longestBlock (s t : Text) : Block :=
  (blocks s t).foldl (fun best b ↦ if best.length < b.length then b else best) ⟨0, 0, 0⟩

def sharedWithin : Nat → Text → Text → Nat
  | 0, _, _ => 0
  | n + 1, s, t =>
    let b := longestBlock s t
    if b.length = 0 then 0
    else
      sharedWithin n (s.take b.left) (t.take b.right) + b.length +
        sharedWithin n (s.drop (b.left + b.length)) (t.drop (b.right + b.length))

def shared (s t : Text) : Nat := sharedWithin (s.length + 1) s t

def isSimilar (s t : Text) : Bool := 3 * (s.length + t.length) ≤ 10 * shared s t

/-- Whether `s` is more like `word` than `t` is, or as much like it and not before `t` in order. -/
def isCloser (word s t : Text) : Bool :=
  let a := shared s word * (t.length + word.length)
  let b := shared t word * (s.length + word.length)
  b < a || (a = b && Text.le t s)

/-- The known texts that are similar to a word, in order; of many, the three that are closest. -/
def similar (word : Text) (known : List Text) : List Text :=
  (((known.filter fun t ↦ isSimilar t word).mergeSort (isCloser word)).take 3).mergeSort Text.le

end VerdictClient.Text
