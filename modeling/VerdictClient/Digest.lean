import VerdictClient.Digest.Sha256

namespace VerdictClient.Digest

def ofBytes (bs : Bytes) : Text := (Sha256.State.start.update bs).finish

/-- A content in the pieces that reading it `size` octets at a time gives. -/
def pieces (size : Nat) (bs : Bytes) : List Bytes :=
  if bs.isEmpty ∨ size = 0 then [] else bs.take size :: pieces size (bs.drop size)
termination_by bs.length
decreasing_by
  rename_i h
  have : bs ≠ [] := fun e ↦ h (.inl (by simp [e]))
  have := List.length_pos_iff.2 this
  simp only [List.length_drop]
  omega

def pieceSize : Nat := 64 * 1024

def ofFile (content : Bytes) : Text :=
  ((pieces pieceSize content).foldl Sha256.State.update .start).finish

structure Reading where
  left : Bytes
  fed : List Bytes
  digest : Sha256.State

namespace Reading

def next? (r : Reading) : Option Reading :=
  let piece := r.left.take pieceSize
  if piece.isEmpty then none
  else some ⟨r.left.drop pieceSize, r.fed ++ [piece], r.digest.update piece⟩

/-- The loop after some turns, if it goes on that long. -/
def after (content : Bytes) : Nat → Option Reading
  | 0 => some ⟨content, [], .start⟩
  | k + 1 => (after content k).bind next?

end Reading

theorem flatten_pieces {size : Nat} (h : size ≠ 0) (bs : Bytes) : (pieces size bs).flatten = bs := by
  induction bs using pieces.induct size with
  | case1 bs hend =>
    rw [pieces, if_pos hend, List.flatten_nil]
    exact (List.isEmpty_iff.1 (hend.resolve_right h)).symm
  | case2 bs hend ih =>
    rw [pieces, if_neg hend, List.flatten_cons, ih, List.take_append_drop]

theorem ofFile_eq_ofBytes (content : Bytes) : ofFile content = ofBytes content := by
  rw [ofFile, Sha256.State.foldl_update, flatten_pieces (by decide), ofBytes]

def IsDigest (t : Text) : Prop := t.length = 64 ∧ ∀ c ∈ t, c.hexDigit?.isSome

instance (t : Text) : Decidable (IsDigest t) := inferInstanceAs (Decidable (_ ∧ _))

end VerdictClient.Digest
