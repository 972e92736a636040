import VerdictClient.Digest

namespace VerdictClient

namespace Text

variable {width n : Nat} {c : CodePoint}

def hexDigits : Text := "0123456789abcdef"

theorem digitChar_mem_hexDigits (h : n < 16) : CodePoint.char n.digitChar ∈ hexDigits := by
  revert n
  decide

theorem mem_hexDigits_of_mem_toDigits {d : Char} (h : d ∈ Nat.toDigits 16 n) : .char d ∈ hexDigits := by
  induction n using Nat.strongRecOn with
  | ind n ih =>
    rw [Nat.toDigits_eq_if (by decide)] at h
    split at h
    · next hn =>
      rw [List.mem_singleton.1 h]
      exact digitChar_mem_hexDigits hn
    · rcases List.mem_append.1 h with h | h
      · exact ih (n / 16) (by omega) h
      · rw [List.mem_singleton.1 h]
        exact digitChar_mem_hexDigits (Nat.mod_lt n (by decide))

theorem mem_hexDigits_of_mem_hex (h : c ∈ hex width n) : c ∈ hexDigits := by
  simp only [hex, ofString, String.toList_ofList, List.mem_map, List.mem_append, List.mem_replicate] at h
  obtain ⟨d, ⟨-, rfl⟩ | hd, rfl⟩ := h
  · decide
  · exact mem_hexDigits_of_mem_toDigits hd

theorem length_hex (h : (Nat.toDigits 16 n).length ≤ width) : (hex width n).length = width := by
  simp only [hex, ofString, String.toList_ofList, List.length_map, List.length_append,
    List.length_replicate]
  omega

end Text

namespace Sha256

variable {s : State} {bs : Bytes} {b : UInt8}

/-- A digest under way that has taken in `bs`: the whole blocks are compressed, and what is left over waits
for its block to fill. -/
def State.Absorbed (s : State) (bs : Bytes) : Prop :=
  ∃ (blocks : List Bytes) (rest : Bytes), bs = blocks.flatten ++ rest ∧
    (∀ block ∈ blocks, block.length = 64) ∧ rest.length < 64 ∧
    s = ⟨blocks.foldl compress .start, rest.reverse, bs.length⟩

theorem State.absorbed_start : State.start.Absorbed [] :=
  ⟨[], [], rfl, by simp, by decide, rfl⟩

theorem State.Absorbed.feed (h : s.Absorbed bs) (b : UInt8) : (s.feed b).Absorbed (bs ++ [b]) := by
  obtain ⟨blocks, rest, rfl, hblocks, hrest, rfl⟩ := h
  unfold State.feed
  by_cases hopen : rest.length < 63
  · -- The octet joins those that wait.
    rw [if_pos (by simpa using hopen)]
    exact ⟨blocks, rest ++ [b], by simp, hblocks, by simp; omega, by simp [Nat.add_assoc]⟩
  · -- The octet fills the block.
    rw [if_neg (by simpa using hopen)]
    refine ⟨blocks ++ [rest ++ [b]], [], by simp, ?_, by decide, by simp [Nat.add_assoc]⟩
    intro block hblock
    rcases List.mem_append.1 hblock with hblock | hblock
    · exact hblocks block hblock
    · rw [List.mem_singleton.1 hblock, List.length_append, List.length_singleton]
      omega

theorem State.Absorbed.update (h : s.Absorbed bs) (cs : Bytes) : (s.update cs).Absorbed (bs ++ cs) := by
  induction cs generalizing s bs with
  | nil => rwa [List.append_nil]
  | cons c cs ih =>
    have hcs := ih (h.feed c)
    rwa [List.append_assoc] at hcs

theorem length_padding (n : Nat) : (n + (padding n).length) % 64 = 0 := by
  simp [padding]
  omega

end Sha256

namespace Digest

open Sha256

variable {content : Bytes} {c : CodePoint}

theorem pieces_of_ne_nil {size : Nat} (hsize : size ≠ 0) (h : content ≠ []) :
    pieces size content = content.take size :: pieces size (content.drop size) := by
  rw [pieces, if_neg (by simp [h, hsize])]

theorem pieces_flatten {size : Nat} (hsize : size ≠ 0) {blocks : List Bytes}
    (h : ∀ block ∈ blocks, block.length = size) : pieces size blocks.flatten = blocks := by
  induction blocks with
  | nil => simp [pieces]
  | cons block blocks ih =>
    obtain ⟨hblock, hrest⟩ := List.forall_mem_cons.1 h
    have hne : (block :: blocks).flatten ≠ [] := by
      intro h
      rw [List.flatten_cons, List.append_eq_nil_iff] at h
      exact hsize (by rw [← hblock, h.1, List.length_nil])
    rw [pieces_of_ne_nil hsize hne, List.flatten_cons, List.take_left' hblock, List.drop_left' hblock,
      ih hrest]

theorem ofBytes_eq (content : Bytes) :
    ofBytes content = ((pieces 64 (content ++ padding content.length)).foldl compress .start).words.flatMap
      fun w ↦ Text.hex 8 w.toNat := by
  have hcontent : (State.start.update content).Absorbed content := State.absorbed_start.update content
  have hlength : (State.start.update content).length = content.length := by
    obtain ⟨_, _, -, -, -, heq⟩ := hcontent
    rw [heq]
  obtain ⟨blocks, rest, hsum, hblocks, hrest, heq⟩ := hcontent.update (padding content.length)
  have hnil : rest = [] := by
    have hlen := congrArg List.length hsum
    have hfull := length_padding content.length
    have hflat : blocks.flatten.length = blocks.length * 64 := by
      rw [List.length_flatten, List.map_congr_left hblocks, List.map_const', List.sum_replicate_nat]
    simp only [List.length_append, hflat] at hlen
    exact List.length_eq_zero_iff.1 (by omega)
  rw [hnil, List.append_nil] at hsum
  rw [ofBytes, State.finish, hlength, heq, hsum, pieces_flatten (by decide) hblocks]

theorem length_ofBytes (content : Bytes) : (ofBytes content).length = 64 := by
  have hword (w : Word) : (Text.hex 8 w.toNat).length = 8 :=
    Text.length_hex ((Nat.length_toDigits_le_iff (by decide) (by decide)).2 w.toNat_lt)
  simp [ofBytes, State.finish, Chain.words, hword]

theorem mem_hexDigits_of_mem_ofBytes (h : c ∈ ofBytes content) : c ∈ Text.hexDigits := by
  obtain ⟨w, -, hc⟩ := List.mem_flatMap.1 h
  exact Text.mem_hexDigits_of_mem_hex hc

namespace Reading

variable {r r' : Reading} {k : Nat}

/-- After `k` turns `k` pieces have been fed, which are the content up to what is left of it. -/
structure Keeps (content : Bytes) (k : Nat) (r : Reading) : Prop where
  left : r.left = content.drop (k * pieceSize)
  whole : r.fed.flatten ++ r.left = content
  ahead : r.fed ++ pieces pieceSize r.left = pieces pieceSize content
  count : r.fed.length = k
  size : ∀ piece ∈ r.fed, piece ≠ [] ∧ piece.length ≤ pieceSize
  digest : r.digest = State.start.update r.fed.flatten
  absorbed : r.digest.Absorbed r.fed.flatten

theorem next?_eq_none_iff : r.next? = none ↔ r.left = [] := by
  simp [next?, pieceSize]

theorem next?_eq_some_iff : r.next? = some r' ↔ r.left ≠ [] ∧
    r' = ⟨r.left.drop pieceSize, r.fed ++ [r.left.take pieceSize],
      r.digest.update (r.left.take pieceSize)⟩ := by
  by_cases hleft : r.left = []
  · simp [next?_eq_none_iff.2 hleft, hleft]
  · have hpiece : (r.left.take pieceSize).isEmpty = false := by simp [hleft, pieceSize]
    simp only [next?, hpiece, Bool.false_eq_true, if_false, Option.some.injEq, ne_eq, hleft,
      not_false_eq_true, true_and]
    exact eq_comm

theorem keeps_start (content : Bytes) : Keeps content 0 ⟨content, [], .start⟩ where
  left := by rw [Nat.zero_mul, List.drop_zero]
  whole := rfl
  ahead := rfl
  count := rfl
  size := by simp
  digest := rfl
  absorbed := State.absorbed_start

theorem Keeps.next (h : Keeps content k r) (hnext : r.next? = some r') : Keeps content (k + 1) r' := by
  obtain ⟨hne, rfl⟩ := next?_eq_some_iff.1 hnext
  have hfed : (r.fed ++ [r.left.take pieceSize]).flatten = r.fed.flatten ++ r.left.take pieceSize := by simp
  refine ⟨?_, ?_, ?_, ?_, ?_, ?_, ?_⟩
  · rw [h.left, List.drop_drop, Nat.succ_mul]
  · rw [hfed, List.append_assoc, List.take_append_drop, h.whole]
  · rw [← h.ahead, pieces_of_ne_nil (by decide) hne, List.append_assoc, List.singleton_append]
  · rw [List.length_append, h.count, List.length_singleton]
  · intro piece hpiece
    rcases List.mem_append.1 hpiece with hpiece | hpiece
    · exact h.size piece hpiece
    · rw [List.mem_singleton.1 hpiece]
      exact ⟨by simp [hne, pieceSize], List.length_take_le ..⟩
  · rw [hfed, h.digest, State.update_append]
  · rw [hfed]
    exact h.absorbed.update _

theorem keeps_after (h : after content k = some r) : Keeps content k r := by
  induction k generalizing r with
  | zero => exact Option.some.inj h ▸ keeps_start content
  | succ k ih =>
    obtain ⟨r', hr', hnext⟩ := Option.bind_eq_some_iff.1 h
    exact (ih hr').next hnext

theorem exists_after (h : k * pieceSize < content.length + pieceSize) : ∃ r, after content k = some r := by
  induction k with
  | zero => exact ⟨_, rfl⟩
  | succ k ih =>
    rw [Nat.succ_mul] at h
    obtain ⟨r, hr⟩ := ih (by omega)
    have hne : r.left ≠ [] := by
      rw [(keeps_after hr).left, ne_eq, List.drop_eq_nil_iff]
      omega
    exact ⟨_, Option.bind_eq_some_iff.2 ⟨r, hr, next?_eq_some_iff.2 ⟨hne, rfl⟩⟩⟩

end Reading

def pieceCount (content : Bytes) : Nat := (content.length + (pieceSize - 1)) / pieceSize

/-- The digest of a file is that of its whole content. The loop that reads the file feeds its octets in their
order, none twice and none left out, and comes to its end after as many turns as there are pieces, with the
digest that the whole content has and that any other pieces of it would have given. This is the digest of
the blocks of the content with its padding, in sixty-four lower-case digits. -/
theorem file_digest_is_that_of_the_whole (content : Bytes) :
    (∀ k r, Reading.after content k = some r → Reading.Keeps content k r) ∧
    (∃ r, Reading.after content (pieceCount content) = some r ∧ r.next? = none ∧
      r.fed = pieces pieceSize content ∧ r.fed.flatten = content ∧ r.digest.finish = ofFile content) ∧
    ofFile content = ofBytes content ∧
    (∀ cut : List Bytes, cut.flatten = content → (cut.foldl State.update .start).finish = ofBytes content) ∧
    ofBytes content = ((pieces 64 (content ++ padding content.length)).foldl compress .start).words.flatMap
      (fun w ↦ Text.hex 8 w.toNat) ∧
    (ofBytes content).length = 64 ∧ ∀ c ∈ ofBytes content, c ∈ Text.hexDigits := by
  refine ⟨fun k r h ↦ Reading.keeps_after h, ?_, ofFile_eq_ofBytes content, ?_, ofBytes_eq content,
    length_ofBytes content, fun c hc ↦ mem_hexDigits_of_mem_ofBytes hc⟩
  · have hlast : content.length ≤ pieceCount content * pieceSize ∧
        pieceCount content * pieceSize < content.length + pieceSize := by
      unfold pieceCount pieceSize
      omega
    obtain ⟨r, hr⟩ := Reading.exists_after hlast.2
    have hkeeps := Reading.keeps_after hr
    have hleft : r.left = [] := by
      rw [hkeeps.left, List.drop_eq_nil_iff]
      exact hlast.1
    have hpieces : r.fed = pieces pieceSize content := by
      have hnone : pieces pieceSize [] = [] := by simp [pieces]
      rw [← hkeeps.ahead, hleft, hnone, List.append_nil]
    have hfed : r.fed.flatten = content := by
      rw [← hkeeps.whole, hleft, List.append_nil]
    refine ⟨r, hr, Reading.next?_eq_none_iff.2 hleft, hpieces, hfed, ?_⟩
    rw [ofFile_eq_ofBytes, hkeeps.digest, hfed, ofBytes]
  · rintro cut rfl
    rw [State.foldl_update, ofBytes]

def Sample.zeros : Bytes := List.replicate (pieceSize + 1) 0

theorem file_digest_is_that_of_the_whole_zeros :
    (∃ r, Reading.after Sample.zeros 2 = some r ∧ r.next? = none ∧ r.fed.flatten = Sample.zeros ∧
      r.fed.length = 2 ∧ r.digest.finish = ofFile Sample.zeros) ∧
    ([Sample.zeros.take 1, Sample.zeros.drop 1].foldl State.update .start).finish = ofFile Sample.zeros := by
  obtain ⟨hkeeps, ⟨r, hr, hend, -, hfed, hdigest⟩, hwhole, hcut, -⟩ :=
    file_digest_is_that_of_the_whole Sample.zeros
  have hcount : pieceCount Sample.zeros = 2 := by
    rw [pieceCount, Sample.zeros, List.length_replicate]
    rfl
  rw [hcount] at hr
  refine ⟨⟨r, hr, hend, hfed, (hkeeps 2 r hr).count, hdigest⟩, ?_⟩
  rw [hwhole]
  apply hcut
  rw [List.flatten_cons, List.flatten_singleton, List.take_append_drop]

end Digest

end VerdictClient
