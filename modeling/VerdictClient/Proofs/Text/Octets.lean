import Mathlib.Data.List.TakeWhile
import VerdictClient.Text.Encoding

namespace VerdictClient

namespace CodePoint

variable {c : CodePoint}

theorem val_char (d : Char) : d.toNat < 0xD800 ∨ 0xDFFF < d.toNat ∧ d.toNat < 0x110000 := d.valid

theorem val_of_isChar (h : c.isChar = true) :
    c.val < 0xD800 ∨ 0xDFFF < c.val ∧ c.val < 0x110000 := by
  cases c with
  | char d => exact val_char d
  | half i => cases h

theorem val_lt (c : CodePoint) : c.val < 0x110000 := by
  cases c with
  | char d =>
    rcases val_char d with h | h
    · exact Nat.lt_trans h (by decide)
    · exact h.2
  | half i =>
    have hi := i.isLt
    simp only [val]
    omega

theorem ofNat_val (c : CodePoint) : ofNat c.val = c := by
  cases c with
  | char d =>
    have hd := val_char d
    rw [ofNat, val, dif_neg (by omega), Char.ofNat_toNat]
  | half i =>
    have hi : 0xD800 ≤ 0xD800 + i.val ∧ 0xD800 + i.val < 0xE000 := by
      have h := i.isLt
      omega
    have hsub : (⟨0xD800 + i.val - 0xD800, by omega⟩ : Fin 0x800) = i :=
      Fin.ext (Nat.add_sub_cancel_left ..)
    exact (dif_pos hi).trans (congrArg half hsub)

end CodePoint

namespace Utf8

variable {c : CodePoint} {t : Text} {k n : Nat} {b : UInt8} {bs : Bytes}

theorem toNat_ofNat_of_lt (h : k < 0x100) : (UInt8.ofNat k).toNat = k := by
  rw [UInt8.toNat_ofNat']
  exact Nat.mod_eq_of_lt h

theorem announced_ofNat (h : k < 0x100) : announced (.ofNat k) =
    if k < 0x80 then some 0 else if k < 0xC2 then none else if k < 0xE0 then some 1
    else if k < 0xF0 then some 2 else if k < 0xF5 then some 3 else none := by
  simp only [announced, UInt8.lt_iff_toNat_lt, toNat_ofNat_of_lt h]
  rfl

def continuation (n : Nat) : UInt8 := .ofNat (0x80 + n % 0x40)

theorem toNat_continuation (n : Nat) : (continuation n).toNat = 0x80 + n % 0x40 :=
  toNat_ofNat_of_lt (by omega)

theorem isContinuation_continuation (n : Nat) : isContinuation (continuation n) = true := by
  have h := Nat.mod_lt n (show 0 < 0x40 by decide)
  simp only [isContinuation, UInt8.lt_iff_toNat_lt, UInt8.le_iff_toNat_le, toNat_continuation,
    Bool.and_eq_true, decide_eq_true_eq]
  exact ⟨Nat.le_add_right .., Nat.add_lt_add_left h _⟩

theorem isSecond_ofNat (hk : k < 0x100) (h : (k = 0xE0 → 0x20 ≤ n % 0x40) ∧ (k = 0xED → n % 0x40 < 0x20) ∧
    (k = 0xF0 → 0x10 ≤ n % 0x40) ∧ (k = 0xF4 → n % 0x40 < 0x10)) :
    isSecond (.ofNat k) (continuation n) = true := by
  simp only [isSecond, isContinuation_continuation, Bool.true_and, Bool.and_eq_true, Bool.or_eq_true,
    bne_iff_ne, ne_eq, ← UInt8.toNat_inj, UInt8.lt_iff_toNat_lt, UInt8.le_iff_toNat_le,
    toNat_ofNat_of_lt hk, toNat_continuation, decide_eq_true_eq, UInt8.reduceToNat]
  omega

theorem encodePoint_cases (c : CodePoint) :
    (c.val < 0x80 ∧ encodePoint c = [.ofNat c.val]) ∨
    (0x80 ≤ c.val ∧ c.val < 0x800 ∧
      encodePoint c = [.ofNat (0xC0 + c.val / 0x40), continuation c.val]) ∨
    (0x800 ≤ c.val ∧ c.val < 0x10000 ∧ encodePoint c =
      [.ofNat (0xE0 + c.val / 0x1000), continuation (c.val / 0x40), continuation c.val]) ∨
    (0x10000 ≤ c.val ∧ encodePoint c = [.ofNat (0xF0 + c.val / 0x40000),
      continuation (c.val / 0x1000), continuation (c.val / 0x40), continuation c.val]) := by
  simp only [encodePoint, Nat.div_one]
  split
  · next h => exact .inl ⟨h, rfl⟩
  split
  · next h1 h2 => exact .inr (.inl ⟨Nat.not_lt.1 h1, h2, rfl⟩)
  split
  · next h2 h3 => exact .inr (.inr (.inl ⟨Nat.not_lt.1 h2, h3, rfl⟩))
  · next h3 => exact .inr (.inr (.inr ⟨Nat.not_lt.1 h3, rfl⟩))

/-- What follows the octet `b` of a character: as many continuations as it announces. -/
structure Follows (b : UInt8) (tail : Bytes) : Prop where
  announced : announced b = some tail.length
  second : ∀ d ∈ tail.head?, isSecond b d = true
  rest : ∀ d ∈ tail.tail, isContinuation d = true

theorem headChar_append {tail : Bytes} (h : Follows b tail) (bs : Bytes) :
    headChar b (tail ++ bs) = .point (.ofNat (join b tail)) (tail.length + 1) := by
  simp only [headChar, h.announced, List.take_left]
  cases tail with
  | nil => rfl
  | cons d ds =>
    have htake : ds.takeWhile isContinuation = ds := List.takeWhile_eq_self_iff.2 h.rest
    simp only [h.second d rfl, if_true, htake]

theorem join_continuation (hk : k < 0x100) (m : Nat) (ms : List Nat) :
    join (.ofNat k) ((m :: ms).map continuation) =
      (m :: ms).foldl (fun n i ↦ n * 0x40 + i % 0x40) (k % Nat.pow 2 (5 - ms.length)) := by
  have hmod (i : Nat) : (0x80 + i % 0x40) % 0x40 = i % 0x40 := by omega
  have hlen : 6 - (ms.length + 1) = 5 - ms.length := by omega
  simp only [join, List.isEmpty_cons, List.map_cons, List.foldl_cons, List.foldl_map, List.length_cons,
    List.length_map, toNat_continuation, hmod, toNat_ofNat_of_lt hk, hlen]
  rfl

theorem exists_of_encodePoint (h : c.isChar = true) :
    ∃ b tail, encodePoint c = b :: tail ∧ Follows b tail ∧ join b tail = c.val := by
  have hc := CodePoint.val_of_isChar h
  obtain ⟨hn, he⟩ | ⟨hl, hn, he⟩ | ⟨hl, hn, he⟩ | ⟨hl, he⟩ := encodePoint_cases c <;>
    rw [he] <;> clear he <;> generalize c.val = n at *
  · refine ⟨_, _, rfl, ⟨?_, by simp, by simp⟩, toNat_ofNat_of_lt (by omega)⟩
    rw [announced_ofNat (by omega), if_pos hn]
    rfl
  · refine ⟨_, _, rfl, ⟨?_, ?_, by simp⟩, (join_continuation (by omega) n []).trans ?_⟩
    · rw [announced_ofNat (by omega), if_neg (by omega), if_neg (by omega), if_pos (by omega)]
      rfl
    · rintro d ⟨⟩
      apply isSecond_ofNat <;> omega
    · change (0xC0 + n / 0x40) % 0x20 * 0x40 + n % 0x40 = n
      omega
  · refine ⟨_, _, rfl, ⟨?_, ?_, ?_⟩, (join_continuation (by omega) (n / 0x40) [n]).trans ?_⟩
    · rw [announced_ofNat (by omega), if_neg (by omega), if_neg (by omega), if_neg (by omega),
        if_pos (by omega)]
      rfl
    · rintro d ⟨⟩
      apply isSecond_ofNat <;> omega
    · simp [isContinuation_continuation]
    · change ((0xE0 + n / 0x1000) % 0x10 * 0x40 + n / 0x40 % 0x40) * 0x40 + n % 0x40 = n
      omega
  · refine ⟨_, _, rfl, ⟨?_, ?_, ?_⟩,
      (join_continuation (by omega) (n / 0x1000) [n / 0x40, n]).trans ?_⟩
    · rw [announced_ofNat (by omega), if_neg (by omega), if_neg (by omega), if_neg (by omega),
        if_neg (by omega), if_pos (by omega)]
      rfl
    · rintro d ⟨⟩
      apply isSecond_ofNat <;> omega
    · simp [isContinuation_continuation]
    · change (((0xF0 + n / 0x40000) % 0x8 * 0x40 + n / 0x1000 % 0x40) * 0x40 + n / 0x40 % 0x40) * 0x40 +
        n % 0x40 = n
      omega

theorem decodeFrom_skip (w bs : Bytes) (halves : Bool) (position : Nat) :
    decodeFrom halves position w.length (w ++ bs) = decodeFrom halves (position + w.length) 0 bs := by
  induction w generalizing position with
  | nil => rfl
  | cons b w ih =>
    rw [List.length_cons, List.cons_append, decodeFrom, ih]
    congr 1
    omega

theorem decodeFrom_encode (h : t.IsWhole) (position : Nat) :
    decodeFrom false position 0 (encode t) = .ok t := by
  induction t generalizing position with
  | nil => rfl
  | cons c t ih =>
    obtain ⟨hc, ht⟩ := List.forall_mem_cons.1 h
    obtain ⟨b, tail, he, hb, hj⟩ := exists_of_encodePoint hc
    have hhead : head false b (tail ++ encode t) = .point c (tail.length + 1) := by
      rw [← CodePoint.ofNat_val c, ← hj]
      exact headChar_append hb _
    have hcons : encode (c :: t) = b :: (tail ++ encode t) := by
      rw [encode, List.flatMap_cons, he]
      rfl
    rw [hcons, decodeFrom, hhead]
    simp only [Nat.add_sub_cancel, decodeFrom_skip, ih ht]
    rfl

end Utf8

namespace Encoding

variable {order : Endian} {c : CodePoint} {t : Text} {count n : Nat} {ns : List Nat} {e : Encoding}

theorem octets_succ (count n : Nat) :
    octets (count + 1) n = .ofNat (n / Nat.pow 256 count) :: octets count n := by
  rw [octets, List.range_succ, List.reverse_append, List.map_append]
  rfl

theorem foldl_octets (count n m : Nat) : (octets count n).foldl (fun k b ↦ k * 256 + b.toNat) m =
    m * Nat.pow 256 count + n % Nat.pow 256 count := by
  induction count generalizing m with
  | zero => simp [octets, Nat.mod_one]
  | succ count ih =>
    have hpow : Nat.pow 256 (count + 1) = Nat.pow 256 count * 256 := rfl
    rw [octets_succ, List.foldl_cons, ih, UInt8.toNat_ofNat', hpow]
    change (m * 256 + n / Nat.pow 256 count % 256) * Nat.pow 256 count + n % Nat.pow 256 count = _
    rw [Nat.mod_mul, Nat.add_mul, Nat.mul_assoc, Nat.mul_comm 256, Nat.add_assoc, Nat.add_comm (n % _),
      Nat.mul_comm (n / _ % _)]

theorem ofUnit_unit (h : n < Nat.pow 256 count) : ofUnit order (unit order count n) = n := by
  have hn : (octets count n).foldl (fun k b ↦ k * 256 + b.toNat) 0 = n := by
    rw [foldl_octets, Nat.zero_mul, Nat.zero_add, Nat.mod_eq_of_lt h]
  cases order with
  | big => exact hn
  | little =>
    rw [ofUnit, unit, List.reverse_reverse]
    exact hn

theorem exists_unit_two (order : Endian) (n : Nat) : ∃ a b, unit order 2 n = [a, b] := by
  cases order <;> exact ⟨_, _, rfl⟩

theorem exists_unit_four (order : Endian) (n : Nat) : ∃ a b c d, unit order 4 n = [a, b, c, d] := by
  cases order <;> exact ⟨_, _, _, _, rfl⟩

theorem decode16_unit (h : ∀ n ∈ ns, n < 0x10000) (position : Nat) :
    decode16 order position (ns.flatMap (unit order 2)) = .ok ns := by
  induction ns generalizing position with
  | nil => rfl
  | cons n ns ih =>
    obtain ⟨hn, hns⟩ := List.forall_mem_cons.1 h
    obtain ⟨a, b, hu⟩ := exists_unit_two order n
    have hof : ofUnit order [a, b] = n := hu ▸ ofUnit_unit hn
    rw [List.flatMap_cons, hu, List.cons_append, List.cons_append, List.nil_append, decode16, ih hns, hof]
    rfl

theorem units16_cases (c : CodePoint) : (c.val < 0x10000 ∧ units16 c = [c.val]) ∨
    (0x10000 ≤ c.val ∧
      units16 c = [0xD800 + (c.val - 0x10000) / 0x400, 0xDC00 + (c.val - 0x10000) % 0x400]) := by
  simp only [units16]
  split
  · next h => exact .inl ⟨h, rfl⟩
  · next h => exact .inr ⟨Nat.not_lt.1 h, rfl⟩

theorem joinPairs_units16 (hc : c.isChar = true) (ns : List Nat) :
    joinPairs (units16 c ++ ns) = c :: joinPairs ns := by
  have hv := CodePoint.val_of_isChar hc
  obtain ⟨hn, hu⟩ | ⟨hn, hu⟩ := units16_cases c <;> rw [hu]
  · cases ns with
    | nil => rw [List.append_nil, joinPairs, joinPairs, CodePoint.ofNat_val]
    | cons v ns => rw [List.singleton_append, joinPairs, if_neg (by omega), CodePoint.ofNat_val]
  · have hjoin : 0x10000 + (0xD800 + (c.val - 0x10000) / 0x400 - 0xD800) * 0x400 +
        (0xDC00 + (c.val - 0x10000) % 0x400 - 0xDC00) = c.val := by omega
    rw [List.cons_append, List.singleton_append, joinPairs, if_pos (by omega), hjoin,
      CodePoint.ofNat_val]

theorem joinPairs_flatMap (h : t.IsWhole) : joinPairs (t.flatMap units16) = t := by
  induction t with
  | nil => rfl
  | cons c t ih =>
    obtain ⟨hc, ht⟩ := List.forall_mem_cons.1 h
    rw [List.flatMap_cons, joinPairs_units16 hc, ih ht]

theorem lt_of_mem_units16 (h : n ∈ units16 c) : n < 0x10000 := by
  have hc := c.val_lt
  obtain ⟨hn, hu⟩ | ⟨hn, hu⟩ := units16_cases c <;>
    simp only [hu, List.mem_cons, List.not_mem_nil, or_false] at h <;> omega

theorem encode_utf16 (order : Endian) (t : Text) :
    encode t (utf16 order) = (t.flatMap units16).flatMap (unit order 2) :=
  List.flatMap_assoc.symm

theorem decode_utf16 (h : t.IsWhole) (order : Endian) (position : Nat) :
    decode (encode t (utf16 order)) position (utf16 order) = .ok t := by
  have hunits : ∀ n ∈ t.flatMap units16, n < 0x10000 := by
    intro n hn
    obtain ⟨c, -, hc⟩ := List.mem_flatMap.1 hn
    exact lt_of_mem_units16 hc
  rw [decode, encode_utf16, decode16_unit hunits]
  exact congrArg Except.ok (joinPairs_flatMap h)

theorem decode_utf32 (t : Text) (order : Endian) (position : Nat) :
    decode (encode t (utf32 order)) position (utf32 order) = .ok t := by
  rw [decode, encode]
  induction t generalizing position with
  | nil => rfl
  | cons c t ih =>
    have hc := c.val_lt
    obtain ⟨w, x, y, z, hu⟩ := exists_unit_four order c.val
    have hof : ofUnit order [w, x, y, z] = c.val := hu ▸ ofUnit_unit (hc.trans (by decide))
    rw [List.flatMap_cons, hu, List.cons_append, List.cons_append, List.cons_append, List.cons_append,
      List.nil_append, decode32, hof, if_pos hc, ih, CodePoint.ofNat_val]
    rfl

end Encoding

end VerdictClient
