import VerdictClient.Proofs.Json.Leading

namespace VerdictClient.Encoding

variable {c : CodePoint} {t : Text} {b : UInt8} {bs : Bytes} {order : Endian} {position : Nat}

theorem decode_encode (h : t.IsWhole) (e : Encoding) (position : Nat) :
    decode (e.encode t) position e = .ok t := by
  cases e with
  | utf8 =>
    have hd : Utf8.decodeFrom true position 0 (Utf8.encode t) = .ok t :=
      Utf8.decodeFrom_halves (Utf8.decodeFrom_encode h position)
    simp only [decode, encode, hd]
  | utf16 order => exact decode_utf16 h order position
  | utf32 order => exact decode_utf32 t order position

theorem val_ne_zero (h : c ≠ .char '\x00') : c.val ≠ 0 := by
  intro hv
  apply h
  rw [← c.ofNat_val, hv]
  rfl

theorem encode_ascii (h : c.val < 0x80) (t : Text) :
    encode (c :: t) (utf16 .big) = 0 :: .ofNat c.val :: encode t (utf16 .big) ∧
    encode (c :: t) (utf16 .little) = .ofNat c.val :: 0 :: encode t (utf16 .little) ∧
    encode (c :: t) (utf32 .big) = 0 :: 0 :: 0 :: .ofNat c.val :: encode t (utf32 .big) ∧
    encode (c :: t) (utf32 .little) = .ofNat c.val :: 0 :: 0 :: 0 :: encode t (utf32 .little) := by
  have h1 : c.val / 256 = 0 := by omega
  have h2 : c.val / 65536 = 0 := by omega
  have h3 : c.val / 16777216 = 0 := by omega
  have hu : units16 c = [c.val] := if_pos (by omega)
  simp [encode, hu, unit, octets, List.range, List.range.loop, h1, h2, h3]

theorem marked?_eq_none_of_lt (hb : b < 0x80) (hbs : b = 0 → ∀ r, bs ≠ 0 :: 0xFE :: r) :
    marked? (b :: bs) = none := by
  rw [marked?, List.find?_eq_none]
  intro e he hprefix
  obtain ⟨r, hr⟩ := List.isPrefixOf_iff_prefix.1 hprefix
  simp only [List.mem_cons, List.not_mem_nil, or_false] at he
  obtain rfl | rfl | rfl | rfl | rfl := he
  · cases hr
    exact hbs rfl _ rfl
  all_goals
    cases hr
    exact absurd hb (by decide)

theorem guess_utf16_big (hb : b ≠ 0) (hbs : bs.length ≠ 1) : guess (0 :: b :: bs) = utf16 .big := by
  rcases bs with _ | ⟨x, _ | ⟨y, r⟩⟩
  · simp [guess]
  · exact absurd rfl hbs
  · simp [guess]

theorem guess_utf16_little (hb : b ≠ 0) (hbs : bs.length ≠ 1) (h : ∀ r, bs ≠ 0 :: 0 :: r) :
    guess (b :: 0 :: bs) = utf16 .little := by
  rcases bs with _ | ⟨x, _ | ⟨y, r⟩⟩
  · simp [guess]
  · exact absurd rfl hbs
  · have hxy : x = 0 → y ≠ 0 := by
      rintro rfl rfl
      exact h r rfl
    grind [guess]

theorem guess_utf32_little (hb : b ≠ 0) : guess (b :: 0 :: 0 :: 0 :: bs) = utf32 .little := by
  grind [guess]

theorem exists_units16 (h : c ≠ .char '\x00') : ∃ u us, units16 c = u :: us ∧ u ≠ 0 := by
  obtain ⟨-, hu⟩ | ⟨-, hu⟩ := units16_cases c
  · exact ⟨_, _, hu, val_ne_zero h⟩
  · exact ⟨_, _, hu, by omega⟩

theorem encode_utf16_head (order : Endian) (h : t.head? ≠ some (.char '\x00')) :
    (encode t (utf16 order)).length ≠ 1 ∧ ∀ r, encode t (utf16 order) ≠ 0 :: 0 :: r := by
  cases t with
  | nil => exact ⟨by simp [encode], by simp [encode]⟩
  | cons c t =>
    obtain ⟨u, us, hu, hne⟩ := exists_units16 fun hc ↦ h (congrArg some hc)
    obtain ⟨x, y, hxy⟩ := exists_unit_two order u
    have he : encode (c :: t) (utf16 order) =
        x :: y :: (us.flatMap (unit order 2) ++ encode t (utf16 order)) := by
      simp only [encode, List.flatMap_cons, hu, hxy, List.cons_append, List.nil_append]
    refine ⟨by simp [he], fun r hr ↦ hne ?_⟩
    rw [he] at hr
    cases hr
    have hof : ofUnit order [0, 0] = u :=
      hxy ▸ ofUnit_unit (lt_of_mem_units16 (hu ▸ List.mem_cons_self))
    rw [← hof]
    cases order <;> rfl

/-- A mark is told from the others: only that of UTF-16 may be taken for the beginning of another one,
if two zeros follow it. -/
theorem marked?_mark_append (e : Encoding) (h : e = utf16 .little → ∀ r, bs ≠ 0 :: 0 :: r) :
    marked? (e.mark ++ bs) = some e := by
  rcases e with _ | ⟨_ | _⟩ | ⟨_ | _⟩
  case utf16.little =>
    have hbs : [0, 0].isPrefixOf bs = false := by
      rw [← Bool.not_eq_true, List.isPrefixOf_iff_prefix]
      rintro ⟨r, hr⟩
      exact h rfl r hr.symm
    change (match [0, 0].isPrefixOf bs with
      | true => some (utf32 .little)
      | false => some (utf16 .little)) = _
    rw [hbs]
  all_goals rfl

theorem detectAndDecode_mark (ht : t.IsWhole) (h : t.head? ≠ some (.char '\x00')) (e : Encoding) :
    detectAndDecode (e.mark ++ e.encode t) = .ok t := by
  have hm : marked? (e.mark ++ e.encode t) = some e := by
    apply marked?_mark_append
    rintro rfl
    exact (encode_utf16_head .little h).2
  rw [detectAndDecode, hm]
  rcases e with _ | order | order
  · exact decode_encode ht utf8 0
  · simp only [List.drop_left]
    exact decode_encode ht (utf16 order) _
  · simp only [List.drop_left]
    exact decode_encode ht (utf32 order) _

/-- A text without a mark is read if it opens plainly and in ASCII. -/
theorem detectAndDecode_encode (ht : Text.IsWhole (c :: t)) (h : Json.OpensPlainly (c :: t))
    (hc : c.val < 0x80) (e : Encoding) : detectAndDecode (e.encode (c :: t)) = .ok (c :: t) := by
  suffices hd : e = utf8 ∨
      marked? (e.encode (c :: t)) = none ∧ guess (e.encode (c :: t)) = e by
    obtain rfl | ⟨hmarked, hguess⟩ := hd
    · exact detectAndDecode_of_utf8 (Utf8.decodeFrom_encode ht 0) h
    · rw [detectAndDecode, hmarked]
      simp only [hguess]
      exact decode_encode ht e 0
  obtain ⟨h16b, h16l, h32b, h32l⟩ := encode_ascii hc t
  have hval : (UInt8.ofNat c.val).toNat = c.val := Utf8.toNat_ofNat_of_lt (by omega)
  have hlt : UInt8.ofNat c.val < 0x80 := by
    rw [UInt8.lt_iff_toNat_lt, hval]
    exact hc
  have hne : UInt8.ofNat c.val ≠ 0 := by
    intro h0
    rw [h0] at hval
    exact val_ne_zero (fun hnul ↦ h.head (congrArg some hnul)) hval.symm
  have hhead : t.head? ≠ some (.char '\x00') := by
    intro hnul
    obtain ⟨r, rfl⟩ := List.head?_eq_some_iff.1 hnul
    exact h.second c r rfl
  rcases e with _ | ⟨_ | _⟩ | ⟨_ | _⟩
  · exact .inl rfl
  · obtain ⟨hlen, hzero⟩ := encode_utf16_head .little hhead
    rw [h16l]
    exact .inr ⟨marked?_eq_none_of_lt hlt fun h0 ↦ absurd h0 hne, guess_utf16_little hne hlen hzero⟩
  · obtain ⟨hlen, -⟩ := encode_utf16_head .big hhead
    rw [h16b]
    exact .inr ⟨marked?_eq_none_of_lt (by decide) fun _ r hr ↦ hne (List.cons.inj hr).1,
      guess_utf16_big hne hlen⟩
  · rw [h32l]
    exact .inr ⟨marked?_eq_none_of_lt hlt fun h0 ↦ absurd h0 hne, guess_utf32_little hne⟩
  · rw [h32b]
    exact .inr ⟨marked?_eq_none_of_lt (by decide) fun _ r hr ↦ absurd hr (by simp), rfl⟩

end VerdictClient.Encoding
