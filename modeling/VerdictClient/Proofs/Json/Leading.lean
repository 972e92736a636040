import VerdictClient.Proofs.Json.Reading

namespace VerdictClient

namespace Json

variable {limits : Limits} {m m' : Machine} {t : Token} {ts : List Token} {n : Nat} {v : Value}

theorem step_of_isFault (h : t.lexeme.isFault = true) : m.step limits t ≠ .ok m' := by
  obtain ⟨position, l⟩ := t
  obtain ⟨around, expected⟩ := m
  cases l with
  | broken fault place => cases expected <;> simp [Machine.step, takeValue, takeKey]
  | junk => cases expected <;> simp [Machine.step, takeValue, takeKey]
  | _ => cases h

theorem not_isFault_of_mem (h : ofTokens limits n ts = .ok v) (ht : t ∈ ts) :
    t.lexeme.isFault = false := by
  obtain ⟨m', hts, -⟩ := exists_of_ofTokens h
  clear h
  generalize Machine.start = m at hts
  induction ts generalizing m with
  | nil => cases ht
  | cons u us ih =>
    obtain ⟨m₁, hu, hus⟩ := exists_of_foldlM_cons hts
    rcases List.mem_cons.1 ht with rfl | ht
    · cases hf : t.lexeme.isFault with
      | false => rfl
      | true => exact absurd hu (step_of_isFault hf)
    · exact ih ht m₁ hus

variable {c : CodePoint} {r : Text}

theorem takeDigits_before_nul (c : CodePoint) (r : Text) :
    Numeral.takeDigits (c :: .char '\x00' :: r) = ([], c :: .char '\x00' :: r) ∨
      ∃ n, Numeral.takeDigits (c :: .char '\x00' :: r) = ([n], .char '\x00' :: r) := by
  cases hc : c.digit? with
  | none => exact .inl (by simp only [Numeral.takeDigits, hc])
  | some n =>
    refine .inr ⟨n, ?_⟩
    simp only [Numeral.takeDigits, hc]
    rfl

theorem numberAt_before_nul (c : CodePoint) (r : Text) :
    numberAt false (c :: .char '\x00' :: r) = none ∨
      ∃ l, numberAt false (c :: .char '\x00' :: r) = some (l, 1) := by
  by_cases hc : c = .char '0'
  · subst hc
    exact .inr ⟨_, rfl⟩
  · unfold numberAt
    split
    next digits rest heq =>
    have hd : Numeral.takeDigits (c :: .char '\x00' :: r) = (digits, rest) := by
      split at heq
      · next h =>
        cases h
        exact absurd rfl hc
      · exact heq
    obtain h | ⟨n, h⟩ := takeDigits_before_nul c r
    · cases hd.symm.trans h
      exact .inl rfl
    · cases hd.symm.trans h
      exact .inr ⟨_, rfl⟩

theorem find?_words_before_nul (c : CodePoint) (r : Text) :
    words.find? (fun w ↦ w.1.isPrefixOf (c :: .char '\x00' :: r)) = none := by
  rw [List.find?_eq_none]
  simp [words, Text.ofString]

theorem lexemeAt_before_nul (position : Nat) (c : CodePoint) (r : Text) :
    (lexemeAt position c (.char '\x00' :: r)).1.isFault = true ∨
      (lexemeAt position c (.char '\x00' :: r)).2 = 1 := by
  unfold lexemeAt
  split
  case h_7 => exact .inl rfl
  case h_8 =>
    rw [find?_words_before_nul]
    by_cases hc : c = .char '-'
    · subst hc
      exact .inl rfl
    · simp only [hc, if_false]
      obtain h | ⟨l, h⟩ := numberAt_before_nul c r
      · exact .inl (by rw [h]; rfl)
      · exact .inr (by rw [h]; rfl)
  all_goals exact .inr rfl

theorem tokensFrom_nul (position : Nat) (r : Text) :
    tokensFrom position 0 (.char '\x00' :: r) = [⟨position, .junk⟩] := rfl

theorem exists_isFault_of_nul_second (c : CodePoint) (r : Text) :
    ∃ t ∈ tokens (c :: .char '\x00' :: r), t.lexeme.isFault = true := by
  rw [tokens, tokensFrom]
  by_cases hspace : isSpace c = true
  · rw [if_pos hspace]
    exact ⟨_, List.mem_singleton_self _, rfl⟩
  · rw [if_neg hspace]
    have hcases := lexemeAt_before_nul 0 c r
    generalize lexemeAt 0 c (.char '\x00' :: r) = l at hcases ⊢
    obtain ⟨lexeme, width⟩ := l
    cases hf : lexeme.isFault with
    | true => exact ⟨_, List.mem_cons_self, hf⟩
    | false =>
      obtain rfl : width = 1 := hcases.resolve_left (by simp [hf])
      refine ⟨⟨1, .junk⟩, List.mem_cons_of_mem _ ?_, rfl⟩
      simp [hf, tokensFrom_nul]

/-- A text that opens neither with NUL nor with the mark of byte order, and has no NUL behind its first
code point either. -/
structure OpensPlainly (t : Text) : Prop where
  head : t.head? ≠ some (.char '\x00')
  mark : t.head? ≠ some (.char '\ufeff')
  second : ∀ c r, t ≠ c :: .char '\x00' :: r

theorem opensPlainly_of_ofTokens {t : Text} (h : ofTokens limits n (tokens t) = .ok v) :
    OpensPlainly t := by
  have hsound {u : Token} (hu : u ∈ tokens t) (hf : u.lexeme.isFault = true) : False := by
    simp [not_isFault_of_mem h hu] at hf
  refine ⟨fun hhead ↦ ?_, fun hhead ↦ ?_, fun c r ht ↦ ?_⟩
  · obtain ⟨r, rfl⟩ := List.head?_eq_some_iff.1 hhead
    exact hsound (List.mem_singleton_self _) rfl
  · obtain ⟨r, rfl⟩ := List.head?_eq_some_iff.1 hhead
    exact hsound (List.mem_singleton_self _) rfl
  · subst ht
    obtain ⟨u, hu, hf⟩ := exists_isFault_of_nul_second c r
    exact hsound hu hf

end Json

namespace Utf8

variable {b c d : UInt8} {bs : Bytes} {t : Text} {position skip : Nat} {halves : Bool}

theorem exists_of_decodeFrom_cons (h : decodeFrom halves position 0 (b :: bs) = .ok t) :
    ∃ c width t', head halves b bs = .point c width ∧
      decodeFrom halves (position + 1) (width - 1) bs = .ok t' ∧ t = c :: t' := by
  rw [decodeFrom] at h
  cases hh : head halves b bs with
  | bad fault width =>
    rw [hh] at h
    cases h
  | point c width =>
    rw [hh] at h
    cases ht : decodeFrom halves (position + 1) (width - 1) bs with
    | error e =>
      simp only [ht] at h
      cases h
    | ok t' =>
      simp only [ht] at h
      cases h
      exact ⟨c, width, t', rfl, ht, rfl⟩

theorem headChar_of_halfAt {c : CodePoint} (h : halfAt b bs = some c) :
    ∃ fault width, headChar b bs = .bad fault width := by
  unfold halfAt at h
  split at h
  case h_2 => cases h
  next c d r =>
  split at h
  case isFalse => cases h
  next hcond =>
  simp only [Bool.and_eq_true, beq_iff_eq, decide_eq_true_eq] at hcond
  obtain ⟨⟨⟨rfl, hc⟩, -⟩, -⟩ := hcond
  have hsecond : isSecond 0xED c = false := by
    have hnot : ¬c < 0xA0 := UInt8.not_lt.2 hc
    simp [isSecond, hnot]
  have hannounced : announced 0xED = some 2 := by decide
  refine ⟨.invalidContinuation, 1, ?_⟩
  simp [headChar, hannounced, hsecond]

theorem decodeFrom_halves (h : decodeFrom false position skip bs = .ok t) :
    decodeFrom true position skip bs = .ok t := by
  induction bs generalizing position skip t with
  | nil => exact h
  | cons b bs ih =>
    cases skip with
    | succ skip => exact ih h
    | zero =>
      obtain ⟨c, width, t', hh, ht, rfl⟩ := exists_of_decodeFrom_cons h
      have hhalf : halfAt b bs = none := by
        cases hhalf : halfAt b bs with
        | none => rfl
        | some c' =>
          obtain ⟨fault, w, hbad⟩ := headChar_of_halfAt hhalf
          cases hh.symm.trans hbad
      have hhead : head true b bs = .point c width := by
        rw [← hh]
        simp only [head, if_true, hhalf]
        rfl
      rw [decodeFrom, hhead]
      simp only [ih ht]
      rfl

/-- A NUL octet stands for NUL by itself: no octet before it announces it. -/
theorem head_before_nul {p : CodePoint} {width : Nat} (h : head false b (0 :: bs) = .point p width) :
    width = 1 := by
  replace h : headChar b (0 :: bs) = .point p width := h
  unfold headChar at h
  cases ha : announced b with
  | none =>
    rw [ha] at h
    cases h
  | some n =>
    have hzero : isSecond b 0 = false := by simp [isSecond, isContinuation]
    cases n with
    | zero =>
      simp only [ha] at h
      cases h
      rfl
    | succ n =>
      simp [ha, hzero] at h

end Utf8

namespace Encoding

variable {bs : Bytes} {t : Text}

theorem marked?_eq_none (h : Utf8.decode false bs = .ok t) (ht : Json.OpensPlainly t) :
    marked? bs = none := by
  cases bs with
  | nil => rfl
  | cons b bs =>
    obtain ⟨c, width, t', hh, hrest, rfl⟩ := Utf8.exists_of_decodeFrom_cons h
    rw [marked?, List.find?_eq_none]
    intro e he hprefix
    obtain ⟨r, hr⟩ := List.isPrefixOf_iff_prefix.1 hprefix
    simp only [List.mem_cons, List.not_mem_nil, or_false] at he
    obtain rfl | rfl | rfl | rfl | rfl := he
    · cases hr
      cases hh
      exact ht.head rfl
    · cases hr
      cases hh
    · cases hr
      cases hh
    · cases hr
      cases hh
    · cases hr
      have hpoint : CodePoint.ofNat (Utf8.join 0xEF [0xBB, 0xBF]) = .char '\ufeff' := rfl
      have hmark : Utf8.head false 0xEF (0xBB :: 0xBF :: r) =
        .point (.ofNat (Utf8.join 0xEF [0xBB, 0xBF])) 3 := rfl
      rw [hpoint] at hmark
      cases hmark.symm.trans hh
      exact ht.mark rfl

theorem guess_eq_utf8 (h : Utf8.decode false bs = .ok t) (ht : Json.OpensPlainly t) :
    guess bs = .utf8 := by
  have hfirst (r : Bytes) : bs ≠ 0 :: r := by
    rintro rfl
    obtain ⟨c, width, t', hh, -, rfl⟩ := Utf8.exists_of_decodeFrom_cons h
    cases hh
    exact ht.head rfl
  have hsecond (b : UInt8) (r : Bytes) : bs ≠ b :: 0 :: r := by
    rintro rfl
    obtain ⟨c, width, t', hh, hrest, rfl⟩ := Utf8.exists_of_decodeFrom_cons h
    obtain rfl := Utf8.head_before_nul hh
    obtain ⟨c', width', t'', hh', -, rfl⟩ := Utf8.exists_of_decodeFrom_cons hrest
    cases hh'
    exact ht.second c t'' rfl
  unfold guess
  split
  · exact absurd rfl (hfirst _)
  · exact absurd rfl (hfirst _)
  · exact absurd rfl (hsecond _ _)
  · exact absurd rfl (hsecond _ _)
  · exact absurd rfl (hfirst _)
  · exact absurd rfl (hsecond _ _)
  · rfl

/-- Octets that are text as UTF-8 are read as that text by the reader that looks for their encoding, if
the text opens plainly. -/
theorem detectAndDecode_of_utf8 (h : Utf8.decode false bs = .ok t) (ht : Json.OpensPlainly t) :
    detectAndDecode bs = .ok t := by
  have hd : Utf8.decodeFrom true 0 0 bs = .ok t := Utf8.decodeFrom_halves h
  rw [detectAndDecode, marked?_eq_none h ht]
  simp only [guess_eq_utf8 h ht, decode, hd]

end Encoding

end VerdictClient
