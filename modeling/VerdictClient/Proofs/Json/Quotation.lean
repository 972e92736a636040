import VerdictClient.Proofs.Json.Spelling

namespace VerdictClient.Json

variable {d : CodePoint} {r t x y body : Text} {n start position width : Nat}

/-- Up to the closing mark, `x` is the text `t`. -/
inductive Quotes : Text → Text → Prop
  | close : Quotes [.char '"'] []
  | plain {c : CodePoint} {x t : Text} : c ≠ .char '"' → c ≠ .char '\\' → ¬c.val ≤ 0x1F → Quotes x t →
      Quotes (c :: x) (c :: t)
  | escape {d : CodePoint} {body x t : Text} :
      (∀ position y, escapeAt position (body ++ (x ++ y)) = .ok (d, body.length + 1)) → Quotes x t →
      Quotes (.char '\\' :: (body ++ x)) (d :: t)

theorem Quotes.stringFrom (h : Quotes x t) (start position : Nat) (y : Text) :
    stringFrom start position 0 (x ++ y) = .ok (t, position + x.length - start) := by
  induction h generalizing position with
  | close => rfl
  | @plain c x t hq hb hc hx ih =>
    rw [List.cons_append, Json.stringFrom, if_neg hq, if_neg hb, if_neg hc, ih, List.length_cons,
      Nat.add_right_comm]
    rfl
  | @escape d body x t hesc hx ih =>
    have hlen : position + (body.length + 1) + x.length =
        position + (CodePoint.char '\\' :: (body ++ x)).length := by
      rw [List.length_cons, List.length_append]
      omega
    rw [List.cons_append, List.append_assoc, stringFrom_escapeAt start rfl (hesc position y), ih, hlen]
    rfl

theorem Quotes.exists_cons (h : Quotes x t) : ∃ c r, x = c :: r := by
  cases h <;> exact ⟨_, _, rfl⟩

theorem exists_of_lowEscape {low : Nat} (h : lowEscape position r = .ok (some low)) :
    ∃ a b c d e rest, r = .char '\\' :: .char 'u' :: a :: b :: c :: d :: e :: rest ∧
      hex4 a b c d = some low ∧ isLow low = true := by
  unfold lowEscape at h
  split at h
  case h_2 => cases h
  next a b c d e rest =>
  split at h
  · cases h
  next n hn =>
  split at h
  · next hlow =>
    cases h
    exact ⟨a, b, c, d, e, rest, rfl, hn, hlow⟩
  · cases h

theorem escapeAt_cases (h : escapeAt position r = .ok (d, width)) :
    (∃ c e rest, r = .char c :: rest ∧ simpleEscape c = some e ∧ d = .char e ∧ width = 2) ∨
    (∃ a b c e n rest, r = .char 'u' :: a :: b :: c :: e :: rest ∧ hex4 a b c e = some n ∧
      d = .ofNat n ∧ width = 6 ∧ (isHigh n = true → lowEscape (position + 6) rest = .ok none)) ∨
    (∃ a b c e n low rest, r = .char 'u' :: a :: b :: c :: e :: rest ∧ hex4 a b c e = some n ∧
      isHigh n = true ∧ lowEscape (position + 6) rest = .ok (some low) ∧
      d = .ofNat (0x10000 + (n - 0xD800) * 0x400 + (low - 0xDC00)) ∧ width = 12) := by
  unfold escapeAt at h
  split at h
  · next a b c e f rest =>
    split at h
    · cases h
    next n hn =>
    split at h
    · next hhigh =>
      split at h
      · cases h
      · next low hlow =>
        obtain ⟨hd, hw⟩ := Prod.mk.inj (Except.ok.inj h)
        exact .inr (.inr ⟨a, b, c, e, n, low, f :: rest, rfl, hn, hhigh, hlow, hd.symm, hw.symm⟩)
      · next hlow =>
        cases h
        exact .inr (.inl ⟨a, b, c, e, n, f :: rest, rfl, hn, rfl, rfl, fun _ ↦ hlow⟩)
    · next hhigh =>
      cases h
      exact .inr (.inl ⟨a, b, c, e, n, f :: rest, rfl, hn, rfl, rfl, fun h ↦ absurd h hhigh⟩)
  · cases h
  · next c rest hne _ =>
    split at h
    · next e he =>
      cases h
      exact .inl ⟨c, e, rest, rfl, he, rfl, rfl⟩
    · cases h
  · cases h
  · cases h

theorem pos_of_escapeAt (h : escapeAt position r = .ok (d, width)) : 0 < width := by
  obtain ⟨c, e, rest, -, -, -, rfl⟩ | ⟨a, b, c, e, n, rest, -, -, -, rfl, -⟩ |
    ⟨a, b, c, e, n, low, rest, -, -, -, -, -, rfl⟩ := escapeAt_cases h <;> decide

theorem exists_of_escape (h : escapeAt position (body ++ r) = .ok (d, body.length + 1)) :
    (∃ c, body = [.char c] ∧ c ≠ 'u') ∨ ∃ a b c e rest, body = .char 'u' :: a :: b :: c :: e :: rest := by
  have hnumber {s : Text} (hr : body ++ r = .char 'u' :: s) (hlen : 5 ≤ body.length) :
      ∃ a b c e rest, body = .char 'u' :: a :: b :: c :: e :: rest := by
    match body with
    | u :: a :: b :: c :: e :: rest =>
      obtain rfl := (List.cons.inj hr).1
      exact ⟨a, b, c, e, rest, rfl⟩
  obtain ⟨c, e, rest, hr, he, -, hw⟩ | ⟨a, b, c, e, n, rest, hr, -, -, hw, -⟩ |
    ⟨a, b, c, e, n, low, rest, hr, -, -, -, -, hw⟩ := escapeAt_cases h
  · obtain ⟨f, rfl⟩ := List.length_eq_one_iff.1 (Nat.succ.inj hw)
    obtain rfl := (List.cons.inj hr).1
    refine .inl ⟨c, rfl, ?_⟩
    rintro rfl
    cases he
  · exact .inr (hnumber hr (by omega))
  · exact .inr (hnumber hr (by omega))

theorem lowEscape_of_ne {c : CodePoint} (h : c ≠ .char '\\' ∨ r.head? ≠ some (.char 'u')) (position : Nat) :
    lowEscape position (c :: r) = .ok none := by
  unfold lowEscape
  split
  · next heq =>
    obtain ⟨rfl, rfl⟩ := List.cons.inj heq
    simp at h
  · rfl

/-- A number of four digits behind a backslash is looked at as soon as anything follows. -/
theorem lowEscape_number {a b c e : CodePoint} (hy : y ≠ []) (position : Nat) :
    lowEscape position (.char '\\' :: .char 'u' :: a :: b :: c :: e :: y) =
      match hex4 a b c e with
      | none => .error (.badCodePoint, position + 1)
      | some n => .ok (if isLow n then some n else none) := by
  cases y with
  | nil => exact absurd rfl hy
  | cons f y => rfl

theorem lowEscape_eq_none (hx : Quotes x t) (h : lowEscape position (x ++ y) = .ok none) (position' : Nat)
    (y' : Text) : lowEscape position' (x ++ y') = .ok none := by
  cases hx with
  | close => rfl
  | plain hq hb hc hx => exact lowEscape_of_ne (.inl hb) position'
  | @escape d body x t hesc hx =>
    obtain ⟨c, rfl, hu⟩ | ⟨a, b, c, e, rest, rfl⟩ := exists_of_escape (hesc 0 [])
    · exact lowEscape_of_ne (.inr (by simpa using hu)) position'
    · have hne (z : Text) : rest ++ x ++ z ≠ [] := by
        obtain ⟨f, r, rfl⟩ := hx.exists_cons
        simp
      have hnumber (p : Nat) (z : Text) := @lowEscape_number _ a b c e (hne z) p
      simp only [List.cons_append] at h ⊢
      rw [hnumber] at h ⊢
      cases hn : hex4 a b c e with
      | none =>
        rw [hn] at h
        cases h
      | some n =>
        rw [hn] at h
        exact h

theorem escapeAt_number {a b c e : CodePoint} (hy : y ≠ []) (hn : hex4 a b c e = some n) (position : Nat) :
    escapeAt position (.char 'u' :: a :: b :: c :: e :: y) =
      if isHigh n then
        match lowEscape (position + 6) y with
        | .error fault => .error fault
        | .ok (some low) => .ok (.ofNat (0x10000 + (n - 0xD800) * 0x400 + (low - 0xDC00)), 12)
        | .ok none => .ok (.ofNat n, 6)
      else .ok (.ofNat n, 6) := by
  cases y with
  | nil => exact absurd rfl hy
  | cons f y =>
    simp only [escapeAt]
    split
    · next hnone => cases hnone.symm.trans hn
    · next n' hsome =>
      cases hsome.symm.trans hn
      rfl

/-- An escape is read the same whatever follows the closing mark. -/
theorem escapeAt_local (hx : Quotes x t) (h : escapeAt position (body ++ (x ++ y)) = .ok (d, body.length + 1))
    (position' : Nat) (y' : Text) : escapeAt position' (body ++ (x ++ y')) = .ok (d, body.length + 1) := by
  have hne : x ++ y' ≠ [] := by
    obtain ⟨f, r, rfl⟩ := hx.exists_cons
    simp
  obtain ⟨c, e, rest, hr, he, rfl, hw⟩ | ⟨a, b, c, e, n, rest, hr, hn, rfl, hw, hlow⟩ |
    ⟨a, b, c, e, n, low, rest, hr, hn, hhigh, hlow, hd, hw⟩ := escapeAt_cases h
  · replace hr : body ++ (x ++ y) = [.char c] ++ rest := hr
    obtain ⟨rfl, -⟩ := List.append_inj hr (Nat.succ.inj hw)
    exact escapeAt_simple he position' _
  · replace hr : body ++ (x ++ y) = [.char 'u', a, b, c, e] ++ rest := hr
    obtain ⟨rfl, rfl⟩ := List.append_inj hr (Nat.succ.inj hw)
    change escapeAt position' (.char 'u' :: a :: b :: c :: e :: (x ++ y')) = .ok (_, 6)
    rw [escapeAt_number hne hn]
    split
    · next hhigh => rw [lowEscape_eq_none hx (hlow hhigh)]
    · rfl
  · obtain ⟨a', b', c', e', f, rest, rfl, hn', hlow'⟩ := exists_of_lowEscape hlow
    replace hr : body ++ (x ++ y) =
      [.char 'u', a, b, c, e, .char '\\', .char 'u', a', b', c', e'] ++ f :: rest := hr
    obtain ⟨rfl, -⟩ := List.append_inj hr (Nat.succ.inj hw)
    change escapeAt position' (.char 'u' :: a :: b :: c :: e ::
      .char '\\' :: .char 'u' :: a' :: b' :: c' :: e' :: (x ++ y')) = .ok (_, 12)
    rw [escapeAt_number (List.cons_ne_nil _ _) hn, if_pos hhigh, lowEscape_number hne, hn']
    simp only [hlow', if_true, hd]

theorem exists_of_stringFrom_skip {skip : Nat} (h : stringFrom start position skip r = .ok (t, n)) :
    ∃ body rest, r = body ++ rest ∧ body.length = skip ∧
      stringFrom start (position + skip) 0 rest = .ok (t, n) := by
  induction skip generalizing position r with
  | zero => exact ⟨[], r, rfl, rfl, h⟩
  | succ skip ih =>
    cases r with
    | nil => cases h
    | cons c r =>
      obtain ⟨body, rest, rfl, hlen, hrest⟩ := ih h
      exact ⟨c :: body, rest, rfl, congrArg (· + 1) hlen, by rwa [← Nat.add_assoc, Nat.add_right_comm]⟩

theorem exists_of_map_ok {ε α β : Type} {f : α → β} {a : Except ε α} {b : β} (h : a.map f = .ok b) :
    ∃ a', a = .ok a' ∧ f a' = b := by
  cases a with
  | error e => cases h
  | ok a' => exact ⟨a', rfl, Except.ok.inj h⟩

theorem exists_quotes_of_stringFrom (h : stringFrom start position 0 r = .ok (t, n)) :
    ∃ x y, r = x ++ y ∧ Quotes x t := by
  induction hlen : r.length using Nat.strong_induction_on generalizing r t n position with
  | h length ih =>
    cases r with
    | nil => cases h
    | cons c r =>
      rw [stringFrom] at h
      split at h
      · next hc =>
        cases h
        exact ⟨[c], r, rfl, hc ▸ .close⟩
      next hq =>
      split at h
      · next hc =>
        subst hc
        split at h
        · next d width hesc =>
          obtain ⟨⟨t', n'⟩, ht, htn⟩ := exists_of_map_ok h
          cases htn
          obtain ⟨body, rest, rfl, hbody, hrest⟩ := exists_of_stringFrom_skip ht
          obtain ⟨x, y, rfl, hx⟩ := ih _ (by simp at hlen; omega) hrest rfl
          obtain rfl : body.length + 1 = width := by
            have hpos := pos_of_escapeAt hesc
            omega
          exact ⟨.char '\\' :: (body ++ x), y, by simp, .escape (escapeAt_local hx hesc) hx⟩
        · cases h
        · cases h
      next hb =>
      split at h
      · cases h
      next hcontrol =>
      obtain ⟨⟨t', n'⟩, ht, htn⟩ := exists_of_map_ok h
      cases htn
      obtain ⟨x, y, rfl, hx⟩ := ih _ (by simp at hlen; omega) ht rfl
      exact ⟨c :: x, y, rfl, .plain hq hb hcontrol hx⟩

end VerdictClient.Json
