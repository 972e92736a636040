import VerdictClient.Proofs.Json.Spelling

namespace VerdictClient.Json

open Numeral

variable {c : CodePoint} {t r s x y : Text} {ds fs : List Nat} {l : Lexeme} {w : Nat}

def EndsDigits (y : Text) : Prop := ∀ c ∈ y.head?, c.digit? = none

/-- Nothing stands at the head that would go on with a number. -/
structure Delimits (y : Text) : Prop where
  digit : EndsDigits y
  point : y.head? ≠ some (.char '.')
  lower : y.head? ≠ some (.char 'e')
  upper : y.head? ≠ some (.char 'E')

theorem endsDigits_append (hx : x.head? = some c) (hc : c.digit? = none) (y : Text) :
    EndsDigits (x ++ y) := by
  intro d hd
  rw [List.head?_append, hx] at hd
  cases hd
  exact hc

theorem takeDigits_of_endsDigits (h : EndsDigits y) : takeDigits y = ([], y) := by
  cases y with
  | nil => rfl
  | cons c r => simp only [takeDigits, h c rfl]

/-- The digits at the head of a text are those of a part of it, whatever else than a digit follows. -/
theorem exists_of_takeDigits (h : takeDigits t = (ds, r)) : ∃ x, t = x ++ r ∧ x.length = ds.length ∧
    ∀ y, EndsDigits y → takeDigits (x ++ y) = (ds, y) := by
  induction t generalizing ds with
  | nil =>
    cases h
    exact ⟨[], rfl, rfl, fun y hy ↦ takeDigits_of_endsDigits hy⟩
  | cons c t ih =>
    rw [takeDigits] at h
    cases hc : c.digit? with
    | none =>
      simp only [hc] at h
      cases h
      exact ⟨[], rfl, rfl, fun y hy ↦ takeDigits_of_endsDigits hy⟩
    | some d =>
      simp only [hc] at h
      cases h
      obtain ⟨x, ht, hlen, hx⟩ := ih rfl
      refine ⟨c :: x, congrArg (c :: ·) ht, congrArg (· + 1) hlen, fun y hy ↦ ?_⟩
      simp only [List.cons_append, takeDigits, hc, hx y hy]

theorem exists_digit_of_takeDigits (h : takeDigits t = (ds, r)) (hds : ds ≠ []) :
    ∃ c x, t = c :: (x ++ r) ∧ x.length + 1 = ds.length ∧ c.digit?.isSome = true ∧
      ∀ y, EndsDigits y → takeDigits (c :: (x ++ y)) = (ds, y) := by
  obtain ⟨x, ht, hlen, hx⟩ := exists_of_takeDigits h
  cases x with
  | nil => exact absurd (List.eq_nil_of_length_eq_zero hlen.symm) hds
  | cons c x =>
    refine ⟨c, x, ht, hlen, ?_, hx⟩
    cases hc : c.digit? with
    | none =>
      rw [ht, List.cons_append, takeDigits, hc] at h
      exact absurd (congrArg Prod.fst h).symm hds
    | some d => rfl

def wholeAt : Text → List Nat × Text
  | .char '0' :: r => ([0], r)
  | t => takeDigits t

def fractionAt (t : Text) : List Nat × Text :=
  match t with
  | .char '.' :: r => if (takeDigits r).1.isEmpty then ([], t) else takeDigits r
  | t => ([], t)

def fractionWidth (fs : List Nat) : Nat := if fs.isEmpty then 0 else 1 + fs.length

def numberLexeme (negative : Bool) (ds fs : List Nat) (exponent : Option (Int × Nat)) : Lexeme :=
  if fs.isEmpty && exponent.isNone then
    let n : Int := value ds
    if digitLimit < ds.length then .oversized ds.length else .scalar (.int (if negative then -n else n))
  else
    .double (toFloat ⟨negative, value (ds ++ fs), (exponent.map (·.1)).getD 0 - fs.length⟩) ds.length

def numberWidth (negative : Bool) (ds fs : List Nat) (exponent : Option (Int × Nat)) : Nat :=
  (if negative then 1 else 0) + ds.length + fractionWidth fs + (exponent.map (·.2)).getD 0

theorem numberAt_eq (negative : Bool) (hw : wholeAt t = (ds, r)) (hf : fractionAt r = (fs, s)) :
    numberAt negative t = if ds.isEmpty then none else
      some (numberLexeme negative ds fs (exponentAt s), numberWidth negative ds fs (exponentAt s)) := by
  unfold numberAt
  split
  next ds' r' h1 =>
  have h1' : wholeAt t = (ds', r') := h1
  cases hw.symm.trans h1'
  split
  · rfl
  split
  next fs' s' h2 =>
  have h2' : fractionAt r = (fs', s') := h2
  cases hf.symm.trans h2'
  by_cases hwhole : (fs.isEmpty && (exponentAt s).isNone) = true
  · simp only [numberLexeme, hwhole, if_true]
    split <;> rfl
  · simp only [numberLexeme, hwhole]
    rfl

theorem exists_of_wholeAt (h : wholeAt t = (ds, r)) (hds : ds ≠ []) :
    ∃ c x, t = c :: (x ++ r) ∧ x.length + 1 = ds.length ∧ c.digit?.isSome = true ∧
      ∀ y, EndsDigits y → wholeAt (c :: (x ++ y)) = (ds, y) := by
  unfold wholeAt at h
  split at h
  · cases h
    exact ⟨.char '0', [], rfl, rfl, rfl, fun y _ ↦ rfl⟩
  · next hzero =>
    obtain ⟨c, x, ht, hlen, hc, hx⟩ := exists_digit_of_takeDigits h hds
    refine ⟨c, x, ht, hlen, hc, fun y hy ↦ ?_⟩
    have hw : wholeAt (c :: (x ++ y)) = takeDigits (c :: (x ++ y)) := by
      unfold wholeAt
      split
      · next heq =>
        obtain ⟨rfl, -⟩ := List.cons.inj heq
        exact absurd ht (hzero (x ++ r))
      · rfl
    rw [hw]
    exact hx y hy

theorem exists_of_fractionAt (h : fractionAt r = (fs, s)) :
    ∃ x, r = x ++ s ∧ x.length = fractionWidth fs ∧ (x = [] ∨ x.head? = some (.char '.')) ∧
      ∀ y, EndsDigits y → y.head? ≠ some (.char '.') → fractionAt (x ++ y) = (fs, y) := by
  have hnone (y : Text) (hy : y.head? ≠ some (.char '.')) : fractionAt y = ([], y) := by
    unfold fractionAt
    split
    · exact absurd rfl hy
    · rfl
  unfold fractionAt at h
  split at h
  case h_2 =>
    cases h
    exact ⟨[], rfl, rfl, .inl rfl, fun y _ hy ↦ hnone y hy⟩
  next t =>
  split at h
  · cases h
    exact ⟨[], rfl, rfl, .inl rfl, fun y _ hy ↦ hnone y hy⟩
  · next hds =>
    obtain ⟨x, ht, hlen, hx⟩ := exists_of_takeDigits h
    have hfs : fs.isEmpty = false := by simpa [h] using hds
    refine ⟨.char '.' :: x, congrArg (_ :: ·) ht, ?_, .inr rfl, fun y hy _ ↦ ?_⟩
    · rw [fractionWidth, hfs, List.length_cons, hlen, Nat.add_comm]
      rfl
    · simp only [List.cons_append, fractionAt, hx y hy, hfs]
      rfl

def signAt : Text → Bool × Nat × Text
  | .char '-' :: r => (true, 1, r)
  | .char '+' :: r => (false, 1, r)
  | r => (false, 0, r)

theorem exponentAt_cons (c : CodePoint) (r : Text) : exponentAt (c :: r) =
    if c = .char 'e' ∨ c = .char 'E' then
      match (takeDigits (signAt r).2.2).1 with
      | [] => none
      | ds => some (if (signAt r).1 then -(value ds : Int) else value ds, 1 + (signAt r).2.1 + ds.length)
    else none := rfl

theorem exponentAt_of_delimits (h : Delimits y) : exponentAt y = none := by
  cases y with
  | nil => rfl
  | cons c r =>
    rw [exponentAt_cons, if_neg]
    rintro (rfl | rfl)
    · exact h.lower rfl
    · exact h.upper rfl

theorem exists_of_signAt (r : Text) : ∃ z, r = z ++ (signAt r).2.2 ∧ z.length = (signAt r).2.1 ∧
    ∀ c y, c.digit?.isSome = true → signAt (z ++ c :: y) = ((signAt r).1, (signAt r).2.1, c :: y) := by
  unfold signAt
  split
  · exact ⟨[.char '-'], rfl, rfl, fun _ _ _ ↦ rfl⟩
  · exact ⟨[.char '+'], rfl, rfl, fun _ _ _ ↦ rfl⟩
  · refine ⟨[], rfl, rfl, fun c y hc ↦ ?_⟩
    rw [List.nil_append]
    split
    · next heq =>
      obtain rfl := (List.cons.inj heq).1
      cases hc
    · next heq =>
      obtain rfl := (List.cons.inj heq).1
      cases hc
    · rfl

theorem exists_of_exponentAt (s : Text) :
    ∃ x y, s = x ++ y ∧ x.length = ((exponentAt s).map (·.2)).getD 0 ∧
      (x = [] ∨ x.head? = some (.char 'e') ∨ x.head? = some (.char 'E')) ∧
      ∀ y, Delimits y → exponentAt (x ++ y) = exponentAt s := by
  cases hs : exponentAt s with
  | none => exact ⟨[], s, rfl, rfl, .inl rfl, fun y hy ↦ exponentAt_of_delimits hy⟩
  | some o =>
    cases s with
    | nil => cases hs
    | cons c r =>
      rw [exponentAt_cons] at hs
      split at hs
      case isFalse => cases hs
      next hc =>
      obtain ⟨z, hr, hz, hsign⟩ := exists_of_signAt r
      split at hs
      · cases hs
      next hds =>
      obtain ⟨d, x, ht, hlen, hdigit, hx⟩ := exists_digit_of_takeDigits (Prod.eta _).symm hds
      refine ⟨c :: (z ++ d :: x), (takeDigits (signAt r).2.2).2, ?_, ?_, ?_, fun y hy ↦ ?_⟩
      · rw [List.cons_append, List.append_assoc, List.cons_append, ← ht, ← hr]
      · cases hs
        simp only [List.length_cons, List.length_append, hz, hlen, Option.map_some, Option.getD_some]
        omega
      · exact .inr (hc.imp (congrArg some) (congrArg some))
      · have hdigits : (takeDigits (d :: (x ++ y))).1 = (takeDigits (signAt r).2.2).1 := by
          rw [hx y hy.digit]
        rw [List.cons_append, List.append_assoc, List.cons_append, exponentAt_cons, if_pos hc,
          hsign d _ hdigit, hdigits]
        split
        · next h => exact absurd h hds
        · exact hs

/-- A number is found before whatever would not go on with it. -/
theorem exists_of_numberAt {negative : Bool} (h : numberAt negative t = some (l, w)) :
    ∃ c x y, t = c :: (x ++ y) ∧ w = (if negative then 1 else 0) + x.length + 1 ∧
      c.digit?.isSome = true ∧ ∀ y, Delimits y → numberAt negative (c :: (x ++ y)) = some (l, w) := by
  obtain ⟨hw, hf⟩ : wholeAt t = ((wholeAt t).1, (wholeAt t).2) ∧ fractionAt (wholeAt t).2 =
    ((fractionAt (wholeAt t).2).1, (fractionAt (wholeAt t).2).2) := ⟨rfl, rfl⟩
  generalize (wholeAt t).1 = ds, (wholeAt t).2 = r at hw hf
  generalize (fractionAt r).1 = fs, (fractionAt r).2 = s at hf
  rw [numberAt_eq negative hw hf] at h
  split at h
  · cases h
  next hds =>
  obtain ⟨c, x₁, ht, hlen₁, hc, hx₁⟩ := exists_of_wholeAt hw (by simpa using hds)
  obtain ⟨x₂, hr, hlen₂, hhead₂, hx₂⟩ := exists_of_fractionAt hf
  obtain ⟨x₃, y, hs, hlen₃, hhead₃, hx₃⟩ := exists_of_exponentAt s
  refine ⟨c, x₁ ++ x₂ ++ x₃, y, ?_, ?_, hc, fun y hy ↦ ?_⟩
  · rw [ht, hr, hs]
    simp only [List.append_assoc]
  · cases h
    simp only [numberWidth, List.length_append, hlen₂, hlen₃, ← hlen₁]
    omega
  · have hexponent : EndsDigits (x₃ ++ y) ∧ (x₃ ++ y).head? ≠ some (.char '.') := by
      rcases hhead₃ with rfl | he | he
      · exact ⟨hy.digit, hy.point⟩
      all_goals exact ⟨endsDigits_append he rfl _, by simp [List.head?_append, he]⟩
    have hfraction : EndsDigits (x₂ ++ (x₃ ++ y)) := by
      rcases hhead₂ with rfl | hp
      · exact hexponent.1
      · exact endsDigits_append hp rfl _
    have hwhole : wholeAt (c :: (x₁ ++ x₂ ++ x₃ ++ y)) = (ds, x₂ ++ (x₃ ++ y)) := by
      simpa only [List.append_assoc] using hx₁ _ hfraction
    rw [numberAt_eq negative hwhole (hx₂ _ hexponent.1 hexponent.2), if_neg hds, hx₃ y hy]
    exact h

end VerdictClient.Json
