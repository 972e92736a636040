import Mathlib.Data.List.Chain
import VerdictClient.Proofs.Json.Extent
import VerdictClient.Proofs.Json.Quotation

namespace VerdictClient.Json

variable {c d : CodePoint} {r t s x y : Text} {l : Lexeme} {w n position : Nat} {v : Value}

/-- Lexemes to which more of the same text could belong. -/
def Lexeme.runsOn : Lexeme → Bool
  | .scalar _ | .double .. | .oversized _ => true
  | _ => false

/-- The lexeme that opens with `c` and goes on with `x`, and with nothing behind that. -/
def Lexes (c : CodePoint) (x : Text) (l : Lexeme) : Prop :=
  ∀ position y, (l.runsOn = true → Delimits y) → lexemeAt position c (x ++ y) = (l, x.length + 1)

theorem runsOn_numberLexeme (negative : Bool) (ds fs : List Nat) (exponent : Option (Int × Nat)) :
    (numberLexeme negative ds fs exponent).runsOn = true := by
  unfold numberLexeme
  split
  · dsimp only
    split <;> rfl
  · rfl

theorem runsOn_of_numberAt {negative : Bool} (h : numberAt negative t = some (l, w)) : l.runsOn = true := by
  rw [numberAt_eq negative (Prod.eta (wholeAt t)).symm (Prod.eta (fractionAt _)).symm] at h
  split at h
  · cases h
  · cases h
    exact runsOn_numberLexeme ..

theorem find?_words_eq_none (h : ∃ d ∈ (c :: r).take 2, d.digit?.isSome = true) :
    words.find? (fun w ↦ w.1.isPrefixOf (c :: r)) = none := by
  obtain ⟨d, hd, hdigit⟩ := h
  have hwords : ∀ w ∈ words, w.1.length ≥ 2 ∧ ∀ d ∈ w.1.take 2, d.digit? = none := by decide
  rw [List.find?_eq_none]
  intro w hw hprefix
  obtain ⟨s, hs⟩ := List.isPrefixOf_iff_prefix.1 hprefix
  obtain ⟨hlen, hnone⟩ := hwords w hw
  rw [← hs, List.take_append_of_le_length hlen] at hd
  rw [hnone d hd] at hdigit
  cases hdigit

theorem lexemeAt_of_ne (h : ∀ m ∈ ['\x7b', '\x7d', '[', ']', ':', ',', '"'], c ≠ .char m) (position : Nat)
    (r : Text) : lexemeAt position c r =
      match words.find? fun w ↦ w.1.isPrefixOf (c :: r) with
      | some (w, v) => (.scalar v, w.length)
      | none => (if c = .char '-' then numberAt true r else numberAt false (c :: r)).getD (.junk, 1) := by
  unfold lexemeAt
  split
  case h_8 => rfl
  all_goals exact absurd rfl (h _ (by decide))

theorem lexemeAt_digit (h : c.digit?.isSome = true) (hn : numberAt false (c :: r) = some (l, w))
    (position : Nat) : lexemeAt position c r = (l, w) := by
  have hmarks : ∀ m ∈ ['\x7b', '\x7d', '[', ']', ':', ',', '"'], c ≠ .char m := by
    rintro m hm rfl
    have hnone : ∀ m ∈ ['\x7b', '\x7d', '[', ']', ':', ',', '"'], (CodePoint.char m).digit? = none := by
      simp only [List.forall_mem_cons]
      exact ⟨rfl, rfl, rfl, rfl, rfl, rfl, rfl, List.forall_mem_nil _⟩
    rw [hnone m hm] at h
    cases h
  have hminus : c ≠ .char '-' := by
    rintro rfl
    cases h
  rw [lexemeAt_of_ne hmarks, find?_words_eq_none ⟨c, by simp, h⟩]
  simp only [if_neg hminus, hn, Option.getD_some]

theorem lexemeAt_minus (h : c.digit?.isSome = true) (hn : numberAt true (c :: r) = some (l, w))
    (position : Nat) : lexemeAt position (.char '-') (c :: r) = (l, w) := by
  rw [lexemeAt_of_ne (by simp), find?_words_eq_none ⟨c, by simp, h⟩]
  simp only [if_true, hn, Option.getD_some]

def Lexeme.mark? : Lexeme → Option Char
  | .opening .map => some '\x7b'
  | .closing .map => some '\x7d'
  | .opening .list => some '['
  | .closing .list => some ']'
  | .colon => some ':'
  | .comma => some ','
  | _ => none

theorem lexemeAt_cases (h : lexemeAt position c r = (l, w)) (hl : l.isFault = false) :
    (∃ m, l.mark? = some m ∧ c = .char m ∧ w = 1) ∨
    (∃ t, l = .text t ∧ c = .char '"' ∧ stringFrom position (position + 1) 0 r = .ok (t, w)) ∨
    (∃ u v y, (u, v) ∈ words ∧ u ++ y = c :: r ∧ l = .scalar v ∧ w = u.length) ∨
    (c = .char '-' ∧ numberAt true r = some (l, w)) ∨ numberAt false (c :: r) = some (l, w) := by
  unfold lexemeAt at h
  split at h
  case h_7 =>
    split at h
    · next t n hs =>
      cases h
      exact .inr (.inl ⟨t, rfl, rfl, hs⟩)
    · cases h
      cases hl
  case h_8 =>
    split at h
    · next u v hw =>
      have hprefix := List.find?_some hw
      obtain ⟨y, hy⟩ := List.isPrefixOf_iff_prefix.1 hprefix
      obtain ⟨rfl, rfl⟩ := Prod.mk.inj h
      exact .inr (.inr (.inl ⟨u, v, y, List.mem_of_find?_eq_some hw, hy, rfl, rfl⟩))
    · have hnumber {o : Option (Lexeme × Nat)} (h : o.getD (.junk, 1) = (l, w)) : o = some (l, w) := by
        cases o with
        | none =>
          cases h
          cases hl
        | some lw => exact congrArg some h
      dsimp only at h
      split at h
      · next hc => exact .inr (.inr (.inr (.inl ⟨hc, hnumber h⟩)))
      · exact .inr (.inr (.inr (.inr (hnumber h))))
  all_goals
    cases h
    exact .inl ⟨_, rfl, rfl, rfl⟩

variable {m : Char}

theorem lexes_mark (hm : l.mark? = some m) : isSpace (.char m) = false ∧ l.isFault = false ∧
    l.runsOn = false ∧ Lexes (.char m) [] l := by
  unfold Lexeme.mark? at hm
  split at hm <;> cases hm <;> exact ⟨rfl, rfl, rfl, fun _ _ _ ↦ rfl⟩

theorem exists_lexes_word {u y : Text} (hu : (u, v) ∈ words) (hy : u ++ y = c :: r) :
    ∃ x, u = c :: x ∧ r = x ++ y ∧ Lexes c x (.scalar v) := by
  simp only [words, List.mem_cons, List.not_mem_nil, or_false] at hu
  rcases hu with h | h | h | h | h | h <;> obtain ⟨rfl, rfl⟩ := Prod.mk.inj h <;> cases hy <;>
    exact ⟨_, rfl, rfl, fun _ _ _ ↦ rfl⟩

theorem lexes_text (hx : Quotes x t) : Lexes (.char '"') x (.text t) := by
  intro p y _
  have hwidth : p + 1 + x.length - p = x.length + 1 := by omega
  simp only [lexemeAt, hx.stringFrom, hwidth]

/-- A lexeme that is not at fault is the same before all other texts that do not go on with it. -/
theorem exists_lexes (h : lexemeAt position c r = (l, w)) (hl : l.isFault = false) :
    ∃ x y, r = x ++ y ∧ w = x.length + 1 ∧ Lexes c x l := by
  obtain ⟨m, hm, rfl, rfl⟩ | ⟨t, rfl, rfl, hs⟩ | ⟨u, v, y, hu, hy, rfl, rfl⟩ | ⟨rfl, hn⟩ | hn :=
    lexemeAt_cases h hl
  · exact ⟨[], r, rfl, rfl, (lexes_mark hm).2.2.2⟩
  · obtain ⟨x, y, rfl, hx⟩ := exists_quotes_of_stringFrom hs
    rw [hx.stringFrom] at hs
    cases hs
    exact ⟨x, y, rfl, by omega, lexes_text hx⟩
  · obtain ⟨x, rfl, rfl, hx⟩ := exists_lexes_word hu hy
    exact ⟨x, y, rfl, rfl, hx⟩
  · obtain ⟨d, x, y, rfl, rfl, hd, hx⟩ := exists_of_numberAt hn
    refine ⟨d :: x, y, rfl, by simp [Nat.add_comm], fun p z hz ↦ ?_⟩
    rw [List.cons_append, lexemeAt_minus hd (hx z (hz (runsOn_of_numberAt hn)))]
    simp [Nat.add_comm]
  · obtain ⟨d, x, y, hr, rfl, hd, hx⟩ := exists_of_numberAt hn
    obtain ⟨rfl, rfl⟩ := List.cons.inj hr
    refine ⟨x, y, rfl, by simp, fun p z hz ↦ ?_⟩
    rw [lexemeAt_digit hd (hx z (hz (runsOn_of_numberAt hn)))]
    simp

theorem eq_of_lexemeAt_mark (h : lexemeAt position c r = (l, w)) (hm : l.mark? = some m) :
    c = .char m ∧ w = 1 := by
  obtain ⟨-, hl, hrun, -⟩ := lexes_mark hm
  obtain ⟨m', hm', rfl, rfl⟩ | ⟨t, rfl, -, -⟩ | ⟨u, v, y, -, -, rfl, -⟩ | ⟨-, hn⟩ | hn :=
    lexemeAt_cases h hl
  · cases hm'.symm.trans hm
    exact ⟨rfl, rfl⟩
  · cases hm
  · cases hm
  all_goals
    rw [runsOn_of_numberAt hn] at hrun
    cases hrun

variable {ls ks : List Lexeme}

/-- The text is blanks and these lexemes. -/
inductive Scans : Text → List Lexeme → Prop
  | nil : Scans [] []
  | space {c : CodePoint} {t : Text} {ls : List Lexeme} : isSpace c = true → Scans t ls → Scans (c :: t) ls
  | lexeme {c : CodePoint} {x t : Text} {l : Lexeme} {ls : List Lexeme} : isSpace c = false →
      l.isFault = false → Lexes c x l → (l.runsOn = true → Delimits t) → Scans t ls →
      Scans (c :: (x ++ t)) (l :: ls)

theorem exists_tokensFrom_cons (hc : isSpace c = false) (position : Nat) (r : Text) :
    ∃ ts, tokensFrom position 0 (c :: r) = ⟨position, (lexemeAt position c r).1⟩ :: ts := by
  rw [tokensFrom, if_neg (by simp [hc])]
  exact ⟨_, rfl⟩

theorem tokensFrom_lexeme (hc : isSpace c = false) (hl : l.isFault = false)
    (h : lexemeAt position c (x ++ t) = (l, x.length + 1)) :
    tokensFrom position 0 (c :: (x ++ t)) =
      ⟨position, l⟩ :: tokensFrom (position + (x.length + 1)) 0 t := by
  rw [tokensFrom, if_neg (by simp [hc]), h]
  simp only [hl, Bool.false_eq_true, if_false, Nat.add_sub_cancel, tokensFrom_skip]
  rw [Nat.add_assoc, Nat.add_comm 1]

theorem Scans.lexemes (h : Scans t ls) (position : Nat) :
    (tokensFrom position 0 t).map Token.lexeme = ls := by
  induction h generalizing position with
  | nil => rfl
  | space hc _ ih =>
    rw [tokensFrom, if_pos hc]
    exact ih _
  | lexeme hc hl hx ht _ ih => rw [tokensFrom_lexeme hc hl (hx position _ ht), List.map_cons, ih]

theorem delimits_nil : Delimits [] := ⟨by simp [EndsDigits], by simp, by simp, by simp⟩

theorem delimits_cons (h : d.digit? = none ∧ d ≠ .char '.' ∧ d ≠ .char 'e' ∧ d ≠ .char 'E') :
    Delimits (d :: t) := by
  obtain ⟨hdigit, hpoint, hlower, hupper⟩ := h
  refine ⟨fun e he ↦ ?_, by simpa using hpoint, by simpa using hlower, by simpa using hupper⟩
  cases he
  exact hdigit

theorem isSpace_cases (h : isSpace d = true) :
    d = .char ' ' ∨ d = .char '\t' ∨ d = .char '\n' ∨ d = .char '\r' := by
  simpa [isSpace, or_assoc] using h

theorem delimits_space (h : isSpace d = true) : Delimits (d :: t) := by
  apply delimits_cons
  rcases isSpace_cases h with rfl | rfl | rfl | rfl <;> decide

theorem Delimits.of_append (h : Delimits (s ++ t)) : Delimits s := by
  cases s with
  | nil => exact delimits_nil
  | cons d s => exact ⟨h.digit, h.point, h.lower, h.upper⟩

theorem Delimits.append (hs : Delimits s) (ht : s = [] → Delimits t) : Delimits (s ++ t) := by
  cases s with
  | nil => exact ht rfl
  | cons d s => exact ⟨hs.digit, hs.point, hs.lower, hs.upper⟩

theorem exists_numberAt_of_digit (h : c.digit?.isSome = true) (r : Text) :
    ∃ l w, numberAt false (c :: r) = some (l, w) := by
  have hds : (wholeAt (c :: r)).1.isEmpty = false := by
    obtain ⟨d, hd⟩ := Option.isSome_iff_exists.1 h
    unfold wholeAt
    split
    · rfl
    · simp [Numeral.takeDigits, hd]
  rw [numberAt_eq false (Prod.eta (wholeAt _)).symm (Prod.eta (fractionAt _)).symm, hds]
  exact ⟨_, _, rfl⟩

theorem lexemeAt_of_not_delimits (h : ¬Delimits (d :: r)) (position : Nat) : isSpace d = false ∧
    ((lexemeAt position d r).1.runsOn = true ∨ (lexemeAt position d r).1.isFault = true) := by
  by_cases hmark : d = .char '.' ∨ d = .char 'e' ∨ d = .char 'E'
  · rcases hmark with rfl | rfl | rfl <;> exact ⟨rfl, .inr rfl⟩
  · rw [not_or, not_or] at hmark
    have hdigit : d.digit?.isSome = true := by
      cases hd : d.digit? with
      | none => exact absurd (delimits_cons ⟨hd, hmark⟩) h
      | some k => rfl
    obtain ⟨l, w, hn⟩ := exists_numberAt_of_digit hdigit r
    have hspace : isSpace d = false := by
      rw [← Bool.not_eq_true]
      intro hs
      rcases isSpace_cases hs with rfl | rfl | rfl | rfl <;> cases hdigit
    rw [lexemeAt_digit hdigit hn]
    exact ⟨hspace, .inl (runsOn_of_numberAt hn)⟩

/-- No lexeme to which more could belong stands behind another one. -/
def Apart (ls : List Lexeme) : Prop := ls.IsChain fun k l ↦ k.runsOn = true → l.runsOn = false

theorem delimits_of_apart (hl : l.runsOn = true)
    (hfault : ∀ u ∈ tokensFrom position 0 t, u.lexeme.isFault = false)
    (hapart : Apart (l :: (tokensFrom position 0 t).map Token.lexeme)) : Delimits t := by
  cases t with
  | nil => exact delimits_nil
  | cons d r =>
    by_contra h
    obtain ⟨hd, hcases⟩ := lexemeAt_of_not_delimits h position
    obtain ⟨ts, hts⟩ := exists_tokensFrom_cons hd position r
    rw [hts] at hfault hapart
    rcases hcases with hrun | hf
    · have hnot := (List.isChain_cons_cons.1 hapart).1 hl
      rw [hrun] at hnot
      cases hnot
    · have hnot := hfault _ List.mem_cons_self
      rw [hf] at hnot
      cases hnot

theorem scans_of_tokensFrom (hfault : ∀ u ∈ tokensFrom position 0 t, u.lexeme.isFault = false)
    (hapart : Apart ((tokensFrom position 0 t).map Token.lexeme)) :
    Scans t ((tokensFrom position 0 t).map Token.lexeme) := by
  induction hlen : t.length using Nat.strong_induction_on generalizing t position with
  | h length ih =>
    cases t with
    | nil => exact .nil
    | cons c r =>
      cases hc : isSpace c with
      | true =>
        rw [tokensFrom, if_pos hc] at hfault hapart ⊢
        exact .space hc (ih _ (by simp at hlen; omega) hfault hapart rfl)
      | false =>
        have hl : (lexemeAt position c r).1.isFault = false := by
          obtain ⟨ts, hts⟩ := exists_tokensFrom_cons hc position r
          exact hfault _ (hts ▸ List.mem_cons_self)
        obtain ⟨x, y, rfl, hw, hx⟩ := exists_lexes (Prod.eta (lexemeAt position c r)).symm hl
        have hlexeme : lexemeAt position c (x ++ y) = ((lexemeAt position c (x ++ y)).1, x.length + 1) :=
          Prod.ext rfl hw
        rw [tokensFrom_lexeme hc hl hlexeme] at hfault hapart ⊢
        rw [List.map_cons] at hapart ⊢
        have hrest := fun u hu ↦ hfault u (List.mem_cons_of_mem _ hu)
        refine .lexeme hc hl hx (fun hrun ↦ delimits_of_apart hrun hrest hapart) ?_
        exact ih _ (by simp at hlen; omega) hrest hapart.tail rfl

def IsBlank (t : Text) : Prop := ∀ c ∈ t, isSpace c = true

theorem isBlank_nil : IsBlank [] := List.forall_mem_nil _

theorem IsBlank.delimits (h : IsBlank t) : Delimits t := by
  cases t with
  | nil => exact delimits_nil
  | cons c t => exact delimits_space (h c List.mem_cons_self)

theorem scans_blank_append (hw : IsBlank s) (h : Scans t ls) : Scans (s ++ t) ls := by
  induction s with
  | nil => exact h
  | cons c s ih =>
    obtain ⟨hc, hs⟩ := List.forall_mem_cons.1 hw
    exact .space hc (ih hs)

theorem IsBlank.scans (h : IsBlank t) : Scans t [] := by
  have ht := scans_blank_append h .nil
  rwa [List.append_nil] at ht

theorem isBlank_of_scans (h : Scans t []) : IsBlank t := by
  generalize hls : [] = ls at h
  induction h with
  | nil => exact isBlank_nil
  | space hc _ ih => exact List.forall_mem_cons.2 ⟨hc, ih hls⟩
  | lexeme => cases hls

theorem Scans.append (hs : Scans s ks) (ht : Scans t ls) (hd : Delimits t) :
    Scans (s ++ t) (ks ++ ls) := by
  induction hs with
  | nil => exact ht
  | space hc _ ih => exact .space hc ih
  | lexeme hc hl hx hrun _ ih =>
    rw [List.cons_append, List.cons_append, List.append_assoc]
    exact .lexeme hc hl hx (fun h ↦ (hrun h).append fun _ ↦ hd) ih

theorem Scans.append_blank (hs : Scans s ls) (ht : IsBlank t) : Scans (s ++ t) ls := by
  have h := hs.append ht.scans ht.delimits
  rwa [List.append_nil] at h

theorem Scans.exists_of_cons (h : Scans t (l :: ls)) :
    ∃ w c x s, t = w ++ c :: (x ++ s) ∧ IsBlank w ∧ isSpace c = false ∧ l.isFault = false ∧ Lexes c x l ∧
      (l.runsOn = true → Delimits s) ∧ Scans s ls := by
  generalize hks : l :: ls = ks at h
  induction h with
  | nil => cases hks
  | @space d t _ hd _ ih =>
    obtain ⟨w, c, x, s, rfl, hw, hrest⟩ := ih hks
    exact ⟨d :: w, c, x, s, rfl, List.forall_mem_cons.2 ⟨hd, hw⟩, hrest⟩
  | @lexeme c x t _ _ hc hl hx hrun hs ih =>
    cases hks
    exact ⟨[], c, x, t, rfl, isBlank_nil, hc, hl, hx, hrun, hs⟩

theorem Scans.exists_of_append (h : Scans t (ks ++ ls)) :
    ∃ s s', t = s ++ s' ∧ Scans s ks ∧ Scans s' ls := by
  induction ks generalizing t with
  | nil => exact ⟨[], t, rfl, .nil, h⟩
  | cons k ks ih =>
    obtain ⟨w, c, x, r, rfl, hw, hc, hl, hx, hrun, hr⟩ := h.exists_of_cons
    obtain ⟨s, s', rfl, hs, hs'⟩ := ih hr
    refine ⟨w ++ c :: (x ++ s), s', by simp, scans_blank_append hw ?_, hs'⟩
    exact .lexeme hc hl hx (fun h ↦ (hrun h).of_append) hs

theorem scans_mark (hm : l.mark? = some m) (h : Scans t ls) : Scans (.char m :: t) (l :: ls) := by
  obtain ⟨hspace, hl, hrun, hx⟩ := lexes_mark hm
  refine .lexeme (x := []) hspace hl hx (fun h ↦ ?_) h
  rw [hrun] at h
  cases h

theorem Scans.exists_of_mark (h : Scans t (l :: ls)) (hm : l.mark? = some m) :
    ∃ w s, t = w ++ .char m :: s ∧ IsBlank w ∧ Scans s ls := by
  obtain ⟨w, c, x, s, rfl, hw, -, -, hx, -, hs⟩ := h.exists_of_cons
  obtain ⟨rfl, hlen⟩ := eq_of_lexemeAt_mark (hx 0 [] fun _ ↦ delimits_nil) hm
  obtain rfl := List.eq_nil_of_length_eq_zero (Nat.succ.inj hlen)
  exact ⟨w, s, rfl, hw, hs⟩

def Token.ending (t : Text) (u : Token) : Nat :=
  match t.drop u.position with
  | [] => u.position
  | c :: r => u.position + (lexemeAt u.position c r).2

/-- No token of the text reaches over the place behind its first `i` code points. -/
def IsGap (t : Text) (i : Nat) : Prop := ∀ u ∈ tokens t, i ≤ u.position ∨ u.ending t ≤ i

theorem Token.ending_append {before : Text} (h : lexemeAt before.length c r = (l, w)) :
    Token.ending (before ++ c :: r) ⟨before.length, l⟩ = before.length + w := by
  simp only [Token.ending, List.drop_left, h]

theorem Scans.insert_blank {blank : Text} (h : Scans t ls) (hb : IsBlank blank) (before : Text) (i : Nat)
    (hgap : ∀ u ∈ tokensFrom before.length 0 t,
      before.length + i ≤ u.position ∨ u.ending (before ++ t) ≤ before.length + i) :
    Scans (t.take i ++ blank ++ t.drop i) ls := by
  induction h generalizing before i with
  | nil =>
    rw [List.take_nil, List.drop_nil]
    exact (scans_blank_append hb .nil)
  | @space c t ls hc ht ih =>
    cases i with
    | zero => exact scans_blank_append hb (.space hc ht)
    | succ i =>
      rw [tokensFrom, if_pos hc] at hgap
      refine .space hc (ih (before ++ [c]) i fun u hu ↦ ?_)
      rw [List.length_append, List.length_singleton] at hu
      have hu' := hgap u hu
      simp only [List.length_append, List.length_singleton, List.append_assoc, List.singleton_append]
      omega
  | @lexeme c x t l ls hc hl hx hrun ht ih =>
    have hlexeme := hx before.length t hrun
    rw [tokensFrom_lexeme hc hl hlexeme] at hgap
    obtain ⟨hhead, hrest⟩ := List.forall_mem_cons.1 hgap
    rw [Token.ending_append hlexeme] at hhead
    by_cases hi : i = 0
    · subst hi
      exact scans_blank_append hb (.lexeme hc hl hx hrun ht)
    · obtain ⟨j, rfl⟩ : ∃ j, i = (c :: x).length + j := ⟨i - (c :: x).length, by simp; simp at hhead; omega⟩
      have htake : (c :: (x ++ t)).take ((c :: x).length + j) = c :: (x ++ t.take j) :=
        List.take_length_add_append j
      have hdrop : (c :: (x ++ t)).drop ((c :: x).length + j) = t.drop j := List.drop_length_add_append j
      have hdelimits (hl : l.runsOn = true) : Delimits (t.take j ++ blank ++ t.drop j) := by
        have htd := hrun hl
        rw [← List.take_append_drop j t] at htd
        refine (htd.of_append.append fun _ ↦ hb.delimits).append fun hnil ↦ ?_
        rw [(List.append_eq_nil_iff.1 hnil).1] at htd
        exact htd
      rw [htake, hdrop, List.cons_append, List.cons_append, List.append_assoc, List.append_assoc,
        ← List.append_assoc (t.take j)]
      refine .lexeme hc hl hx hdelimits (ih (before ++ c :: x) j fun u hu ↦ ?_)
      rw [List.length_append] at hu ⊢
      have hu' := hrest u hu
      simp only [List.length_cons, List.append_assoc, List.cons_append] at hu' ⊢
      omega

/-- Blanks between the lexemes change none of them. -/
theorem Scans.insert {blank : Text} {i : Nat} (h : Scans t ls) (hb : IsBlank blank) (hi : IsGap t i) :
    Scans (t.take i ++ blank ++ t.drop i) ls := by
  refine h.insert_blank hb [] i fun u hu ↦ ?_
  rw [List.length_nil, Nat.zero_add]
  exact hi u hu

end VerdictClient.Json
