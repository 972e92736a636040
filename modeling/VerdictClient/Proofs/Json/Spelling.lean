import VerdictClient.Json
import VerdictClient.Proofs.Text.Octets

namespace VerdictClient.Json

/-- The lexemes found in `w` are these, and reading goes on behind it. -/
def Spells (w : Text) (ls : List Lexeme) : Prop :=
  ∀ position rest, (tokensFrom position 0 (w ++ rest)).map Token.lexeme =
    ls ++ (tokensFrom (position + w.length) 0 rest).map Token.lexeme

variable {w v : Text} {ls ks : List Lexeme} {l : Lexeme} {c : CodePoint}

theorem spells_nil : Spells [] [] := fun _ _ ↦ rfl

theorem Spells.append (hw : Spells w ls) (hv : Spells v ks) : Spells (w ++ v) (ls ++ ks) := by
  intro position rest
  rw [List.append_assoc, hw, hv, List.length_append, List.append_assoc, Nat.add_assoc]

theorem Spells.lexemes (h : Spells w ls) : (tokens w).map Token.lexeme = ls := by
  have hw := h 0 []
  rw [List.append_nil] at hw
  rw [tokens, hw]
  simp [tokensFrom]

theorem tokensFrom_skip (w rest : Text) (position : Nat) :
    tokensFrom position w.length (w ++ rest) = tokensFrom (position + w.length) 0 rest := by
  induction w generalizing position with
  | nil => rfl
  | cons c w ih =>
    rw [List.length_cons, List.cons_append, tokensFrom, ih]
    congr 1
    omega

theorem spells_singleton (hc : isSpace c = false) (hl : l.isFault = false)
    (h : ∀ position rest, lexemeAt position c (w ++ rest) = (l, w.length + 1)) :
    Spells (c :: w) [l] := by
  intro position rest
  rw [List.cons_append, tokensFrom, if_neg (by simp [hc]), h]
  simp only [hl, Bool.false_eq_true, if_false, Nat.add_sub_cancel, List.map_cons, tokensFrom_skip,
    List.length_cons, List.cons_append, List.nil_append]
  rw [Nat.add_assoc, Nat.add_comm 1]

theorem spells_opening_map : Spells [.char '\x7b'] [.opening .map] :=
  spells_singleton rfl rfl fun _ _ ↦ rfl

theorem spells_closing_map : Spells [.char '\x7d'] [.closing .map] :=
  spells_singleton rfl rfl fun _ _ ↦ rfl

theorem spells_colon : Spells [.char ':'] [.colon] :=
  spells_singleton rfl rfl fun _ _ ↦ rfl

theorem spells_comma : Spells [.char ','] [.comma] :=
  spells_singleton rfl rfl fun _ _ ↦ rfl

theorem spells_true : Spells "true" [.scalar (.bool true)] :=
  spells_singleton rfl rfl fun _ _ ↦ rfl

theorem spells_false : Spells "false" [.scalar (.bool false)] :=
  spells_singleton rfl rfl fun _ _ ↦ rfl

theorem stringFrom_skip (w rest : Text) (start position : Nat) :
    stringFrom start position w.length (w ++ rest) = stringFrom start (position + w.length) 0 rest := by
  induction w generalizing position with
  | nil => rfl
  | cons c w ih =>
    rw [List.length_cons, List.cons_append, stringFrom, ih]
    congr 1
    omega

theorem stringFrom_escapeAt {r rest : Text} {position width : Nat} (start : Nat)
    (hr : r.length + 1 = width) (h : escapeAt position (r ++ rest) = .ok (c, width)) :
    stringFrom start position 0 (.char '\\' :: (r ++ rest)) =
      (stringFrom start (position + width) 0 rest).map fun (t, n) ↦ (c :: t, n) := by
  subst hr
  rw [stringFrom, if_neg (by decide), if_pos rfl, h]
  simp only [Nat.add_sub_cancel, stringFrom_skip]
  rw [Nat.add_assoc, Nat.add_comm 1]

theorem hex_control : ∀ n < 0x20, Text.hex 4 n =
    [.char '0', .char '0', .char (Nat.digitChar (n / 16)), .char (Nat.digitChar (n % 16))] := by
  decide +kernel

theorem hex4_control : ∀ n < 0x20, hex4 (.char '0') (.char '0') (.char (Nat.digitChar (n / 16)))
    (.char (Nat.digitChar (n % 16))) = some n := by
  decide

/-- A control character is escaped by its number; something has to follow, as the closing mark does. -/
theorem escapeAt_hex (hc : c.val < 0x20) (position : Nat) (e : CodePoint) (rest : Text) :
    escapeAt position ((.char 'u' :: Text.hex 4 c.val) ++ e :: rest) = .ok (c, 6) := by
  have hhigh : isHigh c.val = false := by
    simp only [isHigh, Bool.and_eq_false_iff, decide_eq_false_iff_not]
    omega
  rw [hex_control _ hc]
  simp only [List.cons_append, List.nil_append, escapeAt, hex4_control _ hc, hhigh,
    Bool.false_eq_true, if_false, CodePoint.ofNat_val]

theorem escapeAt_simple {d e : Char} (h : simpleEscape d = some e) (position : Nat) (rest : Text) :
    escapeAt position (.char d :: rest) = .ok (.char e, 2) := by
  unfold simpleEscape at h
  split at h
  case h_9 => cases h
  all_goals
    obtain rfl := Option.some_inj.1 h
    rfl

theorem escape_cases (c : CodePoint) :
    (∃ d e, c = .char e ∧ simpleEscape d = some e ∧ escape c = [.char '\\', .char d]) ∨
    (c.val < 0x20 ∧ escape c = .char '\\' :: .char 'u' :: Text.hex 4 c.val) ∨
    (c ≠ .char '"' ∧ c ≠ .char '\\' ∧ 0x20 ≤ c.val ∧ escape c = [c]) := by
  unfold escape
  split
  · next h => exact .inl ⟨'"', '"', h, rfl, rfl⟩
  split
  · next h => exact .inl ⟨'\\', '\\', h, rfl, rfl⟩
  split
  · next h => exact .inl ⟨'b', '\x08', h, rfl, rfl⟩
  split
  · next h => exact .inl ⟨'f', '\x0c', h, rfl, rfl⟩
  split
  · next h => exact .inl ⟨'n', '\n', h, rfl, rfl⟩
  split
  · next h => exact .inl ⟨'r', '\r', h, rfl, rfl⟩
  split
  · next h => exact .inl ⟨'t', '\t', h, rfl, rfl⟩
  split
  · next h => exact .inr (.inl ⟨h, rfl⟩)
  · next hq hb _ _ _ _ _ h => exact .inr (.inr ⟨hq, hb, Nat.not_lt.1 h, rfl⟩)

theorem stringFrom_escape (c e : CodePoint) (rest : Text) (start position : Nat) :
    stringFrom start position 0 (escape c ++ e :: rest) =
      (stringFrom start (position + (escape c).length) 0 (e :: rest)).map
        fun (t, n) ↦ (c :: t, n) := by
  obtain ⟨d, d', rfl, hd, he⟩ | ⟨hc, he⟩ | ⟨hq, hb, hc, he⟩ := escape_cases c <;> rw [he]
  · have hr : escapeAt position ([.char d] ++ e :: rest) = .ok (.char d', 2) :=
      escapeAt_simple hd position (e :: rest)
    exact stringFrom_escapeAt start rfl hr
  · have hl : (.char 'u' :: Text.hex 4 c.val).length + 1 = 6 := by rw [hex_control _ hc]; rfl
    have h := stringFrom_escapeAt start hl (escapeAt_hex hc position e rest)
    rwa [List.length_cons, hl]
  · rw [List.cons_append, List.nil_append, stringFrom, if_neg hq, if_neg hb, if_neg (by omega)]
    rfl

theorem stringFrom_quoted (t rest : Text) (start position : Nat) :
    stringFrom start position 0 (t.flatMap escape ++ .char '"' :: rest) =
      .ok (t, position + (t.flatMap escape).length + 1 - start) := by
  induction t generalizing position with
  | nil => simp [stringFrom]
  | cons c t ih =>
    -- What follows an escape is never empty: the rest of the text, or the closing mark.
    obtain ⟨e, r, hr⟩ : ∃ e r, t.flatMap escape ++ .char '"' :: rest = e :: r := by
      cases t.flatMap escape <;> exact ⟨_, _, rfl⟩
    rw [List.flatMap_cons, List.append_assoc, hr, stringFrom_escape, ← hr, ih, List.length_append,
      ← Nat.add_assoc]
    rfl

theorem lexemeAt_quoted (t rest : Text) (position : Nat) :
    lexemeAt position (.char '"') (t.flatMap escape ++ [.char '"'] ++ rest) =
      (.text t, (t.flatMap escape ++ [CodePoint.char '"']).length + 1) := by
  have h := stringFrom_quoted t rest position (position + 1)
  have hw : position + 1 + (t.flatMap escape).length + 1 - position =
      (t.flatMap escape ++ [CodePoint.char '"']).length + 1 := by
    rw [List.length_append, List.length_singleton]
    omega
  rw [hw] at h
  rw [List.append_assoc]
  simp only [lexemeAt, List.cons_append, List.nil_append, h]

/-- A quoted text spells the text. -/
theorem spells_quote (t : Text) : Spells (quote t) [.text t] := by
  have h : Spells (.char '"' :: (t.flatMap escape ++ [.char '"'])) [.text t] :=
    spells_singleton rfl rfl fun position rest ↦ lexemeAt_quoted t rest position
  exact h

end VerdictClient.Json
