import VerdictClient.Proofs.Json.Leading
import VerdictClient.Proofs.Json.Scanning

namespace VerdictClient

def Value.isAtom : Value → Bool
  | .null | .bool _ | .int _ | .float _ => true
  | _ => false

namespace Json

variable {limits : Limits} {m m' m'' : Machine} {k l : Lexeme} {ls ks : List Lexeme} {c : CodePoint}
  {t s x y r : Text} {n w position : Nat} {v : Value}

/-- Behind a lexeme to which more could belong a value is complete, and no such lexeme follows. -/
theorem runsOn_of_step {p q : Nat} (h : m.step limits ⟨p, k⟩ = .ok m') (hk : k.runsOn = true)
    (h' : m'.step limits ⟨q, l⟩ = .ok m'') : l.runsOn = false := by
  have hdeliver : ∃ v around, m' = deliver v around := by
    have hscalar {around : List Frame} {v : Value} (h : scalar limits around v = .ok m') :
        ∃ v around, m' = deliver v around := by
      unfold scalar at h
      split at h
      · cases h
      · exact ⟨v, around, (Except.ok.inj h).symm⟩
    obtain ⟨around, expected⟩ := m
    cases k <;> cases hk <;> cases expected <;> first | exact hscalar h | cases h
  obtain ⟨v, around, rfl⟩ := hdeliver
  cases hl : l.runsOn with
  | false => rfl
  | true =>
    rcases around with _ | ⟨_ | _, around⟩ <;> cases l <;> first | (cases hl; done) | cases h'

theorem apart_of_takes (h : Takes limits ls m m') : Apart ls := by
  induction ls generalizing m with
  | nil => exact .nil
  | cons k ls ih =>
    obtain ⟨m₁, hk, hrest⟩ := h.exists_of_cons
    cases ls with
    | nil => exact .singleton _
    | cons l ls =>
      obtain ⟨m₂, hl, -⟩ := hrest.exists_of_cons
      exact .cons_cons (fun hrun ↦ runsOn_of_step hk hrun hl) (ih hrest)

/-- A text is read as what it is scanned as spells. -/
theorem ofTokens_tokens_iff :
    ofTokens limits n (tokens t) = .ok v ↔ ∃ ls, Scans t ls ∧ IsValue limits 0 ls v := by
  constructor
  · intro h
    have hv := ofTokens_eq_ok_iff.1 h
    refine ⟨_, scans_of_tokensFrom (fun u hu ↦ not_isFault_of_mem h hu) ?_, hv⟩
    exact apart_of_takes (hv.takes [] rfl)
  · rintro ⟨ls, hs, hv⟩
    rw [ofTokens_eq_ok_iff, tokens, hs.lexemes]
    exact hv

theorem digit?_lt (h : c.digit?.isSome = true) : c.val < 0x80 := by
  unfold CodePoint.digit? at h
  dsimp only at h
  split at h
  · next hn =>
    simp only [Bool.and_eq_true, decide_eq_true_eq] at hn
    omega
  · cases h

theorem lt_of_lexemeAt (h : lexemeAt position c r = (l, w)) (hl : l.isFault = false) : c.val < 0x80 := by
  have hwords : ∀ w ∈ words, ∀ d ∈ w.1.head?, d.val < 0x80 := by decide
  obtain ⟨m, hm, rfl, -⟩ | ⟨t, -, rfl, -⟩ | ⟨u, v, y, hu, hy, -, -⟩ | ⟨rfl, -⟩ | hn := lexemeAt_cases h hl
  · unfold Lexeme.mark? at hm
    split at hm <;> cases hm <;> decide
  · decide
  · obtain ⟨x, rfl, -, -⟩ := exists_lexes_word hu hy
    exact hwords _ hu c rfl
  · decide
  · obtain ⟨d, x, y, hr, -, hd, -⟩ := exists_of_numberAt hn
    obtain ⟨rfl, -⟩ := List.cons.inj hr
    exact digit?_lt hd

theorem isAtom_of_numberAt {negative : Bool} (h : numberAt negative t = some (.scalar v, w)) :
    v.isAtom = true := by
  rw [numberAt_eq negative (Prod.eta (wholeAt t)).symm (Prod.eta (fractionAt _)).symm] at h
  split at h
  · cases h
  · have hl := congrArg Prod.fst (Option.some.inj h)
    simp only [numberLexeme] at hl
    split at hl
    · split at hl <;> cases hl
      rfl
    · cases hl

theorem isAtom_of_lexemeAt (h : lexemeAt position c r = (.scalar v, w)) : v.isAtom = true := by
  have hwords : ∀ w ∈ words, w.2.isAtom = true := by decide
  obtain ⟨m, hm, -, -⟩ | ⟨t, ht, -, -⟩ | ⟨u, v', y, hu, -, hv, -⟩ | ⟨-, hn⟩ | hn := lexemeAt_cases h rfl
  · cases hm
  · cases ht
  · cases hv
    exact hwords _ hu
  all_goals exact isAtom_of_numberAt hn

theorem Scans.isAtom (h : Scans t ls) : ∀ v, .scalar v ∈ ls → v.isAtom = true := by
  induction h with
  | nil => simp
  | space _ _ ih => exact ih
  | lexeme _ _ hx _ _ ih =>
    intro v hv
    rcases List.mem_cons.1 hv with rfl | hv
    · exact isAtom_of_lexemeAt (hx 0 [] fun _ ↦ delimits_nil)
    · exact ih v hv

theorem Scans.exists_ascii (h : Scans t (l :: ls)) : ∃ c r, t = c :: r ∧ c.val < 0x80 := by
  cases h with
  | @space c t _ hc _ =>
    refine ⟨c, t, rfl, ?_⟩
    rcases isSpace_cases hc with rfl | rfl | rfl | rfl <;> decide
  | @lexeme c x t _ _ _ hl hx hrun _ => exact ⟨c, x ++ t, rfl, lt_of_lexemeAt (hx 0 t hrun) hl⟩

theorem IsValue.eq_of_text (h : IsValue limits n ls (.text t)) (hs : Scans s ls) : ls = [.text t] := by
  generalize hv : Value.text t = v at h
  cases h with
  | text => cases hv; rfl
  | scalar =>
    subst hv
    cases hs.isAtom _ List.mem_cons_self
  | double | list | map => cases hv

theorem IsValue.exists_of_list {vs : List Value} (h : IsValue limits n ls (.list vs)) (hs : Scans s ls) :
    ∃ xs : List (List Lexeme × Value), ls = listLexemes (xs.map Prod.fst) ∧ vs = xs.map Prod.snd ∧
      ∀ x ∈ xs, IsValue limits (n + 1) x.1 x.2 := by
  generalize hv : Value.list vs = v at h
  cases h with
  | list _ hxs =>
    cases hv
    exact ⟨_, rfl, rfl, hxs⟩
  | scalar =>
    subst hv
    cases hs.isAtom _ List.mem_cons_self
  | text | double | map => cases hv

theorem IsValue.exists_of_map {es : List (Value × Value)} (h : IsValue limits n ls (.map es))
    (hs : Scans s ls) :
    ∃ xs : List (Text × List Lexeme × Value), ls = mapLexemes (xs.map fun x ↦ (x.1, x.2.1)) ∧
      ∀ x ∈ xs, IsValue limits (n + 1) x.2.1 x.2.2 := by
  generalize hv : Value.map es = v at h
  cases h with
  | map _ hxs => exact ⟨_, rfl, hxs⟩
  | scalar =>
    subst hv
    cases hs.isAtom _ List.mem_cons_self
  | text | double | list => cases hv

theorem eq_of_append_blank {m : Char} (hm : isSpace (.char m) = false) (ht : IsBlank t)
    (h : x ++ [.char m] = s ++ .char m :: t) : x = s := by
  obtain rfl | ⟨t, d, rfl⟩ := List.eq_nil_or_concat t
  · exact (List.append_inj' h rfl).1
  · rw [List.concat_eq_append] at h ht
    rw [← List.cons_append, ← List.append_assoc] at h
    have hd := (List.append_inj' h rfl).2
    cases hd
    have hspace := ht (.char m) (by simp)
    rw [hm] at hspace
    cases hspace

theorem scans_brackets_iff : Scans (.char '[' :: (x ++ [.char ']'])) (listLexemes [ls]) ↔ Scans x ls := by
  rw [listLexemes, List.intercalate_singleton]
  constructor
  · intro h
    obtain ⟨w, s, hs, hw, h⟩ := h.exists_of_mark rfl
    obtain ⟨s₁, s₂, rfl, h₁, h₂⟩ := h.exists_of_append
    obtain ⟨w', s', rfl, hw', h'⟩ := h₂.exists_of_mark rfl
    cases w with
    | cons d w =>
      obtain ⟨rfl, -⟩ := List.cons.inj hs
      cases hw _ List.mem_cons_self
    | nil =>
      have hx : x ++ [.char ']'] = (s₁ ++ w') ++ .char ']' :: s' := by
        rw [List.append_assoc]
        exact (List.cons.inj hs).2
      rw [eq_of_append_blank rfl (isBlank_of_scans h') hx]
      exact h₁.append_blank hw'
  · intro h
    have hclosing : Scans [.char ']'] [.closing .list] := scans_mark rfl .nil
    exact scans_mark rfl (h.append hclosing (delimits_cons (by decide)))

theorem scans_member (hk : Scans s [k]) (hx : Scans x ls) : Scans (s ++ .char ':' :: x) (k :: .colon :: ls) :=
  hk.append (scans_mark rfl hx) (delimits_cons (by decide))

theorem Scans.exists_of_member (h : Scans t (k :: .colon :: ls)) :
    ∃ s x, t = s ++ .char ':' :: x ∧ Scans s [k] ∧ Scans x ls := by
  have hk : Scans t ([k] ++ .colon :: ls) := h
  obtain ⟨s₁, s₂, rfl, h₁, h₂⟩ := hk.exists_of_append
  obtain ⟨w, x, rfl, hw, hx⟩ := h₂.exists_of_mark rfl
  exact ⟨s₁ ++ w, x, by simp, h₁.append_blank hw, hx⟩

theorem scans_intercalate {xs : List (Text × List Lexeme)} (h : ∀ x ∈ xs, Scans x.1 x.2) :
    Scans ([.char ','].intercalate (xs.map Prod.fst)) ([.comma].intercalate (xs.map Prod.snd)) := by
  induction xs with
  | nil => exact .nil
  | cons x xs ih =>
    obtain ⟨hx, hxs⟩ := List.forall_mem_cons.1 h
    cases xs with
    | nil => simpa using hx
    | cons y ys =>
      simp only [List.map_cons, List.intercalate_cons_cons, List.append_assoc]
      exact hx.append (scans_mark rfl (ih hxs)) (delimits_cons (by decide))

/-- What is scanned as parts between commas is texts between commas. -/
theorem Scans.exists_of_intercalate {lss : List (List Lexeme)} (hne : lss ≠ [])
    (h : Scans t ([.comma].intercalate lss)) :
    ∃ x xs, t = [.char ','].intercalate (x :: xs) ∧ ∀ y ∈ x :: xs, ∃ ks ∈ lss, Scans y ks := by
  induction lss generalizing t with
  | nil => exact absurd rfl hne
  | cons ls lss ih =>
    cases lss with
    | nil =>
      rw [List.intercalate_singleton] at h
      refine ⟨t, [], List.intercalate_singleton.symm, ?_⟩
      simpa using h
    | cons ks lss =>
      rw [List.intercalate_cons_cons, List.append_assoc] at h
      obtain ⟨s, s', rfl, hs, h'⟩ := h.exists_of_append
      obtain ⟨w, r, rfl, hw, hr⟩ := h'.exists_of_mark rfl
      obtain ⟨x, xs, rfl, hxs⟩ := ih (List.cons_ne_nil _ _) hr
      refine ⟨s ++ w, x :: xs, by simp [List.intercalate_cons_cons], ?_⟩
      refine List.forall_mem_cons.2 ⟨?_, fun y hy ↦ ?_⟩
      · exact ⟨ls, List.mem_cons_self, hs.append_blank hw⟩
      · obtain ⟨ks', hks', hy'⟩ := hxs y hy
        exact ⟨ks', List.mem_cons_of_mem _ hks', hy'⟩

theorem scans_braces {before gap after : Text} (hbefore : IsBlank before) (hgap : IsBlank gap)
    (hafter : IsBlank after) (h : Scans x ls) :
    Scans (before ++ .char '\x7b' :: (x ++ gap ++ .char '\x7d' :: after))
      (.opening .map :: (ls ++ [.closing .map])) := by
  have hclosing : Scans (.char '\x7d' :: after) [.closing .map] := scans_mark rfl hafter.scans
  refine scans_blank_append hbefore (scans_mark rfl ?_)
  exact (h.append_blank hgap).append hclosing (delimits_cons (by decide))

theorem Scans.exists_of_braces (h : Scans t (.opening .map :: (ls ++ [.closing .map]))) :
    ∃ before x gap after, t = before ++ .char '\x7b' :: (x ++ gap ++ .char '\x7d' :: after) ∧
      IsBlank before ∧ IsBlank gap ∧ IsBlank after ∧ Scans x ls := by
  obtain ⟨before, s, rfl, hbefore, h⟩ := h.exists_of_mark rfl
  obtain ⟨x, s', rfl, hx, h'⟩ := h.exists_of_append
  obtain ⟨gap, after, rfl, hgap, hafter⟩ := h'.exists_of_mark rfl
  exact ⟨before, x, gap, after, by simp, hbefore, hgap, isBlank_of_scans hafter, hx⟩

end Json

end VerdictClient
