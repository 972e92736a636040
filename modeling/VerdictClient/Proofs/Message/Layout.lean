import VerdictClient.Proofs.Json.Texts
import VerdictClient.Proofs.Message.Agreement

namespace VerdictClient

open Json

inductive FrameReader where
  | lenient
  | strict
  deriving DecidableEq, Repr

namespace FrameReader

def read : FrameReader → Text → Option Value
  | lenient, t => (readLenient (.text t)).toOption
  | strict, t => if (Frame.text t).hasLoneHalf then none else readStrict (.text t)

def limits : FrameReader → Limits
  | lenient => Lenient.limits
  | strict => Strict.limits

def allows : FrameReader → CodePoint → Bool
  | lenient, _ => true
  | strict, c => c.isChar

def takes : FrameReader → Lexeme → Bool
  | lenient, _ => true
  | strict, l => !Strict.isRefused ⟨0, l⟩

variable {r : FrameReader} {t : Text} {n : Nat} {ls : List Lexeme} {v : Value}

/-- The text is of these lexemes, which spell the value inside `n` containers; nothing in it is refused. -/
structure Finds (r : FrameReader) (n : Nat) (t : Text) (ls : List Lexeme) (v : Value) : Prop where
  allowed : ∀ c ∈ t, r.allows c = true
  scans : Scans t ls
  taken : ∀ l ∈ ls, r.takes l = true
  value : IsValue r.limits n ls v

theorem isRefused_tokens (h : Scans t ls) :
    (tokens t).any Strict.isRefused = false ↔ ∀ l ∈ ls, strict.takes l = true := by
  have hposition (u : Token) : Strict.isRefused u = Strict.isRefused ⟨0, u.lexeme⟩ := rfl
  rw [← h.lexemes 0, List.any_eq_false]
  simp only [List.mem_map, forall_exists_index, and_imp, forall_apply_eq_imp_iff₂, takes, tokens]
  exact forall₂_congr fun u _ ↦ by rw [hposition u, Bool.not_eq_true, Bool.not_eq_true']

theorem lenient_read_iff : lenient.read t = some v ↔ ∃ ls, lenient.Finds 0 t ls v := by
  have hread : lenient.read t = some v ↔ Lenient.ofText t = .ok v := by
    refine ⟨eq_ok_of_toOption, fun h ↦ ?_⟩
    rw [read, readLenient, h]
    rfl
  rw [hread, Lenient.ofText_eq_ok_iff, Lenient.parse_eq_ok_iff, ofTokens_tokens_iff]
  constructor
  · rintro ⟨ls, hs, hv⟩
    exact ⟨ls, fun _ _ ↦ rfl, hs, fun _ _ ↦ rfl, hv⟩
  · rintro ⟨ls, -, hs, -, hv⟩
    exact ⟨ls, hs, hv⟩

theorem strict_read_iff : strict.read t = some v ↔ ∃ ls, strict.Finds 0 t ls v := by
  have hwhole : (Frame.text t).hasLoneHalf = false ↔ ∀ c ∈ t, strict.allows c = true := hasLoneHalf_text t
  have hread : strict.read t = some v ↔
      (Frame.text t).hasLoneHalf = false ∧ Strict.ofText t = some v := by
    rw [read]
    split
    · next h => simp [h]
    · next h => simp [h, readStrict]
  rw [hread, hwhole, Strict.ofText_eq_some_iff, ofTokens_tokens_iff]
  constructor
  · rintro ⟨hc, hrefused, ls, hs, hv⟩
    exact ⟨ls, hc, hs, (isRefused_tokens hs).1 hrefused, hv⟩
  · rintro ⟨ls, hc, hs, hl, hv⟩
    exact ⟨hc, (isRefused_tokens hs).2 hl, ls, hs, hv⟩

theorem read_iff : r.read t = some v ↔ ∃ ls, r.Finds 0 t ls v := by
  cases r with
  | lenient => exact lenient_read_iff
  | strict => exact strict_read_iff

end FrameReader

/-- A member of an object as it is written, and what it says. -/
structure Member where
  keyText : Text
  valueText : Text
  key : Text
  value : Value

def Member.text (m : Member) : Text := m.keyText ++ .char ':' :: m.valueText

def Member.entry (m : Member) : Text × Value := (m.key, m.value)

structure Member.IsRead (r : FrameReader) (m : Member) : Prop where
  key : r.read m.keyText = some (.text m.key)
  value : r.read (.char '[' :: (m.valueText ++ [.char ']'])) = some (.list [m.value])

/-- The text is an object of these members, with blanks wherever they may stand. -/
def Lays (r : FrameReader) (t : Text) (ms : List Member) : Prop :=
  (∀ m ∈ ms, m.IsRead r) ∧ ∃ before gap after, IsBlank before ∧ IsBlank gap ∧ IsBlank after ∧
    t = before ++ .char '\x7b' :: ([.char ','].intercalate (ms.map Member.text) ++ gap ++
      .char '\x7d' :: after)

variable {r : FrameReader} {s t x : Text} {k : Text} {n : Nat} {ls : List Lexeme} {v : Value} {m : Member}
  {ms : List Member}

namespace FrameReader

theorem allows_char (r : FrameReader) (c : Char) : r.allows (.char c) = true := by
  cases r <;> rfl

theorem allows_of_isSpace {c : CodePoint} (h : isSpace c = true) : r.allows c = true := by
  rcases isSpace_cases h with rfl | rfl | rfl | rfl <;> exact r.allows_char _

theorem takes_of_mark (r : FrameReader) {l : Lexeme} {c : Char} (h : l.mark? = some c) :
    r.takes l = true := by
  cases r with
  | lenient => rfl
  | strict => cases l <;> first | rfl | cases h

theorem read_blank {blank : Text} {i : Nat} (h : r.read t = some v) (hb : IsBlank blank) (hi : IsGap t i) :
    r.read (t.take i ++ blank ++ t.drop i) = some v := by
  obtain ⟨ls, h⟩ := read_iff.1 h
  refine read_iff.2 ⟨ls, fun c hc ↦ ?_, h.scans.insert hb hi, h.taken, h.value⟩
  rcases List.mem_append.1 hc with hc | hc
  · rcases List.mem_append.1 hc with hc | hc
    · exact h.allowed c (List.mem_of_mem_take hc)
    · exact allows_of_isSpace (hb c hc)
  · exact h.allowed c (List.mem_of_mem_drop hc)

theorem Finds.eq_lexemes (h : r.Finds n t ls v) : ls = (tokens t).map Token.lexeme :=
  (h.scans.lexemes 0).symm

theorem read_key_iff : r.read t = some (.text k) ↔ r.Finds 0 t [.text k] (.text k) := by
  rw [read_iff]
  constructor
  · rintro ⟨ls, h⟩
    rwa [h.value.eq_of_text h.scans] at h
  · intro h
    exact ⟨_, h⟩

theorem read_item_iff : r.read (.char '[' :: (x ++ [.char ']'])) = some (.list [v]) ↔
    ∃ ls, r.Finds 1 x ls v := by
  rw [read_iff]
  constructor
  · rintro ⟨ls, h⟩
    obtain ⟨xs, rfl, hvs, hxs⟩ := h.value.exists_of_list h.scans
    obtain ⟨y, rfl, rfl⟩ := List.map_eq_singleton_iff.1 hvs.symm
    refine ⟨y.1, fun c hc ↦ h.allowed c (by simp [hc]), scans_brackets_iff.1 h.scans,
      fun l hl ↦ h.taken l (by simp [listLexemes, hl]), hxs y List.mem_cons_self⟩
  · rintro ⟨ls, h⟩
    refine ⟨_, ?_, scans_brackets_iff.2 h.scans, ?_, @IsValue.list _ 0 [(ls, v)] (Nat.zero_le _) ?_⟩
    · simp only [List.mem_cons, List.mem_append, List.not_mem_nil, or_false]
      rintro c (rfl | hc | rfl)
      · exact r.allows_char _
      · exact h.allowed c hc
      · exact r.allows_char _
    · simp only [listLexemes, List.intercalate_singleton, List.mem_cons, List.mem_append, List.not_mem_nil,
        or_false]
      rintro l (rfl | hl | rfl)
      · exact r.takes_of_mark rfl
      · exact h.taken l hl
      · exact r.takes_of_mark rfl
    · simpa using h.value

end FrameReader

namespace Member

def lexemes (m : Member) : List Lexeme := (tokens m.valueText).map Token.lexeme

theorem IsRead.finds_value (h : m.IsRead r) : r.Finds 1 m.valueText m.lexemes m.value := by
  obtain ⟨ls, hv⟩ := FrameReader.read_item_iff.1 h.value
  rwa [hv.eq_lexemes] at hv

theorem IsRead.finds_key (h : m.IsRead r) : r.Finds 0 m.keyText [.text m.key] (.text m.key) :=
  FrameReader.read_key_iff.1 h.key

theorem IsRead.allowed (h : m.IsRead r) : ∀ c ∈ m.text, r.allows c = true := by
  intro c hc
  rcases List.mem_append.1 hc with hc | hc
  · exact h.finds_key.allowed c hc
  · rcases List.mem_cons.1 hc with rfl | hc
    · exact r.allows_char _
    · exact h.finds_value.allowed c hc

theorem IsRead.taken (h : m.IsRead r) : ∀ l ∈ .text m.key :: .colon :: m.lexemes, r.takes l = true := by
  refine List.forall_mem_cons.2 ⟨h.finds_key.taken _ List.mem_cons_self, ?_⟩
  exact List.forall_mem_cons.2 ⟨r.takes_of_mark rfl, h.finds_value.taken⟩

theorem IsRead.scans (h : m.IsRead r) : Scans m.text (.text m.key :: .colon :: m.lexemes) :=
  scans_member h.finds_key.scans h.finds_value.scans

theorem exists_isRead (hallowed : ∀ c ∈ t, r.allows c = true) (hs : Scans t (.text k :: .colon :: ls))
    (htaken : ∀ l ∈ .text k :: .colon :: ls, r.takes l = true) (hv : IsValue r.limits 1 ls v) :
    ∃ m : Member, m.IsRead r ∧ m.text = t := by
  obtain ⟨keyText, valueText, rfl, hkey, hvalue⟩ := hs.exists_of_member
  obtain ⟨hk, htaken⟩ := List.forall_mem_cons.1 htaken
  refine ⟨⟨keyText, valueText, k, v⟩, ⟨FrameReader.read_key_iff.2 ?_, ?_⟩, rfl⟩
  · exact ⟨fun c hc ↦ hallowed c (by simp [hc]), hkey, by simpa using hk, .text (Nat.zero_le _)⟩
  · refine FrameReader.read_item_iff.2 ⟨ls, fun c hc ↦ hallowed c (by simp [hc]), hvalue, ?_, hv⟩
    exact (List.forall_mem_cons.1 htaken).2

end Member

theorem exists_of_forall_exists {α β : Type} {f : α → β} {p : α → Prop} {ys : List β}
    (h : ∀ y ∈ ys, ∃ x, p x ∧ f x = y) : ∃ xs : List α, (∀ x ∈ xs, p x) ∧ xs.map f = ys := by
  induction ys with
  | nil => exact ⟨[], List.forall_mem_nil _, rfl⟩
  | cons y ys ih =>
    obtain ⟨⟨x, hx, rfl⟩, hys⟩ := List.forall_mem_cons.1 h
    obtain ⟨xs, hxs, rfl⟩ := ih hys
    exact ⟨x :: xs, List.forall_mem_cons.2 ⟨hx, hxs⟩, rfl⟩

namespace Lays

theorem allowed (h : Lays r t ms) : ∀ c ∈ t, r.allows c = true := by
  obtain ⟨hms, before, gap, after, hbefore, hgap, hafter, rfl⟩ := h
  simp only [List.mem_append, List.mem_cons]
  rintro c (hc | rfl | (hc | hc) | rfl | hc)
  · exact FrameReader.allows_of_isSpace (hbefore c hc)
  · exact r.allows_char _
  · obtain hc | ⟨x, hx, hc⟩ := mem_intercalate hc
    · rw [List.mem_singleton.1 hc]
      exact r.allows_char _
    · obtain ⟨m, hm, rfl⟩ := List.mem_map.1 hx
      exact (hms m hm).allowed c hc
  · exact FrameReader.allows_of_isSpace (hgap c hc)
  · exact r.allows_char _
  · exact FrameReader.allows_of_isSpace (hafter c hc)

def lexemes (ms : List Member) : List Lexeme := mapLexemes (ms.map fun m ↦ (m.key, m.lexemes))

theorem scans (h : Lays r t ms) : Scans t (lexemes ms) := by
  obtain ⟨hms, before, gap, after, hbefore, hgap, hafter, rfl⟩ := h
  have hall : ∀ x ∈ ms.map fun m ↦ (m.text, Lexeme.text m.key :: .colon :: m.lexemes), Scans x.1 x.2 := by
    simp only [List.forall_mem_map]
    exact fun m hm ↦ (hms m hm).scans
  have hscans := scans_braces hbefore hgap hafter (scans_intercalate hall)
  simpa only [lexemes, mapLexemes, List.map_map, Function.comp_def] using hscans

theorem taken (h : Lays r t ms) : ∀ l ∈ lexemes ms, r.takes l = true := by
  simp only [lexemes, mapLexemes, List.map_map, List.mem_cons, List.mem_append, List.not_mem_nil, or_false]
  rintro l (rfl | hl | rfl)
  · exact r.takes_of_mark rfl
  · obtain hl | ⟨x, hx, hl⟩ := mem_intercalate hl
    · rw [List.mem_singleton.1 hl]
      exact r.takes_of_mark rfl
    · obtain ⟨m, hm, rfl⟩ := List.mem_map.1 hx
      exact (h.1 m hm).taken l hl
  · exact r.takes_of_mark rfl

/-- In a text that is an object of members, an object of what they say is found. -/
theorem read (h : Lays r t ms) : r.read t = some (.object (collect (ms.map Member.entry))) := by
  have hv := @IsValue.map r.limits 0 (ms.map fun m ↦ (m.key, m.lexemes, m.value)) (Nat.zero_le _) (by
    simp only [List.forall_mem_map]
    exact fun m hm ↦ (h.1 m hm).finds_value.value)
  simp only [List.map_map, Function.comp_def] at hv
  exact FrameReader.read_iff.2 ⟨lexemes ms, h.allowed, h.scans, h.taken, hv⟩

end Lays

/-- A text in which an object is found is an object of members. -/
theorem exists_lays {es : List (Value × Value)} (h : r.read t = some (.map es)) : ∃ ms, Lays r t ms := by
  obtain ⟨ls, h⟩ := FrameReader.read_iff.1 h
  obtain ⟨xs, rfl, hxs⟩ := h.value.exists_of_map h.scans
  obtain ⟨before, s, gap, after, rfl, hbefore, hgap, hafter, hs⟩ := h.scans.exists_of_braces
  cases xs with
  | nil =>
    refine ⟨[], List.forall_mem_nil _, before, s ++ gap, after, hbefore, ?_, hafter, rfl⟩
    exact List.forall_mem_append.2 ⟨isBlank_of_scans hs, hgap⟩
  | cons x xs =>
    obtain ⟨y, ys, rfl, hys⟩ := hs.exists_of_intercalate (by simp)
    have hmember : ∀ z ∈ y :: ys, ∃ m : Member, m.IsRead r ∧ m.text = z := by
      intro z hz
      obtain ⟨ks, hks, hz'⟩ := hys z hz
      rw [List.map_map] at hks
      obtain ⟨w, hw, rfl⟩ := List.mem_map.1 hks
      refine Member.exists_isRead (fun c hc ↦ h.allowed c ?_) hz' (fun l hl ↦ h.taken l ?_) (hxs w hw)
      · simp [mem_intercalate_of_mem hz hc]
      · rw [mapLexemes, List.map_map]
        refine List.mem_cons_of_mem _ (List.mem_append_left _ ?_)
        exact mem_intercalate_of_mem (List.mem_map_of_mem hw) hl
    obtain ⟨ms, hms, heq⟩ := exists_of_forall_exists hmember
    exact ⟨ms, hms, before, gap, after, hbefore, hgap, hafter, by rw [heq]⟩

end VerdictClient
