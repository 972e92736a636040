import Mathlib.Data.List.TakeWhile
import VerdictClient.Text.Class
import VerdictClient.Proofs.Text.Octets

namespace VerdictClient

namespace CodePoint

variable {c d : CodePoint}

def IsCapital (c : CodePoint) : Prop := 0x41 ≤ c.val ∧ c.val ≤ 0x5A

theorem lower_of_not_isCapital (h : ¬c.IsCapital) : c.lower = c := by
  cases c with
  | char d =>
    have hd : ¬(d.val ≥ 'A'.val ∧ d.val ≤ 'Z'.val) := h
    have hsame : d.toLower = d := dif_neg hd
    rw [lower, hsame]
  | half i => rfl

/-- What lower case keeps of the capital letters it keeps of all code points. -/
theorem of_lower {α : Type} (f : CodePoint → α) (h : ∀ n ≤ 0x5A, f (ofNat n).lower = f (ofNat n))
    (c : CodePoint) : f c.lower = f c := by
  by_cases hc : c.IsCapital
  · have hcapital := h c.val hc.2
    rwa [ofNat_val] at hcapital
  · rw [lower_of_not_isCapital hc]

theorem isBlank_lower : ∀ c : CodePoint, c.lower.isBlank = c.isBlank :=
  of_lower isBlank (by decide)

theorem hexDigit?_lower : ∀ c : CodePoint, c.lower.hexDigit? = c.hexDigit? :=
  of_lower hexDigit? (by decide)

theorem lower_lower : ∀ c : CodePoint, c.lower.lower = c.lower :=
  of_lower lower (by decide)

theorem isSome_hexDigit?_iff :
    c.hexDigit?.isSome = true ↔ c ∈ Text.ofString "0123456789abcdefABCDEF" := by
  refine ⟨fun h ↦ ?_, ?_⟩
  · have hascii : c.val < 0x67 := by
      by_contra hc
      grind [hexDigit?]
    have hmem : ∀ n < 0x67, (ofNat n).hexDigit?.isSome = true →
        ofNat n ∈ Text.ofString "0123456789abcdefABCDEF" := by
      decide
    rw [← c.ofNat_val] at h ⊢
    exact hmem c.val hascii h
  · revert c
    decide

end CodePoint

namespace Text

variable {p : CodePoint → Bool} {a b s t u w : Text}

theorem lower_lower (t : Text) : t.lower.lower = t.lower := by
  simp only [lower, List.map_map, List.map_inj_left, Function.comp_apply]
  exact fun c _ ↦ c.lower_lower

theorem trim_eq (ha : ∀ c ∈ a, p c = true) (hb : ∀ c ∈ b, p c = true) (hu : ∀ c ∈ u, p c = false) :
    (a ++ u ++ b).trim p = u := by
  have hstop (v : Text) (hv : ∀ c ∈ v, p c = false) (hne : v ≠ []) (r : Text) :
      (v ++ r).dropWhile p = v ++ r := by
    obtain ⟨c, v, rfl⟩ := List.exists_cons_of_ne_nil hne
    exact List.dropWhile_cons_of_neg (by simp [hv c List.mem_cons_self])
  rw [trim, List.append_assoc, List.dropWhile_append_of_pos ha]
  by_cases hne : u = []
  · rw [hne, List.nil_append, List.dropWhile_eq_nil_iff.2 hb]
    rfl
  · have hlast := hstop u.reverse (by simpa using hu) (by simpa using hne) []
    rw [List.append_nil] at hlast
    rw [hstop u hu hne, List.reverse_append, List.dropWhile_append_of_pos (by simpa using hb), hlast,
      List.reverse_reverse]

theorem exists_trim (p : CodePoint → Bool) (t : Text) :
    ∃ a b, t = a ++ t.trim p ++ b ∧ (∀ c ∈ a, p c = true) ∧ ∀ c ∈ b, p c = true := by
  refine ⟨t.takeWhile p, ((t.dropWhile p).reverse.takeWhile p).reverse, ?_, ?_, ?_⟩
  · rw [trim, List.append_assoc, ← List.reverse_append, List.takeWhile_append_dropWhile,
      List.reverse_reverse, List.takeWhile_append_dropWhile]
  · exact fun c hc ↦ List.mem_takeWhile_imp hc
  · exact fun c hc ↦ List.mem_takeWhile_imp (List.mem_reverse.1 hc)

/-- The text is the word `w` in any case, with blanks around it or without. -/
def Spells (t w : Text) : Prop :=
  ∃ a u b, t = a ++ u ++ b ∧ (∀ c ∈ a, c.isBlank = true) ∧ (∀ c ∈ b, c.isBlank = true) ∧ u.lower = w

theorem spells_iff (hw : ∀ c ∈ w, c.isBlank = false) : t.Spells w ↔ t.strip.lower = w := by
  constructor
  · rintro ⟨a, u, b, rfl, ha, hb, rfl⟩
    have hu (c : CodePoint) (hc : c ∈ u) : c.isBlank = false :=
      c.isBlank_lower.symm.trans (hw _ (List.mem_map_of_mem hc))
    rw [strip, trim_eq ha hb hu]
  · rintro rfl
    obtain ⟨a, b, ht, ha, hb⟩ := exists_trim CodePoint.isBlank t
    exact ⟨a, t.strip, b, ht, ha, hb, rfl⟩

end Text

end VerdictClient
