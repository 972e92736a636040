import VerdictClient.Message.Decode
import VerdictClient.Message.Encode
import VerdictClient.Proofs.Json.Reading

namespace VerdictClient

theorem Utf8.find?_eq_none_iff (t : Text) :
    Utf8.EncodeError.find? (!·.isChar) t = none ↔ t.IsWhole := by
  rw [EncodeError.find?_eq_none_iff (fun c hc ↦ by simpa using hc)]
  simp [Text.IsWhole]

namespace Text

variable {s t : Text} {c : CodePoint} {ts : List Text}

theorem isWhole_append : IsWhole (s ++ t) ↔ s.IsWhole ∧ t.IsWhole := List.forall_mem_append

theorem isWhole_cons : IsWhole (c :: t) ↔ c.isChar = true ∧ t.IsWhole := List.forall_mem_cons

theorem isWhole_intercalate (hs : s.IsWhole) (ht : ∀ t ∈ ts, t.IsWhole) :
    IsWhole (List.intercalate s ts) := by
  intro c hc
  obtain hc | ⟨t, ht', hc⟩ := Json.mem_intercalate hc
  · exact hs c hc
  · exact ht t ht' c hc

end Text

namespace Json

variable {c : CodePoint} {t : Text} {ms : List (Text × Text)}

theorem isWhole_escape (h : c.isChar = true) : (escape c).IsWhole := by
  obtain ⟨d, e, rfl, -, he⟩ | ⟨-, he⟩ | ⟨-, -, -, he⟩ := escape_cases c <;> rw [he]
  · exact Text.isWhole_cons.2 ⟨rfl, Text.isWhole_cons.2 ⟨rfl, by decide⟩⟩
  · exact Text.isWhole_cons.2 ⟨rfl, Text.isWhole_cons.2 ⟨rfl, Text.isWhole_ofString _⟩⟩
  · exact Text.isWhole_cons.2 ⟨h, by decide⟩

theorem isWhole_quote (h : t.IsWhole) : (quote t).IsWhole := by
  have hall : Text.IsWhole (t.flatMap escape) := by
    intro d hd
    obtain ⟨c, hc, hd⟩ := List.mem_flatMap.1 hd
    exact isWhole_escape (h c hc) d hd
  exact Text.isWhole_cons.2 ⟨rfl, Text.isWhole_append.2 ⟨hall, by decide⟩⟩

theorem isWhole_writeObject (h : ∀ m ∈ ms, m.1.IsWhole ∧ m.2.IsWhole) : (writeObject ms).IsWhole := by
  have hall : Text.IsWhole ([.char ','].intercalate (ms.map writeMember)) := by
    refine Text.isWhole_intercalate (by decide) fun t ht ↦ ?_
    obtain ⟨m, hm, rfl⟩ := List.mem_map.1 ht
    exact Text.isWhole_append.2 ⟨isWhole_quote (h m hm).1, Text.isWhole_cons.2 ⟨rfl, (h m hm).2⟩⟩
  exact Text.isWhole_cons.2 ⟨rfl, Text.isWhole_append.2 ⟨hall, by decide⟩⟩

theorem Strict.isRefused_text (h : t.IsWhole) (position : Nat) :
    isRefused ⟨position, .text t⟩ = false := by
  simp only [isRefused, List.any_eq_false]
  intro c hc
  simp [h c hc]

end Json

/-- Every member that is given says a whole text or a truth value, under a whole name of its own. -/
structure Members.IsPlain (ms : Members) : Prop where
  nodup : (ms.given.map Prod.fst).Nodup
  name : ∀ x ∈ ms.given, x.1.IsWhole
  scalar : ∀ x ∈ ms.given, (∃ t : Text, x.2 = .text t ∧ t.IsWhole) ∨ ∃ b, x.2 = .bool b

namespace Members

variable {ms : Members}

theorem IsPlain.encode (h : ms.IsPlain) : ms.encode = .ok ms.write := by
  have hnone : (ms.given.findSome? fun m ↦ encodeError? m.2) = none := by
    refine List.findSome?_eq_none_iff.2 fun x hx ↦ ?_
    obtain ⟨t, ht, hw⟩ | ⟨b, hb⟩ := h.scalar x hx
    · rw [ht]
      exact (Utf8.find?_eq_none_iff t).2 hw
    · rw [hb]
      rfl
  rw [Members.encode, hnone]

theorem IsPlain.spells_of_mem (h : ms.IsPlain) {x : Text × Value} (hx : x ∈ ms.given) :
    Json.Spells (writeScalar x.2) [Json.scalarLexeme x.2] := by
  obtain ⟨t, ht, -⟩ | ⟨b, hb⟩ := h.scalar x hx
  · rw [ht]
    exact Json.spells_quote t
  · rw [hb]
    cases b
    · exact Json.spells_false
    · exact Json.spells_true

theorem IsPlain.lexemes_write (h : ms.IsPlain) :
    (Json.tokens ms.write).map Json.Token.lexeme = Json.objectLexemes ms.given :=
  (Json.spells_writeObject fun _ hx ↦ h.spells_of_mem hx).lexemes

theorem IsPlain.ofTokens_write (h : ms.IsPlain) {limits : Json.Limits}
    (hl : 1 ≤ limits.aroundScalar) (n : Nat) :
    Json.ofTokens limits n (Json.tokens ms.write) = .ok (.object ms.given) := by
  rw [Json.ofTokens_eq_ok_iff, h.lexemes_write]
  exact Json.isValue_object h.nodup hl

theorem IsPlain.lenient_write (h : ms.IsPlain) :
    Json.Lenient.ofText ms.write = .ok (.object ms.given) := by
  have hp : Json.Lenient.parse ms.write = .ok (.object ms.given) := by
    rw [Json.Lenient.parse, h.ofTokens_write (by decide)]
  rw [Json.Lenient.ofText, if_neg (by simp [write, Json.writeObject]), hp]

theorem IsPlain.not_isRefused (h : ms.IsPlain) :
    (Json.tokens ms.write).any Json.Strict.isRefused = false := by
  have hall : ∀ l ∈ Json.objectLexemes ms.given, ∀ position,
      Json.Strict.isRefused ⟨position, l⟩ = false := by
    refine Json.forall_mem_objectLexemes ⟨fun _ ↦ rfl, fun _ ↦ rfl, fun _ ↦ rfl, fun _ ↦ rfl⟩
      fun x hx ↦ ⟨Json.Strict.isRefused_text (h.name x hx), ?_⟩
    obtain ⟨t, ht, hw⟩ | ⟨b, hb⟩ := h.scalar x hx
    · rw [ht]
      exact Json.Strict.isRefused_text hw
    · rw [hb]
      exact fun _ ↦ rfl
  rw [List.any_eq_false]
  intro t ht
  have hl := hall t.lexeme (h.lexemes_write ▸ List.mem_map_of_mem ht) t.position
  simpa using hl

theorem IsPlain.strict_write (h : ms.IsPlain) :
    Json.Strict.ofText ms.write = some (.object ms.given) := by
  rw [Json.Strict.ofText, if_neg (by simp [h.not_isRefused]), h.ofTokens_write (by decide)]
  rfl

theorem IsPlain.isWhole_write (h : ms.IsPlain) : ms.write.IsWhole := by
  refine Json.isWhole_writeObject fun m hm ↦ ?_
  obtain ⟨x, hx, rfl⟩ := List.mem_map.1 hm
  refine ⟨h.name x hx, ?_⟩
  obtain ⟨t, ht, hw⟩ | ⟨b, hb⟩ := h.scalar x hx
  · rw [ht]
    exact Json.isWhole_quote hw
  · rw [hb]
    cases b
    · exact Text.isWhole_ofString "false"
    · exact Text.isWhole_ofString "true"

end Members

end VerdictClient
