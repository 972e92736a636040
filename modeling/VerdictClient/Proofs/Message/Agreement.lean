import VerdictClient.Message.Decode
import VerdictClient.Proofs.Json.Leading

namespace VerdictClient

namespace Json

variable {t : Text} {bs : Bytes} {v : Value}

theorem within_lenient : Strict.limits.Within Lenient.limits := ⟨by decide, by decide⟩

theorem Strict.ofText_eq_some_iff : ofText t = some v ↔
    (tokens t).any isRefused = false ∧ ofTokens limits t.length (tokens t) = .ok v := by
  simp only [ofText]
  split
  · next h => simp [h]
  · next h =>
    refine ⟨fun hv ↦ ⟨by simpa using h, eq_ok_of_toOption hv⟩, fun hv ↦ ?_⟩
    rw [hv.2]
    rfl

theorem Lenient.parse_eq_ok_iff : parse t = .ok v ↔ ofTokens limits t.length (tokens t) = .ok v := by
  unfold parse
  split
  · next w hw => rw [hw, Except.ok.injEq, Except.ok.injEq]
  · next e he => simp [he]

theorem Lenient.ofText_eq_ok_iff : ofText t = .ok v ↔ parse t = .ok v := by
  unfold ofText
  split
  · next hmark =>
    constructor
    · intro h
      cases h
    · intro h
      exact absurd hmark (opensPlainly_of_ofTokens (parse_eq_ok_iff.1 h)).mark
  · exact Iff.rfl

theorem Lenient.parse_of_strict (h : Strict.ofText t = some v) : parse t = .ok v :=
  parse_eq_ok_iff.2 (ofTokens_within within_lenient (Strict.ofText_eq_some_iff.1 h).2)

theorem Lenient.ofBytes_of_strict (h : Strict.ofBytes bs = some v) : ofBytes bs = .ok v := by
  unfold Strict.ofBytes at h
  cases hd : Utf8.decode false bs with
  | error e =>
    rw [hd] at h
    cases h
  | ok t =>
    rw [hd] at h
    have hopens := opensPlainly_of_ofTokens (Strict.ofText_eq_some_iff.1 h).2
    rw [ofBytes, Encoding.detectAndDecode_of_utf8 hd hopens]
    exact parse_of_strict h

end Json

variable {f : Frame} {v : Value} {i : Inbound} {m : AuthResponse} {r : VerdictResponse}

theorem readLenient_of_readStrict (h : readStrict f = some v) : readLenient f = .ok v := by
  cases f with
  | text t => exact Json.Lenient.ofText_eq_ok_iff.2 (Json.Lenient.parse_of_strict h)
  | binary bs => exact Json.Lenient.ofBytes_of_strict h

theorem hasLoneHalf_text (t : Text) : (Frame.text t).hasLoneHalf = false ↔ t.IsWhole := by
  simp [Frame.hasLoneHalf, Text.IsWhole]

theorem Inbound.exists_of_decode (h : decode f = .ok i) :
    ∃ v, readStrict f = some v ∧ ofValue v = .ok i := by
  unfold decode at h
  split at h
  · cases h
  · split at h
    · cases h
    · next v hv => exact ⟨v, hv, h⟩

theorem AuthResponse.exists_of_decode (h : decode f = .ok m) :
    ∃ v, readLenient f = .ok v ∧ ofValue v = .ok m := by
  unfold decode at h
  split at h
  · next v hv =>
    refine ⟨v, hv, ?_⟩
    cases hm : ofValue v with
    | error e =>
      rw [hm] at h
      cases h
    | ok m' =>
      rw [hm] at h
      cases h
      rfl
  · cases h

theorem AuthResponse.decode_of_readLenient (hv : readLenient f = .ok v) (hm : ofValue v = .ok m) :
    decode f = .ok m := by
  rw [decode, hv]
  simp only [hm]
  rfl

theorem Inbound.exists_of_ofValue (h : ofValue v = .ok i) : ∃ es, v = .map es ∧
    ((∃ m, i = .auth m ∧ Field.lookup "kind" (Fields.ofEntries es) = some (.text authResponseKind) ∧
      AuthResponse.ofFields (Fields.ofEntries es) = .ok m) ∨
    (∃ r, i = .verdict r ∧
      Field.lookup "kind" (Fields.ofEntries es) = some (.text verdictResponseKind))) := by
  unfold ofValue at h
  split at h
  case h_2 => cases h
  next es =>
  refine ⟨es, rfl, ?_⟩
  simp only at h
  split at h
  · cases h
  · next k hk =>
    split at h
    · next hauth =>
      subst hauth
      cases hf : AuthResponse.ofFields (Fields.ofEntries es) with
      | error faults =>
        rw [hf] at h
        cases h
      | ok m =>
        rw [hf] at h
        cases h
        exact .inl ⟨m, rfl, hk, rfl⟩
    split at h
    · next hverdict =>
      subst hverdict
      cases hf : VerdictResponse.ofFields (Fields.ofEntries es) with
      | error faults =>
        rw [hf] at h
        cases h
      | ok r =>
        rw [hf] at h
        cases h
        exact .inr ⟨r, rfl, hk⟩
    · cases h
  · cases h

theorem AuthResponse.ofValue_of_auth (h : Inbound.ofValue v = .ok (.auth m)) :
    AuthResponse.ofValue v = .ok m := by
  obtain ⟨es, rfl, ⟨m', hm, hk, hf⟩ | ⟨r, hr, -⟩⟩ := Inbound.exists_of_ofValue h
  · cases hm
    simp only [ofValue, hk, Option.getD_some, if_true, hf]
    rfl
  · cases hr

theorem AuthResponse.ofValue_of_verdict (h : Inbound.ofValue v = .ok (.verdict r)) :
    AuthResponse.ofValue v = .error (.otherKind verdictResponseKind.quoted) := by
  obtain ⟨es, rfl, ⟨m, hm, -, -⟩ | ⟨r', -, hk⟩⟩ := Inbound.exists_of_ofValue h
  · cases hm
  · have hne : verdictResponseKind ≠ authResponseKind := by decide
    simp only [ofValue, hk, Option.getD_some, hne, if_false]

/-- A frame that is an answer to the handshake to the reader used after it is the same answer to the
reader used during it. -/
theorem answer_same_to_both_readers (h : Inbound.decode f = .ok (.auth m)) :
    AuthResponse.decode f = .ok m := by
  obtain ⟨v, hv, hi⟩ := Inbound.exists_of_decode h
  exact AuthResponse.decode_of_readLenient (readLenient_of_readStrict hv) (AuthResponse.ofValue_of_auth hi)

/-- An answer in octets, with spaces, a repeated key, a switch that is a word, an escaped surrogate pair,
characters beyond ASCII and a member that no field takes. -/
def Sample.winding : Frame := .binary (Utf8.encode
  ("\x7b \"kind\" : \"VerdictResponse\",\r\n\t\"success\":\"Yes\", \"session_id\":\"\\uD83D\\uDE00é😀\"," ++
    "\"\\u006bind\":\"AuthResponse\",\"text\":null,\"other\":[[-1e2,0],\x7b\x7d] \x7d" : String))

theorem answer_same_to_both_readers_winding :
    Inbound.decode Sample.winding = .ok (.auth ⟨true, some ("😀é😀" : String), none⟩) ∧
    AuthResponse.decode Sample.winding = .ok ⟨true, some ("😀é😀" : String), none⟩ := by
  have h : (Inbound.decode Sample.winding).toOption =
    some (.auth ⟨true, some ("😀é😀" : String), none⟩) := by decide +kernel
  have hd := eq_ok_of_toOption h
  exact ⟨hd, answer_same_to_both_readers hd⟩

/-- A frame that is an answer to a request after the handshake is refused for its kind during it. -/
theorem decode_of_verdict (h : Inbound.decode f = .ok (.verdict r)) :
    AuthResponse.decode f = .error (.undecodable (.otherKind verdictResponseKind.quoted)) := by
  obtain ⟨v, hv, hi⟩ := Inbound.exists_of_decode h
  rw [AuthResponse.decode, readLenient_of_readStrict hv]
  simp only [AuthResponse.ofValue_of_verdict hi]
  rfl

end VerdictClient
