import VerdictClient.Proofs.Json.Texts
import VerdictClient.Proofs.Message.Agreement
import VerdictClient.Proofs.Text.Detection

namespace VerdictClient

namespace Json.Lenient

variable {t : Text} {bs : Bytes} {v : Value}

theorem ofBytes_of_detect (h : ofText t = .ok v) (hd : Encoding.detectAndDecode bs = .ok t) :
    ofBytes bs = .ok v := by
  rw [ofBytes, hd]
  exact ofText_eq_ok_iff.1 h

theorem ofBytes_encode (h : ofText t = .ok v) (ht : t.IsWhole) (e : Encoding) :
    ofBytes (e.encode t) = .ok v ∧ ofBytes (e.mark ++ e.encode t) = .ok v := by
  have htokens := parse_eq_ok_iff.1 (ofText_eq_ok_iff.1 h)
  have hopens := opensPlainly_of_ofTokens htokens
  obtain ⟨ls, hs, hv⟩ := ofTokens_tokens_iff.1 htokens
  obtain ⟨l, ls, rfl, -⟩ := hv.exists_cons
  obtain ⟨c, r, rfl, hc⟩ := hs.exists_ascii
  exact ⟨ofBytes_of_detect h (Encoding.detectAndDecode_encode ht hopens hc e),
    ofBytes_of_detect h (Encoding.detectAndDecode_mark ht hopens.head e)⟩

end Json.Lenient

theorem Json.Strict.ofBytes_encode {t : Text} (ht : t.IsWhole) : ofBytes (Utf8.encode t) = ofText t := by
  have hd : Utf8.decode false (Utf8.encode t) = .ok t := Utf8.decodeFrom_encode ht 0
  rw [ofBytes, hd]

theorem Inbound.decode_utf8 {t : Text} {m : Inbound} (h : decode (.text t) = .ok m) :
    decode (.binary (Utf8.encode t)) = .ok m := by
  unfold decode at h
  split at h
  · cases h
  next hhalf =>
  have ht : t.IsWhole := (hasLoneHalf_text t).1 (Bool.not_eq_true _ ▸ hhalf)
  have hread : readStrict (.binary (Utf8.encode t)) = readStrict (.text t) := Json.Strict.ofBytes_encode ht
  rw [← hread] at h
  exact h

theorem AuthResponse.decode_encode {t : Text} {m : AuthResponse} (h : decode (.text t) = .ok m)
    (ht : t.IsWhole) (e : Encoding) :
    decode (.binary (e.encode t)) = .ok m ∧ decode (.binary (e.mark ++ e.encode t)) = .ok m := by
  obtain ⟨v, hv, hm⟩ := exists_of_decode h
  obtain ⟨hplain, hmarked⟩ := Json.Lenient.ofBytes_encode hv ht e
  exact ⟨decode_of_readLenient hplain hm, decode_of_readLenient hmarked hm⟩

/-- A frame of text that is read means the same as octets: as UTF-8 to the reader used after the handshake,
and to the reader used during it in every encoding, with a mark of byte order or without. -/
theorem octets_mean_text (t : Text) :
    (∀ m, Inbound.decode (.text t) = .ok m → Inbound.decode (.binary (Utf8.encode t)) = .ok m) ∧
    ∀ m, AuthResponse.decode (.text t) = .ok m → t.IsWhole → ∀ e : Encoding,
      AuthResponse.decode (.binary (e.encode t)) = .ok m ∧
      AuthResponse.decode (.binary (e.mark ++ e.encode t)) = .ok m :=
  ⟨fun _ h ↦ Inbound.decode_utf8 h, fun _ h ht e ↦ AuthResponse.decode_encode h ht e⟩

def Sample.greeting : Text :=
  ("\x7b\"kind\":\"AuthResponse\",\"success\":true,\"session_id\":\"é😀\"\x7d" : String)

theorem octets_mean_text_greeting :
    Inbound.decode (.binary (Utf8.encode Sample.greeting)) =
      .ok (.auth ⟨true, some ("é😀" : String), none⟩) ∧
    ∀ e : Encoding, AuthResponse.decode (.binary (e.encode Sample.greeting)) =
        .ok ⟨true, some ("é😀" : String), none⟩ ∧
      AuthResponse.decode (.binary (e.mark ++ e.encode Sample.greeting)) =
        .ok ⟨true, some ("é😀" : String), none⟩ := by
  have hi : (Inbound.decode (.text Sample.greeting)).toOption =
    some (.auth ⟨true, some ("é😀" : String), none⟩) := by decide +kernel
  have ha : (AuthResponse.decode (.text Sample.greeting)).toOption =
    some ⟨true, some ("é😀" : String), none⟩ := by decide +kernel
  obtain ⟨hutf8, hany⟩ := octets_mean_text Sample.greeting
  exact ⟨hutf8 _ (eq_ok_of_toOption hi), hany _ (eq_ok_of_toOption ha) (Text.isWhole_ofString _)⟩

end VerdictClient
