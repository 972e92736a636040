import VerdictClient.Proofs.Message.Agreement
import VerdictClient.Proofs.Message.Members

namespace VerdictClient

def AuthResponse.IsWhole (r : AuthResponse) : Prop :=
  (∀ t ∈ r.sessionId, t.IsWhole) ∧ ∀ t ∈ r.text, t.IsWhole

def VerdictResponse.IsWhole (r : VerdictResponse) : Prop :=
  r.guid.IsWhole ∧ r.sha256.IsWhole ∧ (∀ t ∈ r.detection, t.IsWhole) ∧ (∀ t ∈ r.url, t.IsWhole) ∧
    ∀ t ∈ r.uploadToken, t.IsWhole

def Inbound.IsWhole : Inbound → Prop
  | auth r => r.IsWhole
  | verdict r => r.IsWhole

instance AuthResponse.decidableIsWhole (r : AuthResponse) : Decidable r.IsWhole :=
  inferInstanceAs (Decidable (_ ∧ _))

instance VerdictResponse.decidableIsWhole (r : VerdictResponse) : Decidable r.IsWhole :=
  inferInstanceAs (Decidable (_ ∧ _))

instance Inbound.decidableIsWhole : (m : Inbound) → Decidable m.IsWhole
  | auth r => inferInstanceAs (Decidable r.IsWhole)
  | verdict r => inferInstanceAs (Decidable r.IsWhole)

/-- The members of an answer to the handshake without the one that tells its kind. -/
def AuthResponse.unlabelled (r : AuthResponse) : Members := r.members.filter (·.1 ≠ "kind")

namespace Members

def IsSayable (m : Text × Option Value) : Prop :=
  m.1.IsWhole ∧ ∀ v ∈ m.2, (∃ t : Text, v = .text t ∧ t.IsWhole) ∨ ∃ b, v = .bool b

variable {name : Text} {ms : Members}

theorem isSayable_text {t : Text} (hn : name.IsWhole) (ht : t.IsWhole) :
    IsSayable (name, some (.text t)) :=
  ⟨hn, fun _ hv ↦ .inl ⟨t, (Option.mem_some.1 hv).symm, ht⟩⟩

theorem isSayable_bool (b : Bool) (hn : name.IsWhole) : IsSayable (name, some (.bool b)) :=
  ⟨hn, fun _ hv ↦ .inr ⟨b, (Option.mem_some.1 hv).symm⟩⟩

theorem isSayable_optional {t? : Option Text} (hn : name.IsWhole) (ht : ∀ t ∈ t?, t.IsWhole) :
    IsSayable (name, t?.map .text) := by
  cases t? with
  | none => exact ⟨hn, fun _ hv ↦ by cases hv⟩
  | some t => exact isSayable_text hn (ht t rfl)

theorem mem_given {x : Text × Value} (h : x ∈ ms.given) : (x.1, some x.2) ∈ ms := by
  obtain ⟨⟨name, v?⟩, hm, hx⟩ := List.mem_filterMap.1 h
  obtain ⟨v, rfl, rfl⟩ := Option.map_eq_some_iff.1 hx
  exact hm

theorem given_names_sublist (ms : Members) : (ms.given.map Prod.fst).Sublist (ms.map Prod.fst) := by
  induction ms with
  | nil => exact .slnil
  | cons m ms ih =>
    obtain ⟨name, v | v⟩ := m
    · exact ih.cons _
    · exact ih.cons_cons _

theorem isPlain_of_isSayable (hn : (ms.map Prod.fst).Nodup) (h : ∀ m ∈ ms, IsSayable m) :
    ms.IsPlain where
  nodup := hn.sublist ms.given_names_sublist
  name _ hx := (h _ (mem_given hx)).1
  scalar x hx := (h _ (mem_given hx)).2 x.2 rfl

end Members

theorem AuthResponse.IsWhole.isPlain {r : AuthResponse} (h : r.IsWhole) : r.members.IsPlain := by
  obtain ⟨hid, htext⟩ := h
  have hnames : r.members.map Prod.fst =
    (["kind", "success", "session_id", "text"] : List Text) := rfl
  refine Members.isPlain_of_isSayable (hnames ▸ by decide) ?_
  simp only [members, List.forall_mem_cons, List.not_mem_nil, false_imp_iff, implies_true, and_true]
  exact ⟨Members.isSayable_text (by decide) (by decide), Members.isSayable_bool _ (by decide),
    Members.isSayable_optional (by decide) hid, Members.isSayable_optional (by decide) htext⟩

theorem AuthResponse.IsWhole.isPlain_unlabelled {r : AuthResponse} (h : r.IsWhole) :
    r.unlabelled.IsPlain := by
  have hp := h.isPlain
  have hg : r.unlabelled.given.Sublist r.members.given := List.filter_sublist.filterMap _
  exact ⟨hp.nodup.sublist (hg.map _), fun x hx ↦ hp.name x (hg.subset hx),
    fun x hx ↦ hp.scalar x (hg.subset hx)⟩

theorem VerdictResponse.IsWhole.isPlain {r : VerdictResponse} (h : r.IsWhole) :
    r.members.IsPlain := by
  obtain ⟨hguid, hsha, hdetection, hurl, htoken⟩ := h
  have hverdict : r.verdict.name.IsWhole := by cases r.verdict <;> decide
  have hnames : r.members.map Prod.fst =
    (["kind", "guid", "verdict", "sha256", "detection", "url", "upload_token"] : List Text) := rfl
  refine Members.isPlain_of_isSayable (hnames ▸ by decide) ?_
  simp only [members, List.forall_mem_cons, List.not_mem_nil, false_imp_iff, implies_true, and_true]
  exact ⟨Members.isSayable_text (by decide) (by decide), Members.isSayable_text (by decide) hguid,
    Members.isSayable_text (by decide) hverdict, Members.isSayable_text (by decide) hsha,
    Members.isSayable_optional (by decide) hdetection, Members.isSayable_optional (by decide) hurl,
    Members.isSayable_optional (by decide) htoken⟩

theorem Inbound.IsWhole.isPlain {m : Inbound} (h : m.IsWhole) : m.members.IsPlain := by
  cases m with
  | auth r => exact AuthResponse.IsWhole.isPlain h
  | verdict r => exact VerdictResponse.IsWhole.isPlain h

theorem Inbound.ofValue_members (m : Inbound) :
    Inbound.ofValue (.object m.members.given) = .ok m := by
  cases m with
  | auth r =>
    obtain ⟨success, id | id, text | text⟩ := r <;> rfl
  | verdict r =>
    obtain ⟨guid, v, sha, detection | detection, url | url, token | token⟩ := r <;> cases v <;> rfl

theorem AuthResponse.ofValue_unlabelled (r : AuthResponse) :
    AuthResponse.ofValue (.object r.unlabelled.given) = .ok r := by
  obtain ⟨success, id | id, text | text⟩ := r <;> rfl

theorem Inbound.decode_write {m : Inbound} (h : m.IsWhole) :
    Inbound.decode (.text m.members.write) = .ok m := by
  have hwhole := (hasLoneHalf_text _).2 h.isPlain.isWhole_write
  simp only [decode, hwhole, readStrict, h.isPlain.strict_write, m.ofValue_members]
  rfl

theorem AuthResponse.decode_unlabelled {r : AuthResponse} (h : r.IsWhole) :
    AuthResponse.decode (.text r.unlabelled.write) = .ok r := by
  simp only [decode, readLenient, h.isPlain_unlabelled.lenient_write, r.ofValue_unlabelled]
  rfl

/-- A message of the service in whose texts no half of a surrogate pair stands alone can be written, and
what is written is read as that message after the handshake. An answer to the handshake is also read as
it was written during it, whether its kind is written or left out. -/
theorem reading_undoes_writing (m : Inbound) (h : m.IsWhole) :
    (∃ f, m.members.encode = .ok f ∧ Inbound.decode (.text f) = .ok m) ∧
    ∀ r, m = .auth r → ∀ ms, ms = r.members ∨ ms = r.unlabelled →
      ∃ f, ms.encode = .ok f ∧ AuthResponse.decode (.text f) = .ok r := by
  refine ⟨⟨_, h.isPlain.encode, Inbound.decode_write h⟩, ?_⟩
  rintro r rfl ms (rfl | rfl)
  · exact ⟨_, Inbound.IsWhole.isPlain h |>.encode, answer_same_to_both_readers (Inbound.decode_write h)⟩
  · exact ⟨_, AuthResponse.IsWhole.isPlain_unlabelled h |>.encode, AuthResponse.decode_unlabelled h⟩

def Sample.gruff : AuthResponse := ⟨false, some [], some "\\u0041\"/\x00\x1f\n\x7fé😀"⟩

def Sample.terse : VerdictResponse := ⟨"\x7b\"kind\":null\x7d", .unknown, [], none, some "\u2028", some "k\t"⟩

theorem reading_undoes_writing_gruff :
    Inbound.IsWhole (.auth Sample.gruff) ∧ Inbound.IsWhole (.verdict Sample.terse) ∧
    (∃ f, Sample.gruff.unlabelled.encode = .ok f ∧
      f = ("\x7b\"success\":false,\"session_id\":\"\"," ++
        "\"text\":\"\\\\u0041\\\"/\\u0000\\u001f\\n\x7fé😀\"\x7d" : String) ∧
      AuthResponse.decode (.text f) = .ok Sample.gruff) ∧
    ∃ f, Sample.terse.members.encode = .ok f ∧ Inbound.decode (.text f) = .ok (.verdict Sample.terse) := by
  have hg : Inbound.IsWhole (.auth Sample.gruff) := by decide
  have ht : Inbound.IsWhole (.verdict Sample.terse) := by decide
  obtain ⟨f, hf, hd⟩ := (reading_undoes_writing (.auth Sample.gruff) hg).2 _ rfl _ (.inr rfl)
  have hw := hf.symm.trans (AuthResponse.IsWhole.isPlain_unlabelled hg).encode
  refine ⟨hg, ht, ⟨f, hf, ?_, hd⟩, (reading_undoes_writing (.verdict Sample.terse) ht).1⟩
  rw [Except.ok.inj hw]
  decide +kernel

end VerdictClient
