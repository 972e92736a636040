import Mathlib.Data.List.Basic
import VerdictClient.Proofs.Message.Members

namespace VerdictClient

def OutboundKind.declared : OutboundKind → List Text
  | .auth => ["kind", "token"]
  | .hash => ["kind", "session_id", "sha256", "guid", "use_cache", "use_hash_lookup"]
  | .url => ["kind", "session_id", "url", "guid", "use_cache", "use_hash_lookup"]
  | .stream => ["kind", "session_id", "guid", "use_cache", "use_hash_lookup"]

def Subject.says? (name : Text) : Subject → Option Value
  | .hash sha256 => if name = "sha256" then some (.text sha256) else none
  | .url address => if name = "url" then some (.text address) else none
  | .stream => none

/-- What a message says in a field, if it does not leave it open. -/
def Outbound.says? (m : Outbound) (name : Text) : Option Value :=
  if name = "kind" then some (.text m.kind.name)
  else
    match m with
    | .auth token => if name = "token" then some (.text token) else none
    | .verdict r =>
      if name = "session_id" then some (.text r.sessionId)
      else if name = "guid" then some (.text r.guid)
      else if name = "use_cache" then r.useCache.map .bool
      else if name = "use_hash_lookup" then r.useHashLookup.map .bool
      else r.subject.says? name

def Outbound.fields (m : Outbound) : List (Text × Value) :=
  m.kind.declared.filterMap fun name ↦ (m.says? name).map (name, ·)

def Subject.IsWhole : Subject → Prop
  | .hash t | .url t => t.IsWhole
  | .stream => True

/-- In no text of the message does half of a surrogate pair stand alone. -/
def Outbound.IsWhole : Outbound → Prop
  | .auth token => token.IsWhole
  | .verdict r => r.sessionId.IsWhole ∧ r.subject.IsWhole ∧ r.guid.IsWhole

instance (x : Subject) : Decidable x.IsWhole := by
  cases x <;> unfold Subject.IsWhole <;> infer_instance

instance (m : Outbound) : Decidable m.IsWhole := by
  cases m <;> unfold Outbound.IsWhole <;> infer_instance

theorem Outbound.given_members (m : Outbound) : m.members.given = m.fields := by
  cases m with
  | auth => rfl
  | verdict r =>
    obtain ⟨id, x, g, c, l⟩ := r
    cases x <;> cases c <;> cases l <;> rfl

variable {m m' : Outbound} {f name : Text} {x : Text × Value} {v : Value}

theorem Outbound.isWhole_iff : m.IsWhole ↔ ∀ x ∈ m.fields, encodeError? x.2 = none := by
  rw [← given_members]
  cases m with
  | auth token =>
    simp [members, Members.given, encodeError?, Utf8.find?_eq_none_iff, IsWhole,
      Text.isWhole_ofString, OutboundKind.name]
  | verdict r =>
    obtain ⟨id, x, g, c, l⟩ := r
    cases x <;> cases c <;> cases l <;>
      simp [members, VerdictRequest.members, Members.given, encodeError?, Utf8.find?_eq_none_iff,
        IsWhole, Subject.members, Subject.IsWhole, Text.isWhole_ofString, OutboundKind.name,
        Subject.kind]

/-- A message can be written exactly if all its texts are whole. -/
theorem Outbound.encode_eq_ok_iff :
    m.encode = .ok f ↔ m.IsWhole ∧ Json.writeObject (m.fields.map fun x ↦ (x.1, writeScalar x.2)) = f := by
  rw [isWhole_iff, encode, Members.encode, given_members, Members.write, given_members]
  cases h : m.fields.findSome? fun x ↦ encodeError? x.2 with
  | none =>
    have hall := List.findSome?_eq_none_iff.1 h
    simp only [Except.ok.injEq]
    exact ⟨fun hf ↦ ⟨hall, hf⟩, And.right⟩
  | some e =>
    obtain ⟨x, hx, he⟩ := List.exists_of_findSome?_eq_some h
    simp only [reduceCtorEq, false_iff, not_and]
    intro hall
    cases (hall x hx).symm.trans he

theorem Outbound.says?_cases (h : m.says? name = some v) : (∃ t, v = .text t) ∨ ∃ b, v = .bool b := by
  have htext {t : Text} (h : some (Value.text t) = some v) : (∃ t, v = .text t) ∨ ∃ b, v = .bool b :=
    .inl ⟨t, (Option.some_inj.1 h).symm⟩
  have hbool {b? : Option Bool} (h : b?.map Value.bool = some v) :
      (∃ t, v = .text t) ∨ ∃ b, v = .bool b := by
    obtain ⟨b, -, rfl⟩ := Option.map_eq_some_iff.1 h
    exact .inr ⟨b, rfl⟩
  unfold says? at h
  split at h
  · exact htext h
  cases m with
  | auth token =>
    simp only at h
    split at h
    · exact htext h
    · cases h
  | verdict r =>
    simp only at h
    split at h
    · exact htext h
    split at h
    · exact htext h
    split at h
    · exact hbool h
    split at h
    · exact hbool h
    · unfold Subject.says? at h
      split at h
      · split at h
        · exact htext h
        · cases h
      · split at h
        · exact htext h
        · cases h
      · cases h

theorem Outbound.mem_fields (hx : x ∈ m.fields) :
    x.1 ∈ m.kind.declared ∧ m.says? x.1 = some x.2 := by
  obtain ⟨name, hname, hsays⟩ := List.mem_filterMap.1 hx
  obtain ⟨v, hv, rfl⟩ := Option.map_eq_some_iff.1 hsays
  exact ⟨hname, hv⟩

theorem Outbound.nodup_fields (m : Outbound) : (m.fields.map Prod.fst).Nodup := by
  have hnames : m.fields.map Prod.fst = m.kind.declared.filter fun name ↦ (m.says? name).isSome := by
    rw [fields]
    induction m.kind.declared with
    | nil => rfl
    | cons name names ih => cases h : m.says? name <;> simp [h, ih]
  have hdeclared : m.kind.declared.Nodup := by cases m.kind <;> decide
  exact hnames ▸ hdeclared.filter _

theorem Outbound.isWhole_of_mem (hx : x ∈ m.fields) : x.1.IsWhole := by
  have hname := (mem_fields hx).1
  revert hname
  cases m.kind <;> exact (by decide : ∀ name ∈ OutboundKind.declared _, name.IsWhole) x.1

theorem Outbound.IsWhole.isPlain (h : m.IsWhole) : m.members.IsPlain := by
  refine ⟨?_, ?_, ?_⟩ <;> rw [given_members]
  · exact m.nodup_fields
  · exact fun x hx ↦ isWhole_of_mem hx
  · rintro ⟨name, v⟩ hx
    obtain ⟨t, rfl⟩ | hb := says?_cases (mem_fields hx).2
    · exact .inl ⟨t, rfl, (Utf8.find?_eq_none_iff t).1 (isWhole_iff.1 h _ hx)⟩
    · exact .inr hb

theorem Outbound.write_of_encode (h : m.encode = .ok f) : m.IsWhole ∧ m.members.write = f := by
  obtain ⟨hw, rfl⟩ := encode_eq_ok_iff.1 h
  exact ⟨hw, by rw [Members.write, given_members]⟩

theorem Outbound.lenient_of_encode (h : m.encode = .ok f) :
    Json.Lenient.ofText f = .ok (.object m.fields) := by
  obtain ⟨hw, rfl⟩ := write_of_encode h
  rw [hw.isPlain.lenient_write, given_members]

theorem Outbound.strict_of_encode (h : m.encode = .ok f) :
    Json.Strict.ofText f = some (.object m.fields) := by
  obtain ⟨hw, rfl⟩ := write_of_encode h
  rw [hw.isPlain.strict_write, given_members]

theorem Outbound.ofFields_fields (m : Outbound) : Outbound.ofFields m.kind m.fields = .ok m := by
  rw [← given_members]
  cases m with
  | auth token => rfl
  | verdict r =>
    obtain ⟨id, x, g, c, l⟩ := r
    cases x <;> cases c <;> cases l <;> rfl

theorem Outbound.kind_of_fields (h : m.fields = m'.fields) : m.kind = m'.kind := by
  have hkind (m : Outbound) : Field.lookup "kind" m.fields = some (.text m.kind.name) := by
    rw [← given_members]
    cases m <;> rfl
  have hname : m.kind.name = m'.kind.name := by
    have hl := (hkind m).symm.trans (h ▸ hkind m')
    simpa using hl
  revert hname
  cases m.kind <;> cases m'.kind <;> decide

theorem Outbound.fields_injective (h : m.fields = m'.fields) : m = m' := by
  have hm := m.ofFields_fields
  rw [kind_of_fields h, h, m'.ofFields_fields] at hm
  exact (Except.ok.inj hm).symm

theorem object_injective {xs ys : List (Text × Value)} (h : Value.object xs = Value.object ys) :
    xs = ys := by
  have hinj : Function.Injective fun x : Text × Value ↦ (Value.text x.1, x.2) := by
    rintro ⟨k, v⟩ ⟨k', v'⟩ hx
    obtain ⟨hk, rfl⟩ := Prod.mk.inj hx
    obtain rfl := Value.text.inj hk
    rfl
  exact List.map_injective_iff.2 hinj (Value.map.inj h)

theorem Outbound.encode_injective (h : m.encode = .ok f) (h' : m'.encode = .ok f) : m = m' := by
  have hv := (lenient_of_encode h).symm.trans (lenient_of_encode h')
  exact fields_injective (object_injective (Except.ok.inj hv))

/-- A message in whose texts no half of a surrogate pair stands alone has a frame. Either reader of
JSON finds in it an object with the fields that the message fills, in declared order and with what it
says in them, and no other message has that frame. -/
theorem frame_says_message (m : Outbound) (h : m.IsWhole) : ∃ f, m.encode = .ok f ∧
    readStrict (.text f) = some (.object m.fields) ∧ readLenient (.text f) = .ok (.object m.fields) ∧
    ∀ m' : Outbound, m'.encode = .ok f → m' = m := by
  have hf := Outbound.encode_eq_ok_iff.2 ⟨h, rfl⟩
  exact ⟨_, hf, Outbound.strict_of_encode hf, Outbound.lenient_of_encode hf,
    fun m' hm ↦ Outbound.encode_injective hm hf⟩

def Sample.awkward : Outbound :=
  .verdict ⟨"s\\\"", .url ("\\u0022/\\\"\x08\x0c\n\r\t\x00\x01\x1f\x7fé😀" : Text), "'g'", some false, none⟩

theorem frame_says_message_awkward : ∃ f, Sample.awkward.encode = .ok f ∧
    f = ("\x7b\"kind\":\"VerdictRequestForUrl\",\"session_id\":\"s\\\\\\\"\"," ++
      "\"url\":\"\\\\u0022/\\\\\\\"\\b\\f\\n\\r\\t\\u0000\\u0001\\u001f\x7fé😀\"," ++
      "\"guid\":\"'g'\",\"use_cache\":false\x7d" : String) ∧
    readStrict (.text f) = some (.object [("kind", .text "VerdictRequestForUrl"),
      ("session_id", .text "s\\\""), ("url", .text "\\u0022/\\\"\x08\x0c\n\r\t\x00\x01\x1f\x7fé😀"),
      ("guid", .text "'g'"), ("use_cache", .bool false)]) := by
  have hw : Sample.awkward.IsWhole := by decide
  obtain ⟨f, hf, hs, -, -⟩ := frame_says_message Sample.awkward hw
  obtain ⟨-, rfl⟩ := Outbound.encode_eq_ok_iff.1 hf
  exact ⟨_, hf, by decide +kernel, hs⟩

end VerdictClient
