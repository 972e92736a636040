import VerdictClient.Message.Encode
import VerdictClient.Proofs.Message.Layout
import Mathlib.Data.List.Nodup
import Mathlib.Logic.Relation

namespace VerdictClient

open Json

namespace Field

variable {k : Text} {v : Value} {x : Text × Value} {xs ys : List (Text × Value)} {fs fs' : Fields}
  {name : Text} {α : Type} {check : Value → Except FieldFault α}

theorem lookup_cons (k : Text) (x : Text × Value) (fs : Fields) :
    lookup k (x :: fs) = if x.1 = k then some x.2 else lookup k fs := by
  by_cases h : x.1 = k <;> simp [lookup, h]

theorem lookup_append (k : Text) (fs fs' : Fields) :
    lookup k (fs ++ fs') = (lookup k fs).or (lookup k fs') := by
  rw [lookup, List.find?_append, Option.map_or]
  rfl

theorem lookup_upsert (k key : Text) (v : Value) (fs : Fields) :
    lookup k (upsert key v fs) = if key = k then some v else lookup k fs := by
  induction fs with
  | nil => exact lookup_cons k (key, v) []
  | cons y fs ih =>
    obtain ⟨key', w⟩ := y
    rw [upsert]
    split
    · next h =>
      rw [lookup_cons, lookup_cons, h]
      split <;> rfl
    · next h =>
      rw [lookup_cons, lookup_cons, ih]
      by_cases hk : key = k
      · rw [if_pos hk, if_pos hk, if_neg (hk ▸ h)]
      · rw [if_neg hk, if_neg hk]

theorem lookup_collect (k : Text) (xs : List (Text × Value)) :
    lookup k (collect xs) = lookup k xs.reverse := by
  induction xs using List.reverseRecOn with
  | nil => rfl
  | append_singleton xs x ih =>
    rw [collect, List.foldl_append, List.reverse_append, List.reverse_singleton, List.singleton_append,
      lookup_cons, ← ih]
    exact lookup_upsert k x.1 x.2 _

theorem isSome_lookup (h : k ∈ fs.map Prod.fst) : (lookup k fs).isSome = true := by
  obtain ⟨x, hx, rfl⟩ := List.mem_map.1 h
  rw [lookup, Option.isSome_map, List.find?_isSome]
  exact ⟨x, hx, by simp⟩

theorem lookup_eq_some_iff (h : (fs.map Prod.fst).Nodup) : lookup k fs = some v ↔ (k, v) ∈ fs := by
  induction fs with
  | nil => simp [lookup]
  | cons x fs ih =>
    obtain ⟨hx, hfs⟩ := List.nodup_cons.1 h
    rw [lookup_cons, List.mem_cons]
    split
    · next hk =>
      subst hk
      have hnot : (x.1, v) ∉ fs := fun hmem ↦ hx (List.mem_map.2 ⟨_, hmem, rfl⟩)
      simp [hnot, Prod.ext_iff, eq_comm]
    · next hk =>
      have hnot : (k, v) ≠ x := fun heq ↦ hk (heq ▸ rfl)
      simp [hnot, ih hfs]

theorem lookup_collect_of_perm (h : xs.Perm ys) (hn : (xs.map Prod.fst).Nodup) (k : Text) :
    lookup k (collect ys) = lookup k (collect xs) := by
  have hn' : (ys.map Prod.fst).Nodup := (h.map Prod.fst).nodup_iff.1 hn
  have hnodup {zs : List (Text × Value)} (hz : (zs.map Prod.fst).Nodup) :
      (zs.reverse.map Prod.fst).Nodup := by
    rwa [List.map_reverse, List.nodup_reverse]
  apply Option.ext
  intro v
  rw [lookup_collect, lookup_collect, lookup_eq_some_iff (hnodup hn'), lookup_eq_some_iff (hnodup hn),
    List.mem_reverse, List.mem_reverse, h.mem_iff]

theorem lookup_collect_insert (h : x.1 ≠ k ∨ x.1 ∈ ys.map Prod.fst) :
    lookup k (collect (xs ++ x :: ys)) = lookup k (collect (xs ++ ys)) := by
  rw [lookup_collect, lookup_collect, List.reverse_append, List.reverse_append, List.reverse_cons,
    List.append_assoc, List.singleton_append, lookup_append, lookup_append, lookup_cons]
  split
  · next hk =>
    have hys : (lookup k ys.reverse).isSome = true := by
      apply isSome_lookup
      rw [List.map_reverse, List.mem_reverse, ← hk]
      exact h.resolve_left (not_not_intro hk)
    obtain ⟨v, hv⟩ := Option.isSome_iff_exists.1 hys
    rw [hv]
    rfl
  · rfl

theorem required_congr (h : lookup name fs' = lookup name fs) :
    required name check fs' = required name check fs := by
  rw [required, h, required]

theorem withDefault_congr {default : α} (h : lookup name fs' = lookup name fs) :
    withDefault name default check fs' = withDefault name default check fs := by
  rw [withDefault, h, withDefault]

theorem optional_congr (h : lookup name fs' = lookup name fs) :
    optional name check fs' = optional name check fs := by
  rw [optional, h, optional]

end Field

def Fields.Agree (names : List Text) (fs fs' : Fields) : Prop :=
  ∀ k ∈ names, Field.lookup k fs' = Field.lookup k fs

theorem Fields.Agree.refl (names : List Text) (fs : Fields) : fs.Agree names fs := fun _ _ ↦ rfl

theorem Fields.Agree.trans {names : List Text} {fs fs' fs'' : Fields} (h : fs.Agree names fs')
    (h' : fs'.Agree names fs'') : fs.Agree names fs'' := fun k hk ↦ (h' k hk).trans (h k hk)

theorem Fields.ofEntries_object (xs : List (Text × Value)) :
    ofEntries (xs.map fun m ↦ (.text m.1, m.2)) = xs := by
  rw [ofEntries, List.filterMap_map]
  exact List.filterMap_some

variable {fs fs' : Fields} {es es' : List (Value × Value)} {i : Inbound} {m : AuthResponse}
  {f : VerdictResponse}

theorem AuthResponse.ofFields_congr (h : fs.Agree (m.members.map Prod.fst) fs') :
    ofFields fs' = ofFields fs := by
  have hkind : kindField authResponseKind fs' = kindField authResponseKind fs :=
    Field.withDefault_congr (h _ (by simp [members]))
  simp only [ofFields, hkind, Field.withDefault_congr (h "success" (by simp [members])),
    Field.optional_congr (h "session_id" (by simp [members])),
    Field.optional_congr (h "text" (by simp [members]))]

theorem VerdictResponse.ofFields_congr (h : fs.Agree (f.members.map Prod.fst) fs') :
    ofFields fs' = ofFields fs := by
  have hkind : kindField verdictResponseKind fs' = kindField verdictResponseKind fs :=
    Field.withDefault_congr (h _ (by simp [members]))
  simp only [ofFields, hkind, Field.required_congr (h "guid" (by simp [members])),
    Field.required_congr (h "verdict" (by simp [members])),
    Field.withDefault_congr (h "sha256" (by simp [members])),
    Field.optional_congr (h "detection" (by simp [members])),
    Field.optional_congr (h "url" (by simp [members])),
    Field.optional_congr (h "upload_token" (by simp [members]))]

theorem AuthResponse.ofValue_congr
    (h : (Fields.ofEntries es).Agree (m.members.map Prod.fst) (Fields.ofEntries es')) :
    ofValue (.map es') = ofValue (.map es) := by
  simp only [ofValue, h "kind" (by simp [members]), ofFields_congr h]

theorem Inbound.ofValue_congr (hi : ofValue (.map es) = .ok i)
    (h : (Fields.ofEntries es).Agree (i.members.map Prod.fst) (Fields.ofEntries es')) :
    ofValue (.map es') = .ok i := by
  obtain ⟨es, heq, hcases⟩ := exists_of_ofValue hi
  cases heq
  rw [← hi]
  obtain ⟨m, rfl, hkind, -⟩ | ⟨f, rfl, hkind⟩ := hcases
  · have hkind' := (h "kind" (by simp [members, AuthResponse.members])).trans hkind
    simp only [ofValue, hkind, hkind', if_true, AuthResponse.ofFields_congr h]
  · have hkind' := (h "kind" (by simp [members, VerdictResponse.members])).trans hkind
    have hne : verdictResponseKind ≠ authResponseKind := by decide
    simp only [ofValue, hkind, hkind', hne, if_false, if_true, VerdictResponse.ofFields_congr h]

/-- A text that differs from another one, an object, in what is not told by the members with these names. -/
inductive Variant (r : FrameReader) (names : List Text) : Text → Text → Prop
  /-- Blanks stand between two tokens. -/
  | blank {t blank : Text} {i : Nat} : IsBlank blank → IsGap t i →
      Variant r names t (t.take i ++ blank ++ t.drop i)
  /-- The members, all under different keys, stand in another order. -/
  | reorder {t t' : Text} {ms ms' : List Member} : Lays r t ms → Lays r t' ms' → ms.Perm ms' →
      (ms.map Member.key).Nodup → Variant r names t t'
  /-- A member with none of the names stands anywhere. -/
  | insert {t t' : Text} {before after : List Member} {m : Member} : Lays r t (before ++ after) →
      Lays r t' (before ++ m :: after) → m.key ∉ names → Variant r names t t'
  /-- A member stands before another one with its key. -/
  | precede {t t' : Text} {before after : List Member} {m : Member} : Lays r t (before ++ after) →
      Lays r t' (before ++ m :: after) → m.key ∈ after.map Member.key → Variant r names t t'

variable {r : FrameReader} {names : List Text} {t t' : Text} {ms ms' : List Member}

theorem Lays.ofEntries_of_read (h : Lays r t ms) (ht : r.read t = some (.map es)) :
    Fields.ofEntries es = collect (ms.map Member.entry) := by
  rw [h.read] at ht
  cases ht
  exact Fields.ofEntries_object _

theorem Lays.exists_read (h : Lays r t ms) (h' : Lays r t' ms') (ht : r.read t = some (.map es))
    (hagree : Fields.Agree names (collect (ms.map Member.entry)) (collect (ms'.map Member.entry))) :
    ∃ es', r.read t' = some (.map es') ∧ (Fields.ofEntries es).Agree names (Fields.ofEntries es') := by
  refine ⟨_, h'.read, ?_⟩
  rw [h.ofEntries_of_read ht, Fields.ofEntries_object]
  exact hagree

theorem Variant.exists_read (h : Variant r names t t') (ht : r.read t = some (.map es)) :
    ∃ es', r.read t' = some (.map es') ∧ (Fields.ofEntries es).Agree names (Fields.ofEntries es') := by
  cases h with
  | blank hb hi => exact ⟨es, FrameReader.read_blank ht hb hi, .refl _ _⟩
  | reorder h h' hperm hnodup =>
    refine h.exists_read h' ht fun k _ ↦ Field.lookup_collect_of_perm (hperm.map _) ?_ k
    rwa [List.map_map]
  | insert h h' hm =>
    refine h.exists_read h' ht fun k hk ↦ ?_
    rw [List.map_append, List.map_append, List.map_cons]
    exact Field.lookup_collect_insert (.inl fun heq ↦ hm (by rwa [← heq] at hk))
  | precede h h' hm =>
    refine h.exists_read h' ht fun k _ ↦ ?_
    rw [List.map_append, List.map_append, List.map_cons]
    refine Field.lookup_collect_insert (.inr ?_)
    rwa [List.map_map]

theorem exists_read_of_variants (h : Relation.ReflTransGen (Variant r names) t t')
    (ht : r.read t = some (.map es)) :
    ∃ es', r.read t' = some (.map es') ∧ (Fields.ofEntries es).Agree names (Fields.ofEntries es') := by
  induction h with
  | refl => exact ⟨es, ht, .refl _ _⟩
  | tail _ hstep ih =>
    obtain ⟨es', ht', hagree⟩ := ih
    obtain ⟨es'', ht'', hagree'⟩ := hstep.exists_read ht'
    exact ⟨es'', ht'', hagree.trans hagree'⟩

theorem Inbound.decode_text_iff : decode (.text t) = .ok i ↔
    ∃ es, FrameReader.strict.read t = some (.map es) ∧ ofValue (.map es) = .ok i := by
  constructor
  · intro h
    obtain ⟨v, hv, hi⟩ := exists_of_decode h
    obtain ⟨es, rfl, -⟩ := exists_of_ofValue hi
    refine ⟨es, ?_, hi⟩
    unfold decode at h
    split at h
    · cases h
    · next hwhole => rw [FrameReader.read, if_neg hwhole, hv]
  · rintro ⟨es, ht, hi⟩
    rw [FrameReader.read] at ht
    split at ht
    · cases ht
    · next hwhole =>
      rw [decode, if_neg hwhole, ht]
      exact hi

theorem AuthResponse.decode_text_iff : decode (.text t) = .ok m ↔
    ∃ es, FrameReader.lenient.read t = some (.map es) ∧ ofValue (.map es) = .ok m := by
  constructor
  · intro h
    obtain ⟨v, hv, hm⟩ := exists_of_decode h
    obtain ⟨es, rfl⟩ : ∃ es, v = .map es := by
      cases v <;> first | exact ⟨_, rfl⟩ | cases hm
    refine ⟨es, ?_, hm⟩
    rw [FrameReader.read, hv]
    rfl
  · rintro ⟨es, ht, hm⟩
    exact decode_of_readLenient (eq_ok_of_toOption ht) hm

/-- Every frame that a message is read from is an object of members, and the same message is read from it
after any number of changes that leave alone what the members with the names of its fields say; so it is
after the handshake, and of an answer to it also during it. -/
theorem only_known_members_count :
    (∀ t i, Inbound.decode (.text t) = .ok i → (∃ ms, Lays .strict t ms) ∧
      ∀ t', Relation.ReflTransGen (Variant .strict (i.members.map Prod.fst)) t t' →
        Inbound.decode (.text t') = .ok i) ∧
    ∀ t m, AuthResponse.decode (.text t) = .ok m → (∃ ms, Lays .lenient t ms) ∧
      ∀ t', Relation.ReflTransGen (Variant .lenient (m.members.map Prod.fst)) t t' →
        AuthResponse.decode (.text t') = .ok m := by
  constructor
  · intro t i h
    obtain ⟨es, ht, hi⟩ := Inbound.decode_text_iff.1 h
    refine ⟨exists_lays ht, fun t' hvariants ↦ ?_⟩
    obtain ⟨es', ht', hagree⟩ := exists_read_of_variants hvariants ht
    exact Inbound.decode_text_iff.2 ⟨es', ht', Inbound.ofValue_congr hi hagree⟩
  · intro t m h
    obtain ⟨es, ht, hm⟩ := AuthResponse.decode_text_iff.1 h
    refine ⟨exists_lays ht, fun t' hvariants ↦ ?_⟩
    obtain ⟨es', ht', hagree⟩ := exists_read_of_variants hvariants ht
    exact AuthResponse.decode_text_iff.2 ⟨es', ht', (AuthResponse.ofValue_congr hagree).trans hm⟩

namespace Sample

def kindMember : Member := ⟨"\"kind\"", "\"AuthResponse\"", "kind", .text "AuthResponse"⟩

def successMember : Member := ⟨"\"success\"", "true", "success", .bool true⟩

def traceMember : Member := ⟨"\"trace\"", "[[1], null]", "trace", .list [.list [.int 1], .null]⟩

def emptyMember : Member := ⟨"\"success\"", "\x7b\x7d", "success", .object []⟩

def objectText (ms : List Member) : Text := .char '\x7b' :: ([.char ','].intercalate (ms.map Member.text) ++
  [.char '\x7d'])

def plainAnswer : Text := objectText [kindMember, successMember]

def rewritten : Text :=
  ("\x7b\r\n \"success\":\x7b\x7d,\"trace\":[[1], null]," ++
    "\"success\":true,\"kind\":\"AuthResponse\"\x7d" : String)

theorem lays (h : ms ⊆ [kindMember, successMember, traceMember, emptyMember]) :
    Lays r (objectText ms) ms := by
  have hread : ∀ m ∈ [kindMember, successMember, traceMember, emptyMember], m.IsRead r := by
    simp only [List.forall_mem_cons]
    cases r <;> exact ⟨⟨rfl, rfl⟩, ⟨rfl, rfl⟩, ⟨rfl, rfl⟩, ⟨rfl, rfl⟩, List.forall_mem_nil _⟩
  refine ⟨fun m hm ↦ hread m (h hm), [], [], [], isBlank_nil, isBlank_nil, isBlank_nil, ?_⟩
  rw [List.append_nil]
  rfl

theorem variants (h : traceMember.key ∉ names) :
    Relation.ReflTransGen (Variant r names) plainAnswer rewritten := by
  have hreorder : Variant r names plainAnswer (objectText [successMember, kindMember]) :=
    .reorder (lays (by simp)) (lays (by simp)) (.swap ..) (by decide)
  have hinsert : Variant r names (objectText [successMember, kindMember])
      (objectText [traceMember, successMember, kindMember]) :=
    @Variant.insert _ _ _ _ [] [successMember, kindMember] _ (lays (by simp)) (lays (by simp)) h
  have hprecede : Variant r names (objectText [traceMember, successMember, kindMember])
      (objectText [emptyMember, traceMember, successMember, kindMember]) :=
    @Variant.precede _ _ _ _ [] [traceMember, successMember, kindMember] _ (lays (by simp)) (lays (by simp))
      (by decide)
  have hgap : IsGap (objectText [emptyMember, traceMember, successMember, kindMember]) 1 := by
    unfold IsGap
    decide +kernel
  have hblank : Variant r names (objectText [emptyMember, traceMember, successMember, kindMember])
      rewritten :=
    .blank (show IsBlank ("\r\n " : Text) by unfold IsBlank; decide) hgap
  exact (((Relation.ReflTransGen.single hreorder).tail hinsert).tail hprecede).tail hblank

end Sample

theorem only_known_members_count_rewritten :
    Inbound.decode (.text Sample.plainAnswer) = .ok (.auth ⟨true, none, none⟩) ∧
    Inbound.decode (.text Sample.rewritten) = .ok (.auth ⟨true, none, none⟩) ∧
    AuthResponse.decode (.text Sample.rewritten) = .ok ⟨true, none, none⟩ := by
  have h : (Inbound.decode (.text Sample.plainAnswer)).toOption = some (.auth ⟨true, none, none⟩) := by
    decide +kernel
  have hstrict := eq_ok_of_toOption h
  have hlenient := answer_same_to_both_readers hstrict
  refine ⟨hstrict, (only_known_members_count.1 _ _ hstrict).2 _ (Sample.variants ?_),
    (only_known_members_count.2 _ _ hlenient).2 _ (Sample.variants ?_)⟩ <;> decide

end VerdictClient
