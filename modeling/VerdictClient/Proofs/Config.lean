import Mathlib.Data.List.Induction
import Mathlib.Data.List.Lex
import VerdictClient.Config
import VerdictClient.Proofs.Text.Octets

namespace VerdictClient

theorem CodePoint.val_injective : Function.Injective CodePoint.val := by
  intro c d h
  rw [← c.ofNat_val, h, d.ofNat_val]

namespace Text

variable {s t : Text}

theorem lex_iff :
    List.lex s t (fun a b ↦ a.val < b.val) = true ↔ s.map CodePoint.val < t.map CodePoint.val := by
  induction s generalizing t with
  | nil => cases t <;> simp
  | cons a s ih =>
    cases t with
    | nil => simp
    | cons b t => simp [ih, List.cons_lt_cons_iff, CodePoint.val_injective.eq_iff]

theorem le_iff : s.le t = true ↔ s.map CodePoint.val ≤ t.map CodePoint.val := by
  rw [le, Bool.not_eq_true', ← Bool.not_eq_true, lex_iff, not_lt]

theorem pairwise_mergeSort (ts : List Text) :
    (ts.mergeSort le).Pairwise fun s t ↦ s.map CodePoint.val ≤ t.map CodePoint.val := by
  have htrans (r s t : Text) (h : r.le s = true) (h' : s.le t = true) : r.le t = true :=
    le_iff.2 ((le_iff.1 h).trans (le_iff.1 h'))
  have htotal (s t : Text) : (s.le t || t.le s) = true := by
    rw [Bool.or_eq_true, le_iff, le_iff]
    exact le_total _ _
  exact (List.pairwise_mergeSort htrans htotal ts).imp le_iff.1

end Text

theorem Value.get?_append (key : Text) (es fs : List (Value × Value)) :
    Value.get? key (es ++ fs) = (Value.get? key es).or (Value.get? key fs) := by
  induction es with
  | nil => rfl
  | cons e es ih =>
    obtain ⟨k, v⟩ := e
    cases k with
    | text t =>
      simp only [List.cons_append, get?]
      split
      · rfl
      · exact ih
    | _ => exact ih

namespace Config

variable {m : Mapping} {c : Config} {f g : Field} {k v : Value} {e : MappingError}

theorem Field.ofKey?_eq_some_iff : Field.ofKey? k = some f ↔ k = .text f.name := by
  cases k with
  | text t =>
    simp only [ofKey?, ofName?, Value.text.injEq]
    constructor
    · intro h
      have hname := List.find?_some h
      simpa [eq_comm] using hname
    · rintro rfl
      cases f <;> decide
  | _ => simp [ofKey?]

theorem Field.ofKey?_eq_none_iff : Field.ofKey? k = none ↔ ∀ f : Field, k ≠ .text f.name := by
  simp only [Option.eq_none_iff_forall_ne_some, ne_eq, ofKey?_eq_some_iff]

namespace Mapping

/-- What a mapping gives to a setting: what stands under its name, the last if it stands there twice. -/
def given? (m : Mapping) (f : Field) : Option Value := Value.get? f.name m.reverse

def IsKnown (m : Mapping) : Prop := ∀ x ∈ m, ∃ f : Field, x.1 = .text f.name

theorem isKnown_iff : m.IsKnown ↔ unknownKeys m = [] := by
  simp only [IsKnown, unknownKeys, List.filter_eq_nil_iff, List.forall_mem_map,
    Option.isNone_iff_eq_none, Field.ofKey?_eq_none_iff, not_forall, not_not]

instance (m : Mapping) : Decidable m.IsKnown :=
  decidable_of_iff ((unknownKeys m).isEmpty = true) (List.isEmpty_iff.trans isKnown_iff.symm)

theorem given?_append (m m' : Mapping) (f : Field) :
    given? (m ++ m') f = (given? m' f).or (given? m f) := by
  simp only [given?, List.reverse_append, Value.get?_append]

theorem given?_singleton (x : Value × Value) (f : Field) :
    given? [x] f = if Field.ofKey? x.1 = some f then some x.2 else none := by
  obtain ⟨k, v⟩ := x
  cases k with
  | text t =>
    simp only [given?, List.reverse_singleton, Value.get?, Field.ofKey?_eq_some_iff,
      Value.text.injEq]
  | _ => rfl

end Mapping

theorem overlay_concat (m : Mapping) (x : Value × Value) (c : Config) :
    c.overlay (m ++ [x]) = match Field.ofKey? x.1 with
      | some f => (c.overlay m).set f x.2
      | none => c.overlay m := by
  unfold overlay
  rw [List.foldl_append]
  rfl

theorem get_set (f g : Field) (v : Value) (c : Config) :
    (c.set f v).get g = if g = f then v else c.get g := rfl

/-- A mapping gives a setting what stands under its name, and leaves it alone if nothing does. -/
theorem get_overlay (m : Mapping) (c : Config) (f : Field) :
    (c.overlay m).get f = (m.given? f).getD (c.get f) := by
  induction m using List.reverseRecOn with
  | nil => rfl
  | append_singleton m x ih =>
    rw [overlay_concat, Mapping.given?_append, Mapping.given?_singleton]
    cases hk : Field.ofKey? x.1 with
    | none => simpa using ih
    | some g =>
      by_cases hg : f = g
      · simp [get_set, hg]
      · simpa [get_set, hg, Ne.symm hg] using ih

/-- The unknown keys in order if all of them are texts, and otherwise that some of them are not. -/
structure Explains (m : Mapping) (e : MappingError) : Prop where
  names : (∀ k ∈ unknownKeys m, ∃ t, k = .text t) → ∃ names : List Text, e = .unknownKeys names ∧
    e.message = "Unknown config keys: " ++ Text.intercalate ", " names ∧
    (names.map Value.text).Perm (unknownKeys m) ∧
    names.Pairwise fun s t ↦ s.map CodePoint.val ≤ t.map CodePoint.val
  type : (∃ k ∈ unknownKeys m, ∀ t, k ≠ .text t) → e.isType = true

theorem textOf?_eq_some_iff {t : Text} : textOf? k = some t ↔ k = .text t := by
  cases k <;> simp [textOf?]

theorem mapM_textOf?_eq_some_iff {ks : List Value} {ts : List Text} :
    ks.mapM textOf? = some ts ↔ ks = ts.map Value.text := by
  induction ks generalizing ts with
  | nil => simp [eq_comm]
  | cons k ks ih =>
    simp only [List.mapM_cons, Option.bind_eq_bind, Option.bind_eq_some_iff, textOf?_eq_some_iff, ih,
      Option.pure_def, Option.some.injEq]
    constructor
    · rintro ⟨t, rfl, ts', rfl, rfl⟩
      rfl
    · intro h
      cases ts with
      | nil => cases h
      | cons t ts => exact ⟨t, (List.cons.inj h).1, ts, (List.cons.inj h).2, rfl⟩

theorem exists_texts {ks : List Value} (h : ∀ k ∈ ks, ∃ t, k = .text t) :
    ∃ ts : List Text, ks = ts.map Value.text := by
  induction ks with
  | nil => exact ⟨[], rfl⟩
  | cons k ks ih =>
    obtain ⟨⟨t, rfl⟩, hrest⟩ := List.forall_mem_cons.1 h
    obtain ⟨ts, rfl⟩ := ih hrest
    exact ⟨t :: ts, rfl⟩

theorem isType_orderError? {k' : Value} (h : orderError? k k' = some e) : e.isType = true := by
  unfold orderError? at h
  split at h
  · cases h
  · cases h
  · split at h
    · cases h
    · split at h <;> (cases h; rfl)
  · split at h <;> cases h
    rfl

theorem explains_keyError {first : Value} {others : List Value} (h : unknownKeys m = first :: others) :
    Explains m (keyError first others) := by
  unfold keyError
  split
  · next names hnames =>
    rw [mapM_textOf?_eq_some_iff, ← h] at hnames
    refine ⟨fun _ ↦ ⟨_, rfl, rfl, ?_, Text.pairwise_mergeSort names⟩, ?_⟩
    · rw [hnames]
      exact (List.mergeSort_perm names Text.le).map Value.text
    · rintro ⟨k, hk, hno⟩
      obtain ⟨t, -, rfl⟩ := List.mem_map.1 (hnames ▸ hk)
      exact absurd rfl (hno t)
  · next hnames =>
    refine ⟨fun hall ↦ ?_, fun _ ↦ ?_⟩
    · obtain ⟨ts, hts⟩ := exists_texts hall
      rw [← h, mapM_textOf?_eq_some_iff.2 hts] at hnames
      cases hnames
    · split
      · next e he =>
        obtain ⟨k, -, hk⟩ := List.exists_of_findSome?_eq_some he
        exact isType_orderError? hk
      · rfl

theorem run_forM_assign (m : Mapping) (c : Config) :
    (m.forM assign).run.run c = (.ok (), c.overlay m) := by
  induction m generalizing c with
  | nil => rfl
  | cons x m ih =>
    have hfirst : (assign x).run.run c = (.ok (), c.overlay [x]) := by
      unfold assign
      cases h : Field.ofKey? x.1 <;> simp [overlay, h] <;> rfl
    rw [List.forM_eq_forM, List.forM_cons, ExceptT.run_bind, StateT.run_bind, hfirst]
    exact ih _

/-- What happens in place is what happens to a copy that is kept if nothing is wrong. -/
theorem run_applyInPlace (m : Mapping) (c : Config) :
    (applyInPlace m).run.run c = match c.applyMapping m with
      | .ok c' => (.ok (), c')
      | .error e => (.error e, c) := by
  unfold applyInPlace applyMapping
  cases h : unknownKeys m with
  | nil => exact run_forM_assign m c
  | cons first others => rfl

theorem applyMapping_of_isKnown (h : m.IsKnown) (c : Config) : c.applyMapping m = .ok (c.overlay m) := by
  rw [applyMapping, Mapping.isKnown_iff.1 h]

theorem exists_applyMapping_error (h : ¬m.IsKnown) (c : Config) :
    ∃ e, c.applyMapping m = .error e ∧ Explains m e := by
  unfold applyMapping
  cases hk : unknownKeys m with
  | nil => exact absurd (Mapping.isKnown_iff.2 hk) h
  | cons first others => exact ⟨_, rfl, explains_keyError hk⟩

theorem run_mapM_applyInPlace (ms : List Mapping) (c : Config) :
    ((ms.mapM fun m ↦ (applyInPlace m).run).run c).2 =
      c.overlay (ms.filter fun m ↦ decide m.IsKnown).flatten := by
  induction ms generalizing c with
  | nil => rfl
  | cons m ms ih =>
    have hrun : ((List.mapM (fun m ↦ (applyInPlace m).run) (m :: ms)).run c).2 =
        ((ms.mapM fun m ↦ (applyInPlace m).run).run ((applyInPlace m).run.run c).2).2 := by
      rw [List.mapM_cons]
      rfl
    rw [hrun, ih, run_applyInPlace]
    by_cases h : m.IsKnown
    · rw [applyMapping_of_isKnown h, List.filter_cons_of_pos (by simpa using h), List.flatten_cons]
      exact List.foldl_append.symm
    · obtain ⟨e, he, -⟩ := exists_applyMapping_error h c
      rw [he, List.filter_cons_of_neg (by simpa using h)]

/-- A mapping overlays settings all or nothing. If every key names a setting, each of these gets what the
mapping gives to it and all others stay; if not, the settings are what they were, and what is told explains
why. So settings to which mappings are applied in turn are those from before with what the accepted ones
give, the later ones over the earlier ones. -/
theorem overlaid_all_or_nothing (c : Config) (m : Mapping) (ms : List Mapping) :
    (m.IsKnown → ∃ c', c.applyMapping m = .ok c' ∧ (applyInPlace m).run.run c = (.ok (), c') ∧
      ∀ f, c'.get f = (m.given? f).getD (c.get f)) ∧
    (¬m.IsKnown → ∃ e, c.applyMapping m = .error e ∧ (applyInPlace m).run.run c = (.error e, c) ∧
      Explains m e) ∧
    ∀ f, ((ms.mapM fun m ↦ (applyInPlace m).run).run c).2.get f =
      (Mapping.given? (ms.filter fun m ↦ decide m.IsKnown).flatten f).getD (c.get f) := by
  refine ⟨fun h ↦ ?_, fun h ↦ ?_, fun f ↦ ?_⟩
  · have happly := applyMapping_of_isKnown h c
    exact ⟨_, happly, by rw [run_applyInPlace, happly], get_overlay m c⟩
  · obtain ⟨e, happly, he⟩ := exists_applyMapping_error h c
    exact ⟨e, happly, by rw [run_applyInPlace, happly], he⟩
  · rw [run_mapM_applyInPlace, get_overlay]

def Sample.stray : Mapping := [(.text "url", .text "a"), (.text "zone", .null), (.text "Area", .null)]

def Sample.address : Mapping := [(.text "url", .text "b")]

theorem Sample.keyError_stray :
    keyError (.text "zone") [.text "Area"] = .unknownKeys ["Area", "zone"] := by
  have hle : Text.le "zone" "Area" = false := by decide
  have hsort : List.mergeSort [Text.ofString "zone", Text.ofString "Area"] Text.le =
      [Text.ofString "Area", Text.ofString "zone"] := by
    simp [List.mergeSort, hle]
  exact congrArg MappingError.unknownKeys hsort

theorem overlaid_all_or_nothing_stray :
    (applyInPlace Sample.stray).run.run default = (.error (.unknownKeys ["Area", "zone"]), default) ∧
    (([Sample.address, Sample.stray].mapM fun m ↦ (applyInPlace m).run).run default).2.get .url =
      .text "b" := by
  obtain ⟨-, hrefused, hlast⟩ :=
    overlaid_all_or_nothing default Sample.stray [Sample.address, Sample.stray]
  obtain ⟨e, happly, hrun, -⟩ := hrefused (by decide)
  obtain rfl : keyError (.text "zone") [.text "Area"] = e := Except.error.inj happly
  exact ⟨Sample.keyError_stray ▸ hrun, (hlast .url).trans rfl⟩

end Config

end VerdictClient
