import VerdictClient.Proofs.Json.Grammar
import VerdictClient.Proofs.Json.Spelling

namespace VerdictClient

theorem eq_ok_of_toOption {ε α : Type} {x : Except ε α} {a : α} (h : x.toOption = some a) : x = .ok a := by
  cases x with
  | error e => cases h
  | ok b => exact congrArg Except.ok (Option.some_inj.1 h)

namespace Json

variable {limits limits' : Limits} {ls : List Lexeme} {n : Nat} {v : Value}

/-- Whatever nests within these limits does so within the wider ones. -/
structure Limits.Within (limits limits' : Limits) : Prop where
  scalar : limits.aroundScalar ≤ limits'.aroundScalar
  container : limits.aroundContainer ≤ limits'.aroundContainer

theorem IsValue.within (h : IsValue limits n ls v) (hl : limits.Within limits') : IsValue limits' n ls v := by
  induction h with
  | text h => exact .text (h.trans hl.scalar)
  | scalar h => exact .scalar (h.trans hl.scalar)
  | double h => exact .double (h.trans hl.scalar)
  | list h _ ih => exact .list (h.trans hl.container) ih
  | map h _ ih => exact .map (h.trans hl.container) ih

theorem ofTokens_within (hl : limits.Within limits') {ts : List Token} (h : ofTokens limits n ts = .ok v) :
    ofTokens limits' n ts = .ok v :=
  ofTokens_eq_ok_iff.2 ((ofTokens_eq_ok_iff.1 h).within hl)

def scalarLexeme : Value → Lexeme
  | .text t => .text t
  | v => .scalar v

def memberLexemes (x : Text × Value) : List Lexeme := [.text x.1, .colon, scalarLexeme x.2]

def objectLexemes (xs : List (Text × Value)) : List Lexeme :=
  [.opening .map] ++ [Lexeme.comma].intercalate (xs.map memberLexemes) ++ [.closing .map]

theorem upsert_of_not_mem {key : Text} {v : Value} {xs : List (Text × Value)}
    (h : key ∉ xs.map Prod.fst) : upsert key v xs = xs ++ [(key, v)] := by
  induction xs with
  | nil => rfl
  | cons x xs ih =>
    obtain ⟨hne, hxs⟩ : key ≠ x.1 ∧ key ∉ xs.map Prod.fst := by
      simpa only [List.map_cons, List.mem_cons, not_or] using h
    rw [upsert, if_neg (Ne.symm hne), ih hxs]
    rfl

theorem foldl_upsert {xs done : List (Text × Value)} (h : ((done ++ xs).map Prod.fst).Nodup) :
    xs.foldl (fun acc x ↦ upsert x.1 x.2 acc) done = done ++ xs := by
  induction xs generalizing done with
  | nil => rw [List.append_nil]; rfl
  | cons x xs ih =>
    have hx : x.1 ∉ done.map Prod.fst := by
      rw [List.map_append, List.nodup_append] at h
      exact fun hmem ↦ h.2.2 _ hmem _ (List.mem_cons_self ..) rfl
    rw [List.foldl_cons, upsert_of_not_mem hx, ih (by simpa using h), List.append_assoc]
    rfl

theorem isValue_object {xs : List (Text × Value)} (hk : (xs.map Prod.fst).Nodup)
    (h : 1 ≤ limits.aroundScalar) : IsValue limits 0 (objectLexemes xs) (.object xs) := by
  have hscalar (v : Value) : IsValue limits 1 [scalarLexeme v] v := by
    cases v <;> first | exact .text h | exact .scalar h
  have hall := @IsValue.map limits 0 (xs.map fun x ↦ (x.1, [scalarLexeme x.2], x.2)) (Nat.zero_le _) (by
    simp only [List.mem_map]
    rintro _ ⟨x, -, rfl⟩
    exact hscalar x.2)
  have hcollect : collect xs = xs := foldl_upsert (show (([] ++ xs).map Prod.fst).Nodup from hk)
  have hlexemes : objectLexemes xs = mapLexemes (xs.map fun x ↦ (x.1, [scalarLexeme x.2])) := by
    rw [mapLexemes, List.map_map]
    rfl
  simp only [List.map_map, Function.comp_def, Prod.eta, List.map_id', hcollect] at hall
  rwa [hlexemes]

/-- Written members spell an object if what is written for their values spells these. -/
theorem spells_writeObject {xs : List (Text × Value)} {write : Value → Text}
    (h : ∀ x ∈ xs, Spells (write x.2) [scalarLexeme x.2]) :
    Spells (writeObject (xs.map fun x ↦ (x.1, write x.2))) (objectLexemes xs) := by
  have hmember (x : Text × Value) (hx : x ∈ xs) :
      Spells (writeMember (x.1, write x.2)) (memberLexemes x) :=
    (spells_quote x.1).append (spells_colon.append (h x hx))
  suffices hall : Spells
      ([CodePoint.char ','].intercalate (xs.map fun x ↦ writeMember (x.1, write x.2)))
      ([Lexeme.comma].intercalate (xs.map memberLexemes)) by
    rw [writeObject, List.map_map]
    exact (spells_opening_map.append hall).append spells_closing_map
  clear h
  induction xs with
  | nil => exact spells_nil
  | cons x xs ih =>
    cases xs with
    | nil => simpa using hmember x (by simp)
    | cons y ys =>
      rw [List.map_cons, List.map_cons, List.map_cons, List.map_cons, List.intercalate_cons_cons,
        List.intercalate_cons_cons]
      exact ((hmember x (by simp)).append spells_comma).append (ih fun z hz ↦ hmember z (by simp [hz]))

theorem forall_mem_objectLexemes {P : Lexeme → Prop} {xs : List (Text × Value)}
    (hmark : P (.opening .map) ∧ P (.closing .map) ∧ P .colon ∧ P .comma)
    (hx : ∀ x ∈ xs, P (.text x.1) ∧ P (scalarLexeme x.2)) : ∀ l ∈ objectLexemes xs, P l := by
  have hmember (x : Text × Value) (h : x ∈ xs) : ∀ l ∈ memberLexemes x, P l := by
    simp [memberLexemes, hx x h, hmark]
  have hall : ∀ l ∈ [Lexeme.comma].intercalate (xs.map memberLexemes), P l := by
    clear hx
    induction xs with
    | nil => simp
    | cons x xs ih =>
      cases xs with
      | nil => exact hmember x (by simp)
      | cons y ys =>
        rw [List.map_cons, List.map_cons, List.intercalate_cons_cons]
        simp only [List.mem_append, List.mem_singleton]
        rintro l ((hl | rfl) | hl)
        · exact hmember x (by simp) l hl
        · exact hmark.2.2.2
        · exact ih (fun z hz ↦ hmember z (by simp [hz])) l hl
  simp only [objectLexemes, List.mem_append, List.mem_singleton]
  rintro l ((rfl | hl) | rfl)
  · exact hmark.1
  · exact hall l hl
  · exact hmark.2.1

end Json

end VerdictClient
