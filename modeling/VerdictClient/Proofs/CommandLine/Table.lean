import VerdictClient.CommandLine
import VerdictClient.Proofs.CommandLine.Pool

namespace VerdictClient.CommandLine

/-- A verdict, or an error that can be the answer for one subject. -/
def IsAnswer : Except Error Classification → Prop
  | .ok _ => True
  | .error e => e.isAnswer = true

def rows (subjects : List Text) (result : Nat → Except Error Classification) : List Row :=
  subjects.mapIdx fun i x ↦ ⟨x, result i⟩

variable {subjects : List Text} {result : Nat → Except Error Classification}

theorem length_rows : (rows subjects result).length = subjects.length :=
  List.length_mapIdx

theorem getElem_rows {i : Nat} (hi : i < subjects.length) (hr : i < (rows subjects result).length) :
    (rows subjects result)[i] = ⟨subjects[i], result i⟩ :=
  List.getElem_mapIdx

def Row.outcome (r : Row) : Text × Option Outcome := (r.subject, some (r.result.map some))

theorem ofOutcomes_rows (rs : List Row) (h : ∀ r ∈ rs, IsAnswer r.result) :
    Ending.ofOutcomes (rs.map Row.outcome) = .verdicts rs := by
  induction rs with
  | nil => rfl
  | cons r rs ih =>
    obtain ⟨x, result⟩ := r
    have hrest := ih fun r hr ↦ h r (List.mem_cons_of_mem _ hr)
    cases result with
    | ok c => simp only [List.map_cons, Row.outcome, Except.map, Ending.ofOutcomes, hrest]
    | error e =>
      have he : e.isAnswer = true := h ⟨x, .error e⟩ List.mem_cons_self
      simp only [List.map_cons, Row.outcome, Except.map, Ending.ofOutcomes, he, if_true, hrest]

theorem zip_eq_map_rows {outcomes : List (Option Outcome)}
    (hlen : outcomes.length = subjects.length)
    (h : ∀ i < subjects.length, outcomes[i]? = some (some ((result i).map some))) :
    subjects.zip outcomes = (rows subjects result).map Row.outcome := by
  apply List.ext_getElem
  · rw [List.length_zip, List.length_map, length_rows, hlen, Nat.min_self]
  · intro i hi _
    rw [List.length_zip] at hi
    have hlt : i < subjects.length := by omega
    have hlt' : i < outcomes.length := by omega
    have hout : outcomes[i] = some ((result i).map some) :=
      (List.getElem?_eq_some_iff.1 (h i hlt)).2
    simp only [List.getElem_zip, hout, List.getElem_map, getElem_rows hlt, Row.outcome]

theorem ofOutcomes_eq_rows {outcomes : List (Option Outcome)}
    (hlen : outcomes.length = subjects.length)
    (h : ∀ i < subjects.length, outcomes[i]? = some (some ((result i).map some)))
    (ha : ∀ i < subjects.length, IsAnswer (result i)) :
    Ending.ofOutcomes (subjects.zip outcomes) = .verdicts (rows subjects result) := by
  rw [zip_eq_map_rows hlen h]
  apply ofOutcomes_rows
  intro r hr
  obtain ⟨i, hi, rfl⟩ := List.mem_iff_getElem.1 hr
  have hlt : i < subjects.length := length_rows ▸ hi
  rw [getElem_rows hlt]
  exact ha i hlt

def Refuses (term : Terminal) (rs : List Row) : Prop := ∃ r ∈ rs, ∃ t ∈ r.cells, ∃ x, term t = .error x

section mapM

variable {α β ε : Type} {f : α → Except ε β} {g : α → β} {x : α} {xs : List α} {y : β} {ys : List β}

end mapM

variable {term : Terminal} {rs : List Row}

end VerdictClient.CommandLine
