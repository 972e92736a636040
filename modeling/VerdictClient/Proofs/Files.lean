import Mathlib.Data.List.Flatten
import Mathlib.Logic.Basic
import VerdictClient.Files

namespace VerdictClient

namespace Path

abbrev slash : CodePoint := .char '/'

variable {path : Text} {ps qs : List Text}

theorem split_eq_splitOn (t : Text) : split t = t.splitOn slash := by
  induction t with
  | nil => rfl
  | cons c t ih =>
    obtain ⟨p, ps, hp⟩ := List.exists_cons_of_ne_nil (List.splitOn_ne_nil slash t)
    simp only [split, ih, List.splitOn_cons_eq_if_modifyHead, beq_iff_eq]
    rw [hp, List.modifyHead_cons]

@[simp]
theorem split_cons_slash (t : Text) : split (slash :: t) = [] :: split t := by
  rw [split_eq_splitOn, split_eq_splitOn, List.splitOn_cons_eq_if_modifyHead, if_pos BEq.rfl]

theorem slash_not_mem_split (t : Text) : ∀ p ∈ split t, slash ∉ p := by
  induction t with
  | nil => simp [split]
  | cons c t ih =>
    by_cases hc : c = slash
    · subst hc
      rw [split_cons_slash]
      exact List.forall_mem_cons.2 ⟨List.not_mem_nil, ih⟩
    · obtain ⟨p, ps, hp⟩ := List.exists_cons_of_ne_nil (List.splitOn_ne_nil slash t)
      rw [split_eq_splitOn] at ih ⊢
      rw [List.splitOn_cons_eq_if_modifyHead, if_neg (by simpa using hc), hp, List.modifyHead_cons]
      rw [hp] at ih
      obtain ⟨hhead, htail⟩ := List.forall_mem_cons.1 ih
      exact List.forall_mem_cons.2 ⟨by simp [hhead, Ne.symm hc], htail⟩

theorem intercalate_split (t : Text) : Text.intercalate [slash] (split t) = t := by
  rw [split_eq_splitOn]
  exact List.intercalate_splitOn slash

theorem split_intercalate (h : ∀ p ∈ ps, slash ∉ p) (hne : ps ≠ []) :
    split (Text.intercalate [slash] ps) = ps := by
  rw [split_eq_splitOn]
  exact List.splitOn_intercalate slash h hne

theorem intercalate_cons {s p : Text} (hne : ps ≠ []) :
    Text.intercalate s (p :: ps) = p ++ (s ++ Text.intercalate s ps) :=
  (List.intercalate_cons_of_ne_nil hne).trans (List.append_assoc ..)

theorem intercalate_singleton {s p : Text} : Text.intercalate s [p] = p :=
  List.intercalate_singleton

theorem intercalate_sublist {s : Text} (h : ps.Sublist qs) :
    (Text.intercalate s ps).Sublist (Text.intercalate s qs) := by
  induction h with
  | slnil => exact .slnil
  | @cons ps qs q h ih =>
    rcases eq_or_ne qs [] with rfl | hne
    · rw [List.sublist_nil.1 h]
      exact List.nil_sublist _
    · rw [intercalate_cons hne]
      exact ((ih.trans (List.sublist_append_right _ _)).trans (List.sublist_append_right _ _))
  | @cons_cons ps qs q h ih =>
    rcases eq_or_ne ps [] with rfl | hne
    · rcases eq_or_ne qs [] with rfl | hne'
      · exact List.Sublist.refl _
      · rw [intercalate_singleton, intercalate_cons hne']
        exact List.sublist_append_left _ _
    · have hne' : qs ≠ [] := fun he ↦ hne (List.sublist_nil.1 (he ▸ h))
      rw [intercalate_cons hne, intercalate_cons hne']
      exact (List.Sublist.refl _).append ((List.Sublist.refl _).append ih)

theorem exists_rest (path : Text) : ∃ k rest, root path = List.replicate k slash ∧
    path = List.replicate k slash ++ rest ∧ (k = 0 → ∀ t, path ≠ slash :: t) := by
  unfold root
  split
  · split
    · exact ⟨1, _, rfl, rfl, by simp⟩
    · exact ⟨2, _, rfl, rfl, by simp⟩
  · exact ⟨2, [], rfl, rfl, by simp⟩
  · exact ⟨1, _, rfl, rfl, by simp⟩
  · next h => exact ⟨0, path, rfl, rfl, fun _ t ht ↦ h t ht⟩

theorem split_replicate (k : Nat) (t : Text) :
    split (List.replicate k slash ++ t) = List.replicate k [] ++ split t := by
  induction k with
  | zero => rfl
  | succ k ih => simp only [List.replicate_succ, List.cons_append, split_cons_slash, ih]

theorem parts_replicate (k : Nat) (t : Text) : parts (List.replicate k slash ++ t) = parts t := by
  induction k with
  | zero => rfl
  | succ k ih =>
    rw [List.replicate_succ, List.cons_append, parts, split_cons_slash]
    exact ih

theorem mem_parts {p : Text} (h : p ∈ parts path) : p ≠ [] ∧ slash ∉ p := by
  obtain ⟨hp, he⟩ := List.mem_filter.1 h
  refine ⟨?_, slash_not_mem_split path p hp⟩
  rintro rfl
  cases he

theorem normal_eq (h : parts path ≠ []) :
    normal path = root path ++ Text.intercalate [slash] (parts path) := by
  obtain ⟨p, ps, hp⟩ := List.exists_cons_of_ne_nil h
  have hne : p ≠ [] := (mem_parts (hp ▸ List.mem_cons_self)).1
  have hi : Text.intercalate [slash] (parts path) ≠ [] := by
    rw [hp]
    rcases eq_or_ne ps [] with rfl | hps
    · rwa [intercalate_singleton]
    · rw [intercalate_cons hps]
      exact List.append_ne_nil_of_left_ne_nil hne _
  simp only [normal, List.isEmpty_iff, List.append_eq_nil_iff, hi, and_false, if_false]

theorem normal_ne_nil (path : Text) : normal path ≠ [] := by
  simp only [normal]
  split
  · exact List.cons_ne_nil _ _
  · next h => exact fun he ↦ h (List.isEmpty_iff.2 he)

theorem normal_sublist (h : parts path ≠ []) : (normal path).Sublist path := by
  rw [normal_eq h]
  obtain ⟨k, rest, hr, hp, -⟩ := exists_rest path
  have hparts : parts path = parts rest := by rw [hp, parts_replicate]
  have hrest : (Text.intercalate [slash] (parts rest)).Sublist rest := by
    have hsub := intercalate_sublist (s := [slash])
      (List.filter_sublist (p := fun p ↦ !isEmptyPart p) (l := split rest))
    rwa [intercalate_split] at hsub
  rw [hr, hparts]
  have hsub := (List.Sublist.refl (List.replicate k slash)).append hrest
  rwa [← hp] at hsub

theorem split_normal (h : parts path ≠ []) :
    ∃ k, split (normal path) = List.replicate k [] ++ parts path := by
  obtain ⟨k, rest, hr, -⟩ := exists_rest path
  refine ⟨k, ?_⟩
  rw [normal_eq h, hr, split_replicate, split_intercalate (fun p hp ↦ (mem_parts hp).2) h]

theorem root_isEmpty_iff (path : Text) : (root path).isEmpty = true ↔ ∀ t, path ≠ slash :: t := by
  obtain ⟨k, rest, hr, hp, hk⟩ := exists_rest path
  rw [hr]
  cases k with
  | zero => exact ⟨fun _ ↦ hk rfl, fun _ ↦ rfl⟩
  | succ k => exact ⟨fun he ↦ (by cases he), fun he ↦ absurd hp (he _)⟩

theorem root_normal (h : parts path ≠ []) : (root (normal path)).isEmpty = (root path).isEmpty := by
  rw [Bool.eq_iff_iff, root_isEmpty_iff]
  rw [normal_eq h]
  obtain ⟨k, rest, hr, -, -⟩ := exists_rest path
  rw [hr]
  cases k with
  | succ k => exact ⟨fun he ↦ absurd rfl (he _), fun he ↦ (by cases he)⟩
  | zero =>
    refine ⟨fun _ ↦ rfl, fun _ t ht ↦ ?_⟩
    -- A text that begins with a slash has an empty first part.
    have hs := split_intercalate (fun p hp ↦ (mem_parts hp).2) h
    rw [List.replicate_zero, List.nil_append] at ht
    rw [ht, split_cons_slash] at hs
    exact (mem_parts (hs ▸ List.mem_cons_self)).1 rfl

theorem length_octets_le {s t : Text} (h : s.Sublist t) : (octets s).length ≤ (octets t).length :=
  (h.flatMap _).length_le

theorem fault?_eq_none_iff : fault? path = none ↔
    (∀ c ∈ path, (c.isChar || isOctet c) = true) ∧ .char '\x00' ∉ path := by
  have hall : Utf8.EncodeError.find? (fun c ↦ !(c.isChar || isOctet c)) path = none ↔
      ∀ c ∈ path, (c.isChar || isOctet c) = true := by
    rw [Utf8.EncodeError.find?_eq_none_iff (fun c hc ↦ by simp_all)]
    simp only [Bool.not_eq_false']
  unfold fault?
  split
  · next e he =>
    refine ⟨nofun, fun h ↦ ?_⟩
    rw [hall.2 h.1] at he
    cases he
  · next hn =>
    rw [hall] at hn
    by_cases h0 : CodePoint.char '\x00' ∈ path
    · simp [h0]
    · simpa [h0] using hn

theorem fault?_of_sublist {s t : Text} (h : s.Sublist t) (ht : fault? t = none) : fault? s = none := by
  rw [fault?_eq_none_iff] at ht ⊢
  exact ⟨fun c hc ↦ ht.1 c (h.mem hc), fun hc ↦ ht.2 (h.mem hc)⟩

end Path

namespace FileSystem

variable {fs : FileSystem} {path : Text} {c : Bytes}

theorem walk_skip {p : Text} (hp : Path.isEmptyPart p = true) (here ps : List Text) :
    fs.walk here (p :: ps) = fs.walk here ps := by
  rw [walk, if_pos hp]

/-- A walk to a file passes over empty parts. -/
theorem walk_filter {here ps : List Text} (h : fs.walk here ps = .file c) :
    fs.walk here (ps.filter fun p ↦ !Path.isEmptyPart p) = .file c := by
  induction ps generalizing here with
  | nil => exact h
  | cons p ps ih =>
    by_cases hp : Path.isEmptyPart p = true
    · rw [walk_skip hp] at h
      rw [List.filter_cons_of_neg (by simp [hp])]
      exact ih h
    · rw [List.filter_cons_of_pos (by simp [hp])]
      simp only [walk, if_neg hp] at h ⊢
      split at h
      · next hup =>
        rw [if_pos hup]
        exact ih h
      · next hup =>
        rw [if_neg hup]
        split at h
        · cases h
        · next hlen =>
          rw [if_neg hlen]
          cases hc : fs.content? (here ++ [p]) with
          | some content =>
            simp only [hc] at h ⊢
            cases ps with
            | nil => exact h
            | cons q qs => cases h
          | none =>
            simp only [hc] at h ⊢
            split at h
            · next hd =>
              rw [if_pos hd]
              exact ih h
            · cases h

theorem walk_replicate (here : List Text) (k : Nat) (ps : List Text) :
    fs.walk here (List.replicate k [] ++ ps) = fs.walk here ps := by
  induction k with
  | zero => rfl
  | succ k ih =>
    rw [List.replicate_succ, List.cons_append, walk_skip rfl]
    exact ih

theorem read_eq_ok_iff : fs.read path = .ok c ↔
    Path.fault? path = none ∧ fs.find path = .file c := by
  unfold read
  cases Path.fault? path with
  | some e => simp
  | none => cases fs.find path <;> simp

theorem find_eq_file_iff : fs.find path = .file c ↔ path ≠ [] ∧
    (Path.octets path).length ≤ Path.sizeLimit ∧
    fs.walk (if (Path.root path).isEmpty then [] else [Path.top]) (Path.split path) = .file c := by
  unfold find
  split
  · next h => simp [List.isEmpty_iff.1 h]
  · next h =>
    rw [List.isEmpty_iff] at h
    split
    · next hl => simp [Nat.not_le.2 hl]
    · next hl => simp [h, Nat.not_lt.1 hl]

/-- A file is found under its path without empty parts too. -/
theorem read_normal (h : fs.read path = .ok c) : fs.read (Path.normal path) = .ok c := by
  obtain ⟨hfault, hfind⟩ := read_eq_ok_iff.1 h
  obtain ⟨-, hlen, hwalk⟩ := find_eq_file_iff.1 hfind
  have hfile := walk_filter hwalk
  have hparts : Path.parts path ≠ [] := by
    intro he
    rw [show (Path.split path).filter (fun p ↦ !Path.isEmptyPart p) = [] from he] at hfile
    cases hfile
  have hsub := Path.normal_sublist hparts
  refine read_eq_ok_iff.2 ⟨Path.fault?_of_sublist hsub hfault, find_eq_file_iff.2 ⟨?_, ?_, ?_⟩⟩
  · exact Path.normal_ne_nil path
  · exact Nat.le_trans (Path.length_octets_le hsub) hlen
  · obtain ⟨k, hk⟩ := Path.split_normal hparts
    rw [Path.root_normal hparts, hk, walk_replicate]
    exact hfile

end FileSystem

end VerdictClient
