import VerdictClient.Json

namespace VerdictClient.Json

variable {limits : Limits} {around : List Frame} {m m' m'' : Machine} {t : Token} {ts : List Token}
  {l : Lexeme} {ls ks : List Lexeme} {n : Nat} {v r : Value}

/-- Wherever these lexemes stand, the machine goes from `m` to `m'` with them. -/
def Takes (limits : Limits) (ls : List Lexeme) (m m' : Machine) : Prop :=
  ∀ ts : List Token, ts.map Token.lexeme = ls → ts.foldlM (Machine.step limits) m = .ok m'

theorem takes_nil : Takes limits [] m m := by
  intro ts hts
  rw [List.map_eq_nil_iff.1 hts]
  rfl

theorem Takes.append (h : Takes limits ls m m') (h' : Takes limits ks m' m'') :
    Takes limits (ls ++ ks) m m'' := by
  intro ts hts
  obtain ⟨ts₁, ts₂, rfl, h₁, h₂⟩ := List.map_eq_append_iff.1 hts
  rw [List.foldlM_append, h ts₁ h₁]
  exact h' ts₂ h₂

theorem takes_singleton (h : ∀ position, m.step limits ⟨position, l⟩ = .ok m') :
    Takes limits [l] m m' := by
  intro ts hts
  obtain ⟨t, rfl, rfl⟩ := List.map_eq_singleton_iff.1 hts
  rw [List.foldlM_cons, h t.position]
  rfl

theorem exists_of_foldlM_cons (h : (t :: ts).foldlM (Machine.step limits) m = .ok m') :
    ∃ m₁, m.step limits t = .ok m₁ ∧ ts.foldlM (Machine.step limits) m₁ = .ok m' := by
  rw [List.foldlM_cons] at h
  cases ht : m.step limits t with
  | error e =>
    rw [ht] at h
    cases h
  | ok m₁ =>
    rw [ht] at h
    exact ⟨m₁, rfl, h⟩

theorem Takes.eq_of_nil (h : Takes limits [] m m') : m = m' := Except.ok.inj (h [] rfl)

theorem Takes.exists_of_cons (h : Takes limits (l :: ls) m m') :
    ∃ m₁, m.step limits ⟨0, l⟩ = .ok m₁ ∧ Takes limits ls m₁ m' := by
  have hls := h (⟨0, l⟩ :: ls.map (Token.mk 0)) (by simp [Function.comp_def])
  obtain ⟨m₁, hl, -⟩ := exists_of_foldlM_cons hls
  refine ⟨m₁, hl, fun ts hts ↦ ?_⟩
  obtain ⟨m₂, hl', hrest⟩ := exists_of_foldlM_cons (h (⟨0, l⟩ :: ts) (congrArg (l :: ·) hts))
  cases hl.symm.trans hl'
  exact hrest

theorem takeValue_position {p : Nat} (h : takeValue limits around ⟨p, l⟩ = .ok m) (q : Nat) :
    takeValue limits around ⟨q, l⟩ = .ok m := by
  cases l <;> first | exact h | cases h

theorem takeKey_position {members : List (Text × Value)} {p : Nat}
    (h : takeKey around members ⟨p, l⟩ = .ok m) (q : Nat) : takeKey around members ⟨q, l⟩ = .ok m := by
  cases l <;> first | exact h | cases h

theorem step_position {p : Nat} (h : m.step limits ⟨p, l⟩ = .ok m') (q : Nat) :
    m.step limits ⟨q, l⟩ = .ok m' := by
  unfold Machine.step at h ⊢
  dsimp only at h ⊢
  split at h <;> first | exact h | exact takeValue_position h q | exact takeKey_position h q | cases h

theorem takes_of_foldlM (h : ts.foldlM (Machine.step limits) m = .ok m') :
    Takes limits (ts.map Token.lexeme) m m' := by
  induction ts generalizing m with
  | nil =>
    cases h
    exact takes_nil
  | cons t ts ih =>
    obtain ⟨m₁, ht, hts⟩ := exists_of_foldlM_cons h
    exact (takes_singleton fun q ↦ step_position ht q).append (ih hts)

/-- The members of an object from all that are written, a later one under a key in the place of the first. -/
def collect (xs : List (Text × Value)) : List (Text × Value) := xs.foldl (fun acc x ↦ upsert x.1 x.2 acc) []

def listLexemes (xs : List (List Lexeme)) : List Lexeme :=
  .opening .list :: ([.comma].intercalate xs ++ [.closing .list])

def mapLexemes (xs : List (Text × List Lexeme)) : List Lexeme :=
  .opening .map :: ([.comma].intercalate (xs.map fun x ↦ .text x.1 :: .colon :: x.2) ++ [.closing .map])

/-- Inside `n` containers, the lexemes spell the value. -/
inductive IsValue (limits : Limits) : Nat → List Lexeme → Value → Prop
  | text {n : Nat} {t : Text} : n ≤ limits.aroundScalar → IsValue limits n [.text t] (.text t)
  | scalar {n : Nat} {v : Value} : n ≤ limits.aroundScalar → IsValue limits n [.scalar v] v
  | double {n digits : Nat} {x : Float} : n ≤ limits.aroundScalar →
      IsValue limits n [.double x digits] (.float x)
  | list {n : Nat} {xs : List (List Lexeme × Value)} : n ≤ limits.aroundContainer →
      (∀ x ∈ xs, IsValue limits (n + 1) x.1 x.2) →
      IsValue limits n (listLexemes (xs.map Prod.fst)) (.list (xs.map Prod.snd))
  | map {n : Nat} {xs : List (Text × List Lexeme × Value)} : n ≤ limits.aroundContainer →
      (∀ x ∈ xs, IsValue limits (n + 1) x.2.1 x.2.2) →
      IsValue limits n (mapLexemes (xs.map fun x ↦ (x.1, x.2.1)))
        (.object (collect (xs.map fun x ↦ (x.1, x.2.2))))

theorem intercalate_cons {α : Type} (a : α) (x : List α) (xs : List (List α)) :
    [a].intercalate (x :: xs) = x ++ xs.flatMap (a :: ·) := by
  induction xs generalizing x with
  | nil => simp
  | cons y ys ih =>
    rw [List.intercalate_cons_cons, ih, List.flatMap_cons, List.append_assoc]
    rfl

theorem mem_intercalate {α : Type} {a : α} {sep : List α} {xs : List (List α)} (h : a ∈ sep.intercalate xs) :
    a ∈ sep ∨ ∃ x ∈ xs, a ∈ x := by
  induction xs with
  | nil => cases h
  | cons x xs ih =>
    cases xs with
    | nil =>
      rw [List.intercalate_singleton] at h
      exact .inr ⟨x, List.mem_cons_self, h⟩
    | cons y ys =>
      rw [List.intercalate_cons_cons, List.mem_append, List.mem_append] at h
      obtain (h | h) | h := h
      · exact .inr ⟨x, List.mem_cons_self, h⟩
      · exact .inl h
      · obtain h | ⟨z, hz, h⟩ := ih h
        · exact .inl h
        · exact .inr ⟨z, List.mem_cons_of_mem _ hz, h⟩

theorem mem_intercalate_of_mem {α : Type} {a : α} {sep x : List α} {xs : List (List α)} (hx : x ∈ xs)
    (ha : a ∈ x) : a ∈ sep.intercalate xs := by
  induction xs with
  | nil => cases hx
  | cons y ys ih =>
    rw [List.mem_cons] at hx
    cases ys with
    | nil =>
      obtain rfl | hx := hx
      · rwa [List.intercalate_singleton]
      · cases hx
    | cons z zs =>
      rw [List.intercalate_cons_cons, List.mem_append, List.mem_append]
      obtain rfl | hx := hx
      · exact .inl (.inl ha)
      · exact .inr (ih hx)

def TakesValue (limits : Limits) (n : Nat) (ls : List Lexeme) (v : Value) : Prop :=
  ∀ around : List Frame, around.length = n → Takes limits ls ⟨around, .value⟩ (deliver v around)

theorem takes_items {xs : List (List Lexeme × Value)} (h : ∀ x ∈ xs, TakesValue limits (n + 1) x.1 x.2)
    (hn : around.length = n) (items : List Value) :
    Takes limits ((xs.map Prod.fst).flatMap (.comma :: ·)) ⟨around, .afterItem items⟩
      ⟨around, .afterItem ((xs.map Prod.snd).reverse ++ items)⟩ := by
  induction xs generalizing items with
  | nil => exact takes_nil
  | cons x xs ih =>
    obtain ⟨hx, hxs⟩ := List.forall_mem_cons.1 h
    have hcomma : Takes limits [.comma] ⟨around, .afterItem items⟩ ⟨.item items :: around, .value⟩ :=
      takes_singleton fun _ ↦ rfl
    have hrest := ih hxs (x.2 :: items)
    rw [List.map_cons, List.map_cons, List.flatMap_cons, List.reverse_cons, List.append_assoc]
    exact (hcomma.append (hx _ (congrArg (· + 1) hn))).append hrest

theorem takes_member {x : Text × List Lexeme × Value} (h : TakesValue limits (n + 1) x.2.1 x.2.2)
    (hn : around.length = n) (done : List (Text × Value)) :
    Takes limits (.text x.1 :: .colon :: x.2.1) ⟨around, .nextKey done⟩
      ⟨around, .afterMember (upsert x.1 x.2.2 done)⟩ := by
  have hkey : Takes limits [.text x.1] ⟨around, .nextKey done⟩ ⟨around, .colon done x.1⟩ :=
    takes_singleton fun _ ↦ rfl
  have hcolon : Takes limits [.colon] ⟨around, .colon done x.1⟩
      ⟨.member done x.1 :: around, .value⟩ := takes_singleton fun _ ↦ rfl
  exact (hkey.append hcolon).append (h _ (congrArg (· + 1) hn))

theorem takes_members {xs : List (Text × List Lexeme × Value)}
    (h : ∀ x ∈ xs, TakesValue limits (n + 1) x.2.1 x.2.2) (hn : around.length = n)
    (done : List (Text × Value)) :
    Takes limits (xs.flatMap fun x ↦ .comma :: .text x.1 :: .colon :: x.2.1) ⟨around, .afterMember done⟩
      ⟨around, .afterMember (xs.foldl (fun acc x ↦ upsert x.1 x.2.2 acc) done)⟩ := by
  induction xs generalizing done with
  | nil => exact takes_nil
  | cons x xs ih =>
    obtain ⟨hx, hxs⟩ := List.forall_mem_cons.1 h
    have hcomma : Takes limits [.comma] ⟨around, .afterMember done⟩ ⟨around, .nextKey done⟩ :=
      takes_singleton fun _ ↦ rfl
    rw [List.flatMap_cons]
    exact (hcomma.append (takes_member hx hn done)).append (ih hxs _)

theorem step_firstItem (h : t.lexeme ≠ .closing .list) : Machine.step limits ⟨around, .firstItem⟩ t =
    Machine.step limits ⟨.item [] :: around, .value⟩ t := by
  obtain ⟨position, l⟩ := t
  rcases l with _ | ⟨_ | _⟩ | _ | _ | _ | _ | _ | _ | _ | _ <;> first | rfl | exact absurd rfl h

theorem step_firstKey (h : t.lexeme ≠ .closing .map) : Machine.step limits ⟨around, .firstKey⟩ t =
    Machine.step limits ⟨around, .nextKey []⟩ t := by
  obtain ⟨position, l⟩ := t
  rcases l with _ | ⟨_ | _⟩ | _ | _ | _ | _ | _ | _ | _ | _ <;> first | rfl | exact absurd rfl h

theorem takes_congr (h : ∀ t : Token, t.lexeme = l → m.step limits t = m'.step limits t) :
    Takes limits (l :: ls) m m'' ↔ Takes limits (l :: ls) m' m'' := by
  refine forall_congr' fun ts ↦ forall_congr' fun hts ↦ ?_
  obtain ⟨t, ts', rfl, ht, -⟩ := List.map_eq_cons_iff.1 hts
  rw [List.foldlM_cons, List.foldlM_cons, h t ht]

theorem takes_firstItem (hl : l ≠ .closing .list) : Takes limits (l :: ls) ⟨around, .firstItem⟩ m ↔
    Takes limits (l :: ls) ⟨.item [] :: around, .value⟩ m :=
  takes_congr fun _ ht ↦ step_firstItem (ht ▸ hl)

theorem takes_firstKey (hl : l ≠ .closing .map) : Takes limits (l :: ls) ⟨around, .firstKey⟩ m ↔
    Takes limits (l :: ls) ⟨around, .nextKey []⟩ m :=
  takes_congr fun _ ht ↦ step_firstKey (ht ▸ hl)

theorem takes_opening (h : n ≤ limits.aroundContainer) (hn : around.length = n) (c : Container) :
    Takes limits [.opening c] ⟨around, .value⟩
      (match c with | .list => ⟨around, .firstItem⟩ | .map => ⟨around, .firstKey⟩) := by
  apply takes_singleton
  intro position
  cases c <;> exact if_neg (Nat.not_lt.2 (hn ▸ h))

theorem takes_scalar (h : n ≤ limits.aroundScalar) (hn : around.length = n) (v : Value) :
    scalar limits around v = .ok (deliver v around) := if_neg (Nat.not_lt.2 (hn ▸ h))

theorem IsValue.exists_cons (h : IsValue limits n ls v) : ∃ l ks, ls = l :: ks ∧ l ≠ .closing .list := by
  cases h <;> exact ⟨_, _, rfl, by simp⟩

theorem IsValue.takes (h : IsValue limits n ls v) : TakesValue limits n ls v := by
  induction h with
  | text h => exact fun around hn ↦ takes_singleton fun _ ↦ takes_scalar h hn _
  | scalar h => exact fun around hn ↦ takes_singleton fun _ ↦ takes_scalar h hn _
  | double h => exact fun around hn ↦ takes_singleton fun _ ↦ takes_scalar h hn _
  | @list n xs h hxs ih =>
    intro around hn
    refine (takes_opening h hn .list).append ?_
    cases xs with
    | nil => exact takes_singleton fun _ ↦ rfl
    | cons x xs =>
      obtain ⟨hx, hrest⟩ := List.forall_mem_cons.1 ih
      obtain ⟨l, ls, hls, hl⟩ := (hxs x List.mem_cons_self).exists_cons
      have hfirst := hx (.item [] :: around) (congrArg (· + 1) hn)
      rw [hls] at hfirst
      replace hfirst := (takes_firstItem hl).2 hfirst
      have hall := hfirst.append (takes_items hrest hn [x.2])
      have hclosing : Takes limits [.closing .list]
          ⟨around, .afterItem ((xs.map Prod.snd).reverse ++ [x.2])⟩
          (deliver (.list ((x :: xs).map Prod.snd)) around) := takes_singleton fun _ ↦ by
        simp [Machine.step]
      rw [List.map_cons, intercalate_cons, hls]
      exact hall.append hclosing
  | @map n xs h hxs ih =>
    intro around hn
    refine (takes_opening h hn .map).append ?_
    cases xs with
    | nil => exact takes_singleton fun _ ↦ rfl
    | cons x xs =>
      obtain ⟨hx, hrest⟩ := List.forall_mem_cons.1 ih
      have hfirst := (takes_firstKey (by simp)).2 (takes_member hx hn [])
      have hall := hfirst.append (takes_members hrest hn _)
      have hclosing : Takes limits [.closing .map]
          ⟨around, .afterMember (xs.foldl (fun acc x ↦ upsert x.1 x.2.2 acc) (upsert x.1 x.2.2 []))⟩
          (deliver (.object (collect ((x :: xs).map fun x ↦ (x.1, x.2.2)))) around) :=
        takes_singleton fun _ ↦ by
          rw [collect, List.foldl_map]
          rfl
      rw [List.map_map, List.map_cons, intercalate_cons, List.flatMap_map]
      exact hall.append hclosing

def Machine.IsDone (m : Machine) : Prop := ∃ r, m.expected = .nothing r

/-- If lexemes are read to the end from where a value is expected, the value comes first. -/
def Completes (limits : Limits) (m' : Machine) (ls : List Lexeme) : Prop :=
  ∀ around, Takes limits ls ⟨around, .value⟩ m' → ∃ ks rest v, ls = ks ++ rest ∧
    IsValue limits around.length ks v ∧ Takes limits rest (deliver v around) m'

variable {items : List Value} {done : List (Text × Value)}

theorem afterItem_cases {p : Nat} (h : Machine.step limits ⟨around, .afterItem items⟩ ⟨p, l⟩ = .ok m) :
    (l = .closing .list ∧ m = deliver (.list items.reverse) around) ∨
    (l = .comma ∧ m = ⟨.item items :: around, .value⟩) := by
  rcases l with _ | ⟨_ | _⟩ | _ | _ | _ | _ | _ | _ | _ | _ <;> cases h
  · exact .inl ⟨rfl, rfl⟩
  · exact .inr ⟨rfl, rfl⟩

theorem afterMember_cases {p : Nat} (h : Machine.step limits ⟨around, .afterMember done⟩ ⟨p, l⟩ = .ok m) :
    (l = .closing .map ∧ m = deliver (.object done) around) ∨ (l = .comma ∧ m = ⟨around, .nextKey done⟩) := by
  rcases l with _ | ⟨_ | _⟩ | _ | _ | _ | _ | _ | _ | _ | _ <;> cases h
  · exact .inl ⟨rfl, rfl⟩
  · exact .inr ⟨rfl, rfl⟩

theorem exists_of_takeKey {p : Nat} (h : takeKey around done ⟨p, l⟩ = .ok m) :
    ∃ key, l = .text key ∧ m = ⟨around, .colon done key⟩ := by
  cases l <;> cases h
  exact ⟨_, rfl, rfl⟩

theorem eq_of_step_colon {p : Nat} {key : Text}
    (h : Machine.step limits ⟨around, .colon done key⟩ ⟨p, l⟩ = .ok m) :
    l = .colon ∧ m = ⟨.member done key :: around, .value⟩ := by
  cases l <;> cases h
  exact ⟨rfl, rfl⟩

theorem not_isDone_of_takes_nil (h : Takes limits [] m m') (hm : m'.IsDone)
    (hne : ∀ r, m.expected ≠ .nothing r) : False := by
  obtain ⟨r, hr⟩ := hm
  exact hne r (h.eq_of_nil ▸ hr)

theorem exists_of_afterItem (hm : m'.IsDone) (ih : ∀ ks, ks.length < n → Completes limits m' ks)
    (hls : ls.length ≤ n) (h : Takes limits ls ⟨around, .afterItem items⟩ m') :
    ∃ (xs : List (List Lexeme × Value)) (rest : List Lexeme),
      ls = (xs.map Prod.fst).flatMap (.comma :: ·) ++ .closing .list :: rest ∧
      (∀ x ∈ xs, IsValue limits (around.length + 1) x.1 x.2) ∧
      Takes limits rest (deliver (.list (items.reverse ++ xs.map Prod.snd)) around) m' := by
  induction hlen : ls.length using Nat.strongRecOn generalizing ls items with
  | ind length ihlen =>
    cases ls with
    | nil => exact (not_isDone_of_takes_nil h hm (by simp)).elim
    | cons l ls =>
      obtain ⟨m₁, hl, hrest⟩ := h.exists_of_cons
      rw [List.length_cons] at hlen hls
      obtain ⟨rfl, rfl⟩ | ⟨rfl, rfl⟩ := afterItem_cases hl
      · exact ⟨[], ls, rfl, by simp, by simpa using hrest⟩
      · obtain ⟨ks, rest, v, rfl, hv, hrest⟩ := ih ls (by omega) _ hrest
        rw [List.length_append] at hlen hls
        obtain ⟨xs, rest, rfl, hxs, hrest⟩ := ihlen rest.length (by omega) (by omega) hrest rfl
        refine ⟨(ks, v) :: xs, rest, by simp, List.forall_mem_cons.2 ⟨hv, hxs⟩, ?_⟩
        simpa using hrest

theorem exists_of_nextKey (hm : m'.IsDone) (ih : ∀ ks, ks.length < n → Completes limits m' ks)
    (hls : ls.length ≤ n) (h : Takes limits ls ⟨around, .nextKey done⟩ m') :
    ∃ (x : Text × List Lexeme × Value) (rest : List Lexeme), ls = .text x.1 :: .colon :: x.2.1 ++ rest ∧
      IsValue limits (around.length + 1) x.2.1 x.2.2 ∧
      Takes limits rest ⟨around, .afterMember (upsert x.1 x.2.2 done)⟩ m' := by
  match ls with
  | [] => exact (not_isDone_of_takes_nil h hm (by simp)).elim
  | l :: ls =>
    obtain ⟨m₁, hl, hcolon⟩ := h.exists_of_cons
    obtain ⟨key, rfl, rfl⟩ := exists_of_takeKey hl
    match ls with
    | [] => exact (not_isDone_of_takes_nil hcolon hm (by simp)).elim
    | l :: ls =>
      obtain ⟨m₂, hl, hvalue⟩ := hcolon.exists_of_cons
      obtain ⟨rfl, rfl⟩ := eq_of_step_colon hl
      simp only [List.length_cons] at hls
      obtain ⟨ks, rest, v, rfl, hv, hrest⟩ := ih ls (by omega) _ hvalue
      exact ⟨(key, ks, v), rest, rfl, hv, hrest⟩

theorem exists_of_afterMember (hm : m'.IsDone) (ih : ∀ ks, ks.length < n → Completes limits m' ks)
    (hls : ls.length ≤ n) (h : Takes limits ls ⟨around, .afterMember done⟩ m') :
    ∃ (xs : List (Text × List Lexeme × Value)) (rest : List Lexeme),
      ls = (xs.flatMap fun x ↦ .comma :: .text x.1 :: .colon :: x.2.1) ++ .closing .map :: rest ∧
      (∀ x ∈ xs, IsValue limits (around.length + 1) x.2.1 x.2.2) ∧
      Takes limits rest (deliver (.object (xs.foldl (fun acc x ↦ upsert x.1 x.2.2 acc) done)) around) m' := by
  induction hlen : ls.length using Nat.strongRecOn generalizing ls done with
  | ind length ihlen =>
    cases ls with
    | nil => exact (not_isDone_of_takes_nil h hm (by simp)).elim
    | cons l ls =>
      obtain ⟨m₁, hl, hrest⟩ := h.exists_of_cons
      rw [List.length_cons] at hlen hls
      obtain ⟨rfl, rfl⟩ | ⟨rfl, rfl⟩ := afterMember_cases hl
      · exact ⟨[], ls, rfl, by simp, hrest⟩
      · obtain ⟨x, rest, rfl, hx, hrest⟩ := exists_of_nextKey hm ih (by omega) hrest
        simp only [List.length_append] at hlen hls
        obtain ⟨xs, rest, rfl, hxs, hrest⟩ := ihlen rest.length (by omega) (by omega) hrest rfl
        refine ⟨x :: xs, rest, by simp, List.forall_mem_cons.2 ⟨hx, hxs⟩, ?_⟩
        simpa using hrest

theorem value_cases {p : Nat} (h : Machine.step limits ⟨around, .value⟩ ⟨p, l⟩ = .ok m) :
    (∃ v, IsValue limits around.length [l] v ∧ m = deliver v around) ∨
    (∃ c, l = .opening c ∧ around.length ≤ limits.aroundContainer ∧
      m = match c with | .list => ⟨around, .firstItem⟩ | .map => ⟨around, .firstKey⟩) := by
  have hscalar {v : Value} (h : scalar limits around v = .ok m) :
      around.length ≤ limits.aroundScalar ∧ m = deliver v around := by
    unfold scalar at h
    split at h
    · cases h
    · next hn => exact ⟨Nat.not_lt.1 hn, (Except.ok.inj h).symm⟩
  cases l with
  | text t =>
    obtain ⟨hn, rfl⟩ := hscalar h
    exact .inl ⟨_, .text hn, rfl⟩
  | scalar v =>
    obtain ⟨hn, rfl⟩ := hscalar h
    exact .inl ⟨_, .scalar hn, rfl⟩
  | double x digits =>
    obtain ⟨hn, rfl⟩ := hscalar h
    exact .inl ⟨_, .double hn, rfl⟩
  | opening c =>
    refine .inr ⟨c, rfl, ?_⟩
    replace h : takeValue limits around ⟨p, .opening c⟩ = .ok m := h
    simp only [takeValue] at h
    split at h
    · cases h
    · next hn =>
      refine ⟨Nat.not_lt.1 hn, ?_⟩
      cases c <;> exact (Except.ok.inj h).symm
  | closing | colon | comma | oversized | broken | junk => cases h

theorem completes_list (hm : m'.IsDone) (ih : ∀ ks, ks.length < n → Completes limits m' ks)
    (hls : ls.length < n) (hn : around.length ≤ limits.aroundContainer)
    (h : Takes limits ls ⟨around, .firstItem⟩ m') : ∃ ks rest v, .opening .list :: ls = ks ++ rest ∧
      IsValue limits around.length ks v ∧ Takes limits rest (deliver v around) m' := by
  cases ls with
  | nil => exact (not_isDone_of_takes_nil h hm (by simp)).elim
  | cons l ls =>
    by_cases hl : l = .closing .list
    · subst hl
      obtain ⟨m₁, hm₁, hrest⟩ := h.exists_of_cons
      cases hm₁
      exact ⟨_, ls, _, rfl, @IsValue.list limits _ [] hn (by simp), hrest⟩
    · obtain ⟨ks, rest, v, hls', hv, hrest⟩ := ih _ hls _ ((takes_firstItem hl).1 h)
      have hlen : rest.length ≤ n := by
        rw [hls', List.length_append] at hls
        omega
      obtain ⟨xs, rest, rfl, hxs, hrest⟩ := exists_of_afterItem hm ih hlen hrest
      have hall := @IsValue.list limits _ ((ks, v) :: xs) hn (List.forall_mem_cons.2 ⟨hv, hxs⟩)
      refine ⟨_, rest, _, ?_, hall, hrest⟩
      rw [hls', listLexemes, List.map_cons, intercalate_cons]
      simp

theorem completes_map (hm : m'.IsDone) (ih : ∀ ks, ks.length < n → Completes limits m' ks)
    (hls : ls.length ≤ n) (hn : around.length ≤ limits.aroundContainer)
    (h : Takes limits ls ⟨around, .firstKey⟩ m') : ∃ ks rest v, .opening .map :: ls = ks ++ rest ∧
      IsValue limits around.length ks v ∧ Takes limits rest (deliver v around) m' := by
  cases ls with
  | nil => exact (not_isDone_of_takes_nil h hm (by simp)).elim
  | cons l ls =>
    by_cases hl : l = .closing .map
    · subst hl
      obtain ⟨m₁, hm₁, hrest⟩ := h.exists_of_cons
      cases hm₁
      exact ⟨_, ls, _, rfl, @IsValue.map limits _ [] hn (by simp), hrest⟩
    · obtain ⟨x, rest, hls', hx, hrest⟩ := exists_of_nextKey hm ih hls ((takes_firstKey hl).1 h)
      have hlen : rest.length ≤ n := by
        rw [hls', List.length_append] at hls
        omega
      obtain ⟨xs, rest, rfl, hxs, hrest⟩ := exists_of_afterMember hm ih hlen hrest
      have hall := @IsValue.map limits _ (x :: xs) hn (List.forall_mem_cons.2 ⟨hx, hxs⟩)
      refine ⟨_, rest, _, ?_, hall, ?_⟩
      · rw [hls', mapLexemes, List.map_map, List.map_cons, intercalate_cons, List.flatMap_map]
        simp
      · rw [collect, List.foldl_map]
        exact hrest

theorem completes (hm : m'.IsDone) (ls : List Lexeme) : Completes limits m' ls := by
  induction hlen : ls.length using Nat.strongRecOn generalizing ls with
  | ind n ihlen =>
    intro around h
    have ih (ks : List Lexeme) (hks : ks.length < n) : Completes limits m' ks := ihlen ks.length hks ks rfl
    cases ls with
    | nil => exact (not_isDone_of_takes_nil h hm (by simp)).elim
    | cons l ls =>
      rw [List.length_cons] at hlen
      obtain ⟨m₁, hl, hrest⟩ := h.exists_of_cons
      obtain ⟨v, hv, rfl⟩ | ⟨c, rfl, hn, rfl⟩ := value_cases hl
      · exact ⟨[l], ls, v, rfl, hv, hrest⟩
      · cases c with
        | list => exact completes_list hm ih (by omega) hn hrest
        | map => exact completes_map hm ih (by omega) hn hrest

/-- The machine reads just what lexemes spell. -/
theorem takes_start_iff :
    (∃ m', m'.expected = .nothing v ∧ Takes limits ls .start m') ↔ IsValue limits 0 ls v := by
  refine ⟨fun ⟨m', hv, h⟩ ↦ ?_, fun h ↦ ⟨_, rfl, h.takes [] rfl⟩⟩
  obtain ⟨ks, rest, w, rfl, hw, hrest⟩ := completes ⟨v, hv⟩ ls [] h
  cases rest with
  | nil =>
    rw [← hrest.eq_of_nil] at hv
    cases hv
    rwa [List.append_nil]
  | cons l rest =>
    obtain ⟨m₁, hl, -⟩ := hrest.exists_of_cons
    cases hl

theorem exists_of_ofTokens (h : ofTokens limits n ts = .ok v) :
    ∃ m', ts.foldlM (Machine.step limits) .start = .ok m' ∧ m'.finish n = .ok v := by
  unfold ofTokens at h
  cases hts : ts.foldlM (Machine.step limits) .start with
  | error e =>
    rw [hts] at h
    cases h
  | ok m' =>
    rw [hts] at h
    exact ⟨m', rfl, h⟩

theorem expected_of_finish (h : m.finish n = .ok v) : m.expected = .nothing v := by
  unfold Machine.finish at h
  split at h
  · next r hr =>
    cases h
    exact hr
  all_goals cases h

/-- What the tokens of a text are read as is what their lexemes spell. -/
theorem ofTokens_eq_ok_iff : ofTokens limits n ts = .ok v ↔ IsValue limits 0 (ts.map Token.lexeme) v := by
  rw [← takes_start_iff]
  constructor
  · intro h
    obtain ⟨m', hts, hv⟩ := exists_of_ofTokens h
    exact ⟨m', expected_of_finish hv, takes_of_foldlM hts⟩
  · rintro ⟨m', hv, h⟩
    rw [ofTokens, h ts rfl]
    change m'.finish n = .ok v
    rw [Machine.finish, hv]

end VerdictClient.Json
