/-!
# Finite maps in key order

A table is a list of entries with strictly ascending keys, so two tables with the
same entries are the same table. The view is `find?`; every operation comes with
the equation that says what it does to the view.
-/
set_option autoImplicit false
namespace SkillScript

structure Table (κ α : Type) [Ord κ] where
  entries : List (κ × α)
  ascending : entries.Pairwise (fun a b => compare a.1 b.1 = .lt)

namespace Table

variable {κ α : Type} [Ord κ]

def empty : Table κ α :=
  ⟨[], .nil⟩

instance : EmptyCollection (Table κ α) := ⟨empty⟩
instance : Inhabited (Table κ α) := ⟨empty⟩

def size (t : Table κ α) : Nat :=
  t.entries.length

def isEmpty (t : Table κ α) : Bool :=
  t.entries.isEmpty

def keys (t : Table κ α) : List κ :=
  t.entries.map Prod.fst

def values (t : Table κ α) : List α :=
  t.entries.map Prod.snd

def findIn (k : κ) : List (κ × α) → Option α
  | [] => none
  | (k', a) :: rest => if compare k k' = .eq then some a else findIn k rest

def find? (t : Table κ α) (k : κ) : Option α :=
  findIn k t.entries

def contains (t : Table κ α) (k : κ) : Bool :=
  (t.find? k).isSome

def insertIn (k : κ) (a : α) : List (κ × α) → List (κ × α)
  | [] => [(k, a)]
  | (k', a') :: rest =>
    match compare k k' with
    | .lt => (k, a) :: (k', a') :: rest
    | .eq => (k, a) :: rest
    | .gt => (k', a') :: insertIn k a rest

theorem mem_insertIn {k : κ} {a : α} {l : List (κ × α)} {e : κ × α}
    (h : e ∈ insertIn k a l) : e = (k, a) ∨ e ∈ l := by
  induction l with
  | nil => exact Or.inl (by simpa [insertIn] using h)
  | cons head rest ih =>
    simp only [insertIn] at h
    split at h
    · simpa using h
    · rcases List.mem_cons.1 h with h | h
      · exact Or.inl h
      · exact Or.inr (List.mem_cons_of_mem _ h)
    · rcases List.mem_cons.1 h with h | h
      · exact Or.inr (h ▸ List.mem_cons_self ..)
      · exact (ih h).imp id (List.mem_cons_of_mem _)

variable [Std.TransOrd κ] [Std.LawfulEqOrd κ]

theorem insertIn_ascending (k : κ) (a : α) {l : List (κ × α)}
    (h : l.Pairwise (fun a b => compare a.1 b.1 = .lt)) :
    (insertIn k a l).Pairwise (fun a b => compare a.1 b.1 = .lt) := by
  induction l with
  | nil => simp [insertIn]
  | cons head rest ih =>
    obtain ⟨k', a'⟩ := head
    obtain ⟨hhead, hrest⟩ := List.pairwise_cons.1 h
    simp only [insertIn]
    split
    · rename_i hlt
      refine List.pairwise_cons.2 ⟨fun e he => ?_, h⟩
      rcases List.mem_cons.1 he with he | he
      · exact he ▸ hlt
      · exact Std.TransCmp.lt_trans hlt (hhead e he)
    · rename_i heq
      have hk : k = k' := Std.LawfulEqCmp.compare_eq_iff_eq.1 heq
      exact List.pairwise_cons.2 ⟨fun e he => hk ▸ hhead e he, hrest⟩
    · rename_i hgt
      refine List.pairwise_cons.2 ⟨fun e he => ?_, ih hrest⟩
      rcases mem_insertIn he with he | he
      · exact he ▸ Std.OrientedCmp.gt_iff_lt.1 hgt
      · exact hhead e he

def insert (t : Table κ α) (k : κ) (a : α) : Table κ α :=
  ⟨insertIn k a t.entries, insertIn_ascending k a t.ascending⟩

def erase (t : Table κ α) (k : κ) : Table κ α :=
  ⟨t.entries.filter (fun e => compare k e.1 ≠ .eq), t.ascending.filter _⟩

def filter (t : Table κ α) (p : α → Bool) : Table κ α :=
  ⟨t.entries.filter (fun e => p e.2), t.ascending.filter _⟩

/-- Changes the value of `k`; without such an entry nothing happens. -/
def modify (t : Table κ α) (k : κ) (f : α → α) : Table κ α :=
  match t.find? k with
  | some a => t.insert k (f a)
  | none => t

def map {β : Type} (t : Table κ α) (f : α → β) : Table κ β :=
  ⟨t.entries.map (fun e => (e.1, f e.2)), by
    rw [List.pairwise_map]
    exact t.ascending⟩

def insertMany (t : Table κ α) (l : List (κ × α)) : Table κ α :=
  l.foldl (fun t e => t.insert e.1 e.2) t

def ofList (l : List (κ × α)) : Table κ α :=
  empty.insertMany l

/-- Adds every entry of `other`, which wins where both bind a key. -/
def union (t other : Table κ α) : Table κ α :=
  t.insertMany other.entries

omit [Std.TransOrd κ] in
theorem findIn_insertIn [DecidableEq κ] (k j : κ) (a : α) (l : List (κ × α)) :
    findIn j (insertIn k a l) = if j = k then some a else findIn j l := by
  induction l with
  | nil => simp [insertIn, findIn, Std.LawfulEqCmp.compare_eq_iff_eq]
  | cons head rest ih =>
    obtain ⟨k', a'⟩ := head
    simp only [insertIn]
    split
    · simp [findIn, Std.LawfulEqCmp.compare_eq_iff_eq]
    · rename_i heq
      have hk : k = k' := Std.LawfulEqCmp.compare_eq_iff_eq.1 heq
      subst hk
      by_cases hj : j = k <;> simp [findIn, Std.LawfulEqCmp.compare_eq_iff_eq, hj]
    · rename_i hgt
      have hk : k ≠ k' := by
        intro h
        have heq : compare k k' = .eq := Std.LawfulEqCmp.compare_eq_iff_eq.2 h
        rw [heq] at hgt
        contradiction
      by_cases hj : j = k
      · subst hj
        simp [findIn, Std.LawfulEqCmp.compare_eq_iff_eq, hk, ih]
      · simp [findIn, Std.LawfulEqCmp.compare_eq_iff_eq, hj, ih]

theorem find?_insert [DecidableEq κ] (t : Table κ α) (k j : κ) (a : α) :
    (t.insert k a).find? j = if j = k then some a else t.find? j :=
  findIn_insertIn k j a t.entries

omit [Std.TransOrd κ] [Std.LawfulEqOrd κ] in
theorem find?_empty (k : κ) : (empty : Table κ α).find? k = none := rfl

theorem find?_modify [DecidableEq κ] (t : Table κ α) (k j : κ) (f : α → α) :
    (t.modify k f).find? j = if j = k then (t.find? k).map f else t.find? j := by
  unfold modify
  cases found : t.find? k with
  | none =>
    by_cases here : j = k
    · simp [here, found]
    · simp [here]
  | some a => simp [find?_insert]

omit [Std.TransOrd κ] [Std.LawfulEqOrd κ] in
theorem findIn_map {β : Type} (f : α → β) (k : κ) (l : List (κ × α)) :
    findIn k (l.map fun e => (e.1, f e.2)) = (findIn k l).map f := by
  induction l with
  | nil => rfl
  | cons e rest ih =>
    simp only [List.map_cons, findIn, ih]
    split <;> rfl

omit [Std.TransOrd κ] [Std.LawfulEqOrd κ] in
theorem find?_map {β : Type} (t : Table κ α) (f : α → β) (k : κ) :
    (t.map f).find? k = (t.find? k).map f :=
  findIn_map f k t.entries

omit [Std.TransOrd κ] [Std.LawfulEqOrd κ] in
/-- What is found is an entry. -/
theorem mem_of_findIn {k : κ} {a : α} {l : List (κ × α)} (found : findIn k l = some a) :
    ∃ k', compare k k' = .eq ∧ (k', a) ∈ l := by
  induction l with
  | nil => cases found
  | cons e rest ih =>
    simp only [findIn] at found
    split at found
    · rename_i same
      cases found
      exact ⟨e.1, same, List.mem_cons_self ..⟩
    · obtain ⟨k', same, member⟩ := ih found
      exact ⟨k', same, List.mem_cons_of_mem _ member⟩

omit [Std.TransOrd κ] in
/-- What is an entry is found. -/
theorem findIn_of_mem {k : κ} {a : α} {l : List (κ × α)}
    (ascending : l.Pairwise (fun a b => compare a.1 b.1 = .lt)) (member : (k, a) ∈ l) :
    findIn k l = some a := by
  induction l with
  | nil => cases member
  | cons e rest ih =>
    obtain ⟨above, ascending⟩ := List.pairwise_cons.mp ascending
    rcases List.mem_cons.mp member with rfl | later
    · simp [findIn]
    · have order := above (k, a) later
      have apart : compare k e.1 ≠ .eq := by
        intro same
        have here : e.1 = k := (Std.LawfulEqCmp.compare_eq_iff_eq.mp same).symm
        have equal : compare e.1 k = .eq := Std.LawfulEqCmp.compare_eq_iff_eq.mpr here
        rw [equal] at order
        cases order
      rw [findIn, if_neg apart]
      exact ih ascending later

omit [Std.TransOrd κ] in
theorem mem_values_iff (t : Table κ α) (a : α) :
    a ∈ t.values ↔ ∃ k, t.find? k = some a := by
  constructor
  · intro member
    obtain ⟨e, inside, rfl⟩ := List.mem_map.mp member
    exact ⟨e.1, findIn_of_mem t.ascending inside⟩
  · rintro ⟨k, found⟩
    obtain ⟨k', _, inside⟩ := mem_of_findIn found
    exact List.mem_map.mpr ⟨(k', a), inside, rfl⟩

omit [Std.TransOrd κ] in
theorem findIn_filter (p : α → Bool) (k : κ) {l : List (κ × α)}
    (ascending : l.Pairwise (fun a b => compare a.1 b.1 = .lt)) :
    findIn k (l.filter fun e => p e.2) = (findIn k l).filter p := by
  induction l with
  | nil => rfl
  | cons e rest ih =>
    obtain ⟨above, ascending⟩ := List.pairwise_cons.mp ascending
    have later := ih ascending
    by_cases same : compare k e.1 = .eq
    · -- No later entry has the key of the first one.
      have absent : findIn k (rest.filter fun e => p e.2) = none := by
        rw [Option.eq_none_iff_forall_ne_some]
        intro a found
        obtain ⟨k', same', member⟩ := mem_of_findIn found
        have order := above (k', a) (List.mem_filter.mp member).1
        have here : e.1 = k := (Std.LawfulEqCmp.compare_eq_iff_eq.mp same).symm
        rw [here, same'] at order
        cases order
      by_cases passes : p e.2 = true
      · simp [findIn, same, passes, Option.filter]
      · simp [findIn, same, passes, absent, Option.filter]
    · by_cases passes : p e.2 = true
      · simp [findIn, same, passes, later]
      · simp [findIn, same, passes, later]

omit [Std.TransOrd κ] in
theorem find?_filter (t : Table κ α) (p : α → Bool) (k : κ) :
    (t.filter p).find? k = (t.find? k).filter p :=
  findIn_filter p k t.ascending

omit [Std.TransOrd κ] [Std.LawfulEqOrd κ] in
/-- Behind an entry there is no other of its key. -/
theorem findIn_behind {k : κ} {a : α} {l : List (κ × α)}
    (ascending : ((k, a) :: l).Pairwise (fun a b => compare a.1 b.1 = .lt)) :
    findIn k l = none := by
  rw [Option.eq_none_iff_forall_ne_some]
  intro b found
  obtain ⟨k', same, member⟩ := mem_of_findIn found
  have order := (List.pairwise_cons.mp ascending).1 (k', b) member
  rw [same] at order
  cases order

theorem find?_insertMany [DecidableEq κ] (t : Table κ α) {l : List (κ × α)}
    (ascending : l.Pairwise (fun a b => compare a.1 b.1 = .lt)) (k : κ) :
    (t.insertMany l).find? k = (findIn k l).or (t.find? k) := by
  induction l generalizing t with
  | nil => rfl
  | cons e rest ih =>
    obtain ⟨k', a⟩ := e
    show ((t.insert k' a).insertMany rest).find? k = _
    rw [ih _ ascending.tail, find?_insert, findIn]
    by_cases here : k = k'
    · subst here
      simp [findIn_behind ascending]
    · have apart : compare k k' ≠ .eq := fun same => here (Std.LawfulEqCmp.compare_eq_iff_eq.mp same)
      simp [here, apart]

theorem mem_of_find?_insertMany [DecidableEq κ] {t : Table κ α} {l : List (κ × α)} {k : κ} {a : α}
    (found : (t.insertMany l).find? k = some a) : (k, a) ∈ l ∨ t.find? k = some a := by
  induction l generalizing t with
  | nil => exact Or.inr found
  | cons e rest ih =>
    rcases ih found with later | here
    · exact Or.inl (List.mem_cons_of_mem _ later)
    · rw [find?_insert] at here
      split at here
      · rename_i same
        cases here
        exact Or.inl (same ▸ List.mem_cons_self ..)
      · exact Or.inr here

/-- What is found in the table of a list is in the list. -/
theorem mem_of_find?_ofList [DecidableEq κ] {l : List (κ × α)} {k : κ} {a : α}
    (found : (ofList l).find? k = some a) : (k, a) ∈ l := by
  rcases mem_of_find?_insertMany found with member | nowhere
  · exact member
  · cases nowhere

theorem find?_union [DecidableEq κ] (t other : Table κ α) (k : κ) :
    (t.union other).find? k = (other.find? k).or (t.find? k) :=
  find?_insertMany t other.ascending k

omit [Std.TransOrd κ] in
theorem findIn_erase {k j : κ} {a : α} {l : List (κ × α)}
    (ascending : l.Pairwise (fun a b => compare a.1 b.1 = .lt))
    (found : findIn j (l.filter fun e => compare k e.1 ≠ .eq) = some a) :
    findIn j l = some a := by
  obtain ⟨k', same, member⟩ := mem_of_findIn found
  obtain rfl := Std.LawfulEqCmp.compare_eq_iff_eq.mp same
  exact findIn_of_mem ascending (List.mem_filter.mp member).1

omit [Std.TransOrd κ] in
/-- What is found after an entry was erased was there before. -/
theorem find?_of_find?_erase {t : Table κ α} {k j : κ} {a : α}
    (found : (t.erase k).find? j = some a) : t.find? j = some a :=
  findIn_erase t.ascending found

omit [Std.TransOrd κ] [Std.LawfulEqOrd κ] in
/-- Below the first of all keys nothing is found. -/
theorem findIn_below {k : κ} {l : List (κ × α)} (below : ∀ e ∈ l, compare k e.1 = .lt) :
    findIn k l = none := by
  rw [Option.eq_none_iff_forall_ne_some]
  intro a found
  obtain ⟨k', same, member⟩ := mem_of_findIn found
  have order := below (k', a) member
  rw [same] at order
  cases order

omit [Std.LawfulEqOrd κ] in
theorem length_insertIn (k : κ) (a : α) {l : List (κ × α)}
    (ascending : l.Pairwise (fun a b => compare a.1 b.1 = .lt)) :
    (insertIn k a l).length = l.length + if (findIn k l).isSome then 0 else 1 := by
  induction l with
  | nil => rfl
  | cons e rest ih =>
    obtain ⟨k', a'⟩ := e
    obtain ⟨above, ascending⟩ := List.pairwise_cons.mp ascending
    simp only [insertIn]
    split
    · rename_i before
      have below : ∀ e ∈ (k', a') :: rest, compare k e.1 = .lt :=
        List.forall_mem_cons.mpr ⟨before, fun e member => Std.TransCmp.lt_trans before (above e member)⟩
      simp [findIn_below below]
    · rename_i same
      simp [findIn, same]
    · rename_i behind
      have apart : compare k k' ≠ .eq := by simp [behind]
      rw [findIn, if_neg apart, List.length_cons, List.length_cons, ih ascending]
      omega

/-- A table grows by what is bound for the first time. -/
theorem size_insert (t : Table κ α) (k : κ) (a : α) :
    (t.insert k a).size = t.size + if t.contains k then 0 else 1 :=
  length_insertIn k a t.ascending

omit [Std.TransOrd κ] [Std.LawfulEqOrd κ] in
/-- An entry either is kept or has a value that does not pass. -/
theorem size_filter (t : Table κ α) (p : α → Bool) :
    (t.filter p).size + (t.values.filter fun a => !p a).length = t.size := by
  have parted := t.entries.length_eq_countP_add_countP (fun e => p e.2)
  simp only [List.countP_eq_length_filter, Bool.not_eq_true, Bool.decide_eq_false] at parted
  rw [values, List.filter_map, List.length_map, size, size, parted]
  rfl

end Table

end SkillScript
