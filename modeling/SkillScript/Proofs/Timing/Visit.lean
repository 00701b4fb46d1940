import SkillScript.Proofs.Status.Finality
/-!
# Visits

Between two resets an owner visits a node: it wakes it and puts it to rest, updates,
checks and triggers it, in any order. What happens at some call of a visit is told by
the calls before it, so it can be followed one call at a time from the first on.
-/
set_option autoImplicit false
namespace SkillScript

namespace Handle

theorem run_append (h : Handle) (calls later : List (Context × Call)) :
    h.run (calls ++ later) = (h.run calls).run later := by
  induction calls generalizing h with
  | nil => rfl
  | cons p rest ih => exact ih (h.call p.1 p.2).1

theorem run_snoc (h : Handle) (calls : List (Context × Call)) (ctx : Context) (c : Call) :
    h.run (calls ++ [(ctx, c)]) = ((h.run calls).call ctx c).1 := by
  rw [run_append]
  rfl

def Continues (calls : List (Context × Call)) : Prop :=
  ∀ p ∈ calls, p.2.restarts = false

theorem Continues.of_append {calls later : List (Context × Call)}
    (continues : Continues (calls ++ later)) : Continues calls :=
  fun p member => continues p (List.mem_append_left _ member)

theorem Continues.last {calls : List (Context × Call)} {ctx : Context} {c : Call}
    (continues : Continues (calls ++ [(ctx, c)])) : c.restarts = false :=
  continues (ctx, c) (List.mem_append_right _ (List.mem_singleton_self _))

/-- What the calls come to, each of them together with the node it finds. -/
def log {α : Type} (f : Handle → Context → Call → List α) (h : Handle) :
    List (Context × Call) → List α
  | [] => []
  | (ctx, c) :: rest => f h ctx c ++ (h.call ctx c).1.log f rest

theorem log_snoc {α : Type} (f : Handle → Context → Call → List α) (h : Handle)
    (calls : List (Context × Call)) (ctx : Context) (c : Call) :
    h.log f (calls ++ [(ctx, c)]) = h.log f calls ++ f (h.run calls) ctx c := by
  induction calls generalizing h with
  | nil => exact List.append_nil _
  | cons p rest ih => simp only [List.cons_append, log, run, ih, List.append_assoc]

/-- One of the calls finds the node, and its context, as described. -/
def Sometime (P : Handle → Context → Call → Prop) (h : Handle) (calls : List (Context × Call)) :
    Prop :=
  ∃ earlier ctx c later, calls = earlier ++ (ctx, c) :: later ∧ P (h.run earlier) ctx c

variable {P Q : Handle → Context → Call → Prop} {h : Handle} {calls later : List (Context × Call)}

theorem not_sometime_nil : ¬ Sometime P h [] := by
  rintro ⟨earlier, ctx, c, later, split, -⟩
  simp at split

theorem Sometime.mono (weaker : ∀ h ctx c, P h ctx c → Q h ctx c) (some : Sometime P h calls) :
    Sometime Q h calls := by
  obtain ⟨earlier, ctx, c, later, split, holds⟩ := some
  exact ⟨earlier, ctx, c, later, split, weaker _ ctx c holds⟩

theorem Sometime.append (some : Sometime P h calls) (later : List (Context × Call)) :
    Sometime P h (calls ++ later) := by
  obtain ⟨earlier, ctx, c, rest, rfl, holds⟩ := some
  exact ⟨earlier, ctx, c, rest ++ later, by simp, holds⟩

/-- The last call is looked at last. -/
theorem sometime_snoc {ctx : Context} {c : Call} :
    Sometime P h (calls ++ [(ctx, c)]) ↔ Sometime P h calls ∨ P (h.run calls) ctx c := by
  constructor
  · rintro ⟨earlier, ctx', c', later, split, holds⟩
    rcases List.eq_nil_or_concat later with rfl | ⟨rest, last, rfl⟩
    · obtain ⟨rfl, same⟩ := List.append_inj' split rfl
      cases same
      exact Or.inr holds
    · rw [List.concat_eq_append, ← List.cons_append, ← List.append_assoc] at split
      obtain ⟨rfl, -⟩ := List.append_inj' split rfl
      exact Or.inl ⟨earlier, ctx', c', rest, rfl, holds⟩
  · rintro (some | holds)
    · exact some.append _
    · exact ⟨calls, ctx, c, [], rfl, holds⟩

def Always (P : Handle → Context → Call → Prop) (h : Handle) (calls : List (Context × Call)) :
    Prop :=
  ∀ earlier ctx c later, calls = earlier ++ (ctx, c) :: later → P (h.run earlier) ctx c

theorem always_iff_not_sometime :
    Always P h calls ↔ ¬ Sometime (fun h ctx c => ¬ P h ctx c) h calls := by
  constructor
  · rintro always ⟨earlier, ctx, c, later, split, fails⟩
    exact fails (always earlier ctx c later split)
  · intro never earlier ctx c later split
    by_contra fails
    exact never ⟨earlier, ctx, c, later, split, fails⟩

theorem always_nil : Always P h [] :=
  always_iff_not_sometime.mpr not_sometime_nil

theorem Always.of_append (always : Always P h (calls ++ later)) : Always P h calls := by
  rw [always_iff_not_sometime] at always ⊢
  exact fun some => always (some.append later)

theorem always_snoc {ctx : Context} {c : Call} :
    Always P h (calls ++ [(ctx, c)]) ↔ Always P h calls ∧ P (h.run calls) ctx c := by
  rw [always_iff_not_sometime, always_iff_not_sometime, sometime_snoc, not_or, not_not]

theorem always_cons {ctx : Context} {c : Call} :
    Always P h ((ctx, c) :: calls) ↔ P h ctx c ∧ Always P (h.call ctx c).1 calls := by
  constructor
  · intro always
    exact ⟨always [] ctx c calls rfl, fun earlier ctx' c' later split =>
      always ((ctx, c) :: earlier) ctx' c' later (by rw [split, List.cons_append])⟩
  · rintro ⟨here, always⟩ earlier ctx' c' later split
    cases earlier with
    | nil =>
      cases split
      exact here
    | cons first earlier =>
      cases split
      exact always earlier ctx' c' later rfl

instance Always.decidable [∀ h ctx c, Decidable (P h ctx c)] :
    (h : Handle) → (calls : List (Context × Call)) → Decidable (Always P h calls)
  | _, [] => isTrue always_nil
  | h, (ctx, c) :: rest =>
    have := Always.decidable (h.call ctx c).1 rest
    decidable_of_iff _ always_cons.symm

def Granted (h : Handle) : Call → Prop
  | .update _ => h.status = .active
  | _ => False

def Updated (h : Handle) (calls : List (Context × Call)) : Prop :=
  Sometime (fun h _ c => h.Granted c) h calls

structure Begins (h : Handle) (calls : List (Context × Call)) : Prop where
  awake : (h.run calls).status = .active
  first : ¬ h.Updated calls

end Handle

end SkillScript
