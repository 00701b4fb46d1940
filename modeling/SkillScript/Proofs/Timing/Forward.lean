import SkillScript.Proofs.Number.Sign
import SkillScript.Proofs.Tree.Below
import SkillScript.Proofs.Tree.Holdings
/-!
# Time does not run backwards

An update never leaves over less than nothing of a step that is not itself below zero.
Timers clip what they leave over, composites pass on what their children leave over,
and machines leave over nothing. The hooks that the host runs on updates have to keep
to this themselves.
-/
set_option autoImplicit false
namespace SkillScript

def Hooks.Forward (h : Hooks) : Prop :=
  ∀ hook ∈ h.onUpdate, ∀ (step : Float32) (view : DelegateView) (s : Scope), ¬ step < 0 →
    ¬ (hook step view s).1 < 0

theorem Number.not_zero_lt_zero : ¬ (0 : Float32) < 0 := by
  decide

theorem Number.not_minNum_lt {x y : Float32} (first : ¬ x < 0) (second : ¬ y < 0) :
    ¬ minNum x y < 0 := by
  unfold minNum
  split
  · exact second
  · split
    · exact first
    · split
      · exact second
      · exact first

/-- The step of an update, without what is below zero. -/
theorem Number.not_clipped_lt (step : Float32) : ¬ (if step < 0 then 0 else step) < 0 := by
  split
  · exact not_zero_lt_zero
  · assumption

theorem Task.not_update_lt {t : Task} (hooks : ∀ h ∈ t.hooks, h.Forward) {step : Float32}
    (forward : ¬ step < 0) (s : Scope) : ¬ (t.update step s).1 < 0 := by
  cases t with
  | wait c timer =>
    simp only [update]
    split
    · exact forward
    · exact Number.not_atLeastZero_lt _
  | healthOverTime c timer flow =>
    simp only [update]
    split
    · exact forward
    · exact Number.not_atLeastZero_lt _
  | deed d => exact forward
  | waitCheck attrs predicate elapsed satisfied =>
    simp only [update]
    split
    · exact forward
    · split
      · exact forward
      · exact Number.not_zero_lt_zero
  | delegate number host finished =>
    have kept : host.hooks.Forward := hooks host.hooks (List.mem_singleton_self _)
    simp only [update]
    split
    · exact forward
    · rename_i hook present
      exact kept hook present step (host.view finished) s forward

class Behaves.Forward (β : Type) [Behaves β] [Lasting β] [Ordered β] [Holding β] : Prop where
  not_update_lt {step : Float32} (ctx : Context) {b : β}
    (hooks : ∀ h ∈ Holding.hooks b, h.Forward) (forward : ¬ step < 0) :
    ¬ (update step ctx b).1 < 0

instance : Behaves.Forward Empty where
  not_update_lt _ b := nomatch b

open Behaves.Forward

variable {β : Type} [Behaves β] [Lasting β] [Ordered β] [Holding β]

/-- Calls leave the hooks as they are. -/
theorem Holding.keeps_forward : Behaves.Keeps fun b : β => ∀ h ∈ Holding.hooks b, h.Forward where
  activate ctx b holds := by
    rwa [Holding.hooks_congr (Lasting.pristine_activate ctx b)]
  deactivate ctx b holds := by
    rwa [Holding.hooks_congr (Lasting.pristine_deactivate ctx b)]
  reset ctx b holds := by
    rwa [Holding.hooks_congr (Lasting.pristine_reset ctx b)]
  update step ctx b holds := by
    rwa [Holding.hooks_congr (Lasting.pristine_update step ctx b)]
  onTrigger tag b holds := by
    rwa [Holding.hooks_congr (Lasting.pristine_onTrigger tag b)]

variable [Behaves.Forward β] {step least : Float32}

theorem Sequence.not_run_lt (started : Bool) (ctx : Context) {l : List β}
    (hooks : ∀ c ∈ l, ∀ h ∈ Holding.hooks c, h.Forward) (forward : ¬ step < 0) :
    ¬ (run started step ctx l).1 < 0 := by
  induction l generalizing started step ctx with
  | nil => exact forward
  | cons c rest ih =>
    obtain ⟨first, others⟩ := List.forall_mem_cons.mp hooks
    have updated := not_update_lt (ready started ctx c).2
      (below_ready Holding.keeps_forward started ctx first) forward
    rw [run_cons]
    dsimp only
    split
    · exact ih _ _ others updated
    · exact Number.not_zero_lt_zero

theorem Parallel.not_run_lt (ctx : Context) {l : List (Lane β)}
    (hooks : ∀ lane ∈ l, ∀ h ∈ Holding.hooks lane.child, h.Forward) (forward : ¬ step < 0)
    (bound : ¬ least < 0) : ¬ (run step least ctx l).1 < 0 := by
  induction l generalizing least ctx with
  | nil => exact bound
  | cons lane rest ih =>
    obtain ⟨first, others⟩ := List.forall_mem_cons.mp hooks
    have updated := not_update_lt ctx first forward
    rw [run_cons]
    split
    · exact ih ctx others bound
    · dsimp only
      split
      · exact ih _ others (Number.not_minNum_lt bound updated)
      · exact ih _ others Number.not_zero_lt_zero

theorem Logic.not_onUpdate_lt (ctx : Context) {l : Logic β} (hooks : ∀ h ∈ l.hooks, h.Forward)
    (forward : ¬ step < 0) : ¬ (l.onUpdate step ctx).1 < 0 := by
  cases l with
  | task t => exact t.not_update_lt hooks forward ctx.toScope
  | sequence s =>
    refine Sequence.not_run_lt s.started ctx (fun c member h inside => ?_) forward
    exact hooks h (List.mem_flatMap_of_mem (List.mem_of_mem_drop member) inside)
  | parallel p =>
    have below : ∀ lane ∈ p.lanes, ∀ h ∈ Holding.hooks lane.child, h.Forward :=
      fun lane member h inside => hooks h (List.mem_flatMap_of_mem member inside)
    have readied : ∀ lane ∈ (p.ready ctx).1.lanes, ∀ h ∈ Holding.hooks lane.child, h.Forward := by
      unfold Parallel.ready
      split
      · exact below
      · exact Parallel.below_start Holding.keeps_forward ctx below
    exact Parallel.not_run_lt (p.ready ctx).2 readied forward forward
  | machine m =>
    show ¬ (m.onUpdate step ctx).1 < 0
    unfold Machine.onUpdate
    dsimp only
    split
    · exact forward
    · split
      · exact forward
      · exact Number.not_zero_lt_zero

instance Node.forward : Behaves.Forward (Node β) where
  not_update_lt {step} ctx n hooks forward := by
    show ¬ (n.update step ctx).1 < 0
    have begun : (n.begin ctx).1.logic.hooks = n.logic.hooks := by
      rw [← Logic.hooks_pristine, pristine_begin, Logic.hooks_pristine]
    rw [Node.update]
    by_cases awake : n.active = true
    · rw [if_pos awake]
      refine Logic.not_onUpdate_lt _ ?_ (Number.not_clipped_lt step)
      rw [begun]
      exact hooks
    · rw [if_neg awake]
      exact forward

instance Behavior.forward : (height : Nat) → Behaves.Forward (Behavior height)
  | 0 => inferInstanceAs (Behaves.Forward Empty)
  | height + 1 =>
    have := forward height
    inferInstanceAs (Behaves.Forward (Node (Behavior height)))

end SkillScript
