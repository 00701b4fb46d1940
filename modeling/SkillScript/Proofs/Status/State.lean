import SkillScript.Proofs.Status.Condition
/-!
# States keep their order

A state keeps its behavior and its transitions as active as it is itself. When it
is left, it and its behavior rest, and the exit behavior is woken, updated once and
put to rest again, so that it rests between any two calls.
-/
set_option autoImplicit false
namespace SkillScript

open Behaves.Disciplined

variable {β : Type} [Behaves β] [Ordered β] [Behaves.Disciplined β]

namespace Behaves

omit [Ordered β] [Disciplined β] in
@[simp]
theorem refusals_deactivate [Quiet β] (ctx : Context) (b : β) :
    (deactivate ctx b).2.refusals = ctx.refusals :=
  Context.refusals_eq_of_mute (Quiet.mute_deactivate ctx b)

omit [Ordered β] [Disciplined β] in
@[simp]
theorem refusals_enter [Quiet β] (ctx : Context) (b : β) :
    (enter ctx b).2.refusals = ctx.refusals :=
  Context.refusals_eq_of_mute (mute_enter ctx b)

@[simp]
theorem isActive_enter (ctx : Context) (b : β) : isActive (enter ctx b).1 = true := by
  simp [enter]

theorem orderly_enter {strict : Bool} (ctx : Context) {b : β} (orderly : Ordered.Orderly strict b)
    (resting : strict = true → isActive b = false) :
    Ordered.Orderly strict (enter ctx b).1 :=
  orderly_activate _ (orderly_reset ctx orderly resting)

end Behaves

namespace State

variable {strict : Bool} {s : State β}

omit [Ordered β] [Behaves.Disciplined β] in
@[simp]
theorem active_activate (ctx : Context) (s : State β) : (s.activate ctx).1.active = true := by
  unfold activate
  split
  · assumption
  · rfl

omit [Ordered β] [Behaves.Disciplined β] in
@[simp]
theorem active_deactivate (ctx : Context) (s : State β) : (s.deactivate ctx).1.active = false := by
  unfold deactivate
  split
  · rfl
  · simp_all

omit [Ordered β] [Behaves.Disciplined β] in
@[simp]
theorem active_enter (ctx : Context) (s : State β) : (s.enter ctx).1.active = true :=
  active_activate ..

omit [Ordered β] [Behaves.Disciplined β] in
@[simp]
theorem active_update (step : Float32) (ctx : Context) (s : State β) :
    (s.update step ctx).1.active = s.active := by
  unfold update
  split
  · dsimp only
    split <;> rfl
  · rfl

omit [Behaves β] [Ordered β] [Behaves.Disciplined β] in
@[simp]
theorem active_checkTransitions (step : Float32) (ctx : Context) (s : State β) :
    (s.checkTransitions step ctx).2.1.active = s.active := by
  unfold checkTransitions
  split <;> rfl

omit [Ordered β] [Behaves.Disciplined β] in
@[simp]
theorem active_leave (ctx : Context) (s : State β) : (s.leave ctx).1.active = false :=
  active_deactivate ..

omit [Ordered β] [Behaves.Disciplined β] in
@[simp]
theorem active_onTrigger (tag : String) (s : State β) : (s.onTrigger tag).active = s.active := by
  unfold onTrigger
  split <;> rfl

theorem orderly_complete (ctx : Context) {b : β} (resting : Behaves.isActive b = false)
    (orderly : Ordered.Orderly strict b) :
    Behaves.isActive (complete ctx b).1 = false ∧ Ordered.Orderly strict (complete ctx b).1 := by
  have entered := Behaves.orderly_enter ctx orderly fun _ => resting
  exact ⟨isActive_deactivate .., orderly_deactivate _ (orderly_update _ _ entered)⟩

theorem refusals_complete [Behaves.Quiet β] (ctx : Context) {b : β}
    (resting : Behaves.isActive b = false) (orderly : Ordered.Orderly strict b) :
    (complete ctx b).2.refusals = ctx.refusals := by
  have entered := Behaves.orderly_enter ctx orderly fun _ => resting
  have updated := refusals_update (Behaves.enter ctx b).2.settings.exitStep
    (Behaves.enter ctx b).2 entered (Behaves.isActive_enter ctx b)
  simp [complete, updated]

theorem orderly_runBehavior (step : Float32) (ctx : Context) {active : Bool} {o : Option β}
    (orderly : ∀ b ∈ o, Behaves.isActive b = active ∧ Ordered.Orderly strict b) :
    ∀ b ∈ (runBehavior step ctx o).2.1,
      Behaves.isActive b = active ∧ Ordered.Orderly strict b := by
  cases o with
  | none => exact orderly
  | some b =>
    have order := orderly b rfl
    intro b' made
    cases made
    exact ⟨(isActive_update step ctx b).trans order.1, orderly_update step ctx order.2⟩

theorem refusals_runBehavior (step : Float32) (ctx : Context) {o : Option β}
    (orderly : ∀ b ∈ o, Behaves.isActive b = true ∧ Ordered.Orderly strict b) :
    (runBehavior step ctx o).2.2.refusals = ctx.refusals := by
  cases o with
  | none => rfl
  | some b => exact refusals_update step ctx (orderly b rfl).2 (orderly b rfl).1

namespace Orderly

theorem activate (orderly : s.Orderly strict) (ctx : Context) :
    (s.activate ctx).1.Orderly strict := by
  unfold State.activate
  split
  · exact orderly
  · refine ⟨?_, orderly.exit, ?_⟩
    · intro b member
      obtain ⟨b', inside, rfl⟩ := mem_actOn member
      exact ⟨isActive_activate .., orderly_activate ctx (orderly.behavior b' inside).2⟩
    · intro t member
      obtain ⟨t', inside, ctx', rfl⟩ := mem_actAll member
      exact ⟨t'.active_activate ctx', (orderly.transitions t' inside).2.activate ctx'⟩

theorem deactivate (orderly : s.Orderly strict) (ctx : Context) :
    (s.deactivate ctx).1.Orderly strict := by
  unfold State.deactivate
  split
  · refine ⟨?_, orderly.exit, ?_⟩
    · intro b member
      obtain ⟨b', inside, rfl⟩ := mem_actOn member
      exact ⟨isActive_deactivate .., orderly_deactivate ctx (orderly.behavior b' inside).2⟩
    · intro t member
      obtain ⟨t', inside, ctx', rfl⟩ := mem_actAll member
      exact ⟨t'.active_deactivate ctx', (orderly.transitions t' inside).2.deactivate ctx'⟩
  · exact orderly

theorem reset (orderly : s.Orderly strict) (resting : strict = true → s.active = false)
    (ctx : Context) : (s.reset ctx).1.Orderly strict := by
  refine ⟨?_, orderly.exit, ?_⟩
  · intro b member
    obtain ⟨b', inside, rfl⟩ := mem_actOn member
    obtain ⟨status, order⟩ := orderly.behavior b' inside
    refine ⟨(isActive_reset ctx b').trans status, orderly_reset ctx order fun strictly => ?_⟩
    rw [status, resting strictly]
  · intro t member
    simp only [State.reset] at member
    obtain ⟨t', inside, rfl⟩ := List.mem_map.mp member
    obtain ⟨status, order⟩ := orderly.transitions t' inside
    exact ⟨status, order.reset _⟩

theorem enter (orderly : s.Orderly strict) (resting : strict = true → s.active = false)
    (ctx : Context) : (s.enter ctx).1.Orderly strict :=
  (orderly.reset resting ctx).activate _

theorem update (orderly : s.Orderly strict) (step : Float32) (ctx : Context) :
    (s.update step ctx).1.Orderly strict := by
  have ran := orderly_runBehavior step ctx orderly.behavior
  unfold State.update
  split
  · dsimp only
    split <;> exact ⟨ran, orderly.exit, orderly.transitions⟩
  · exact orderly

theorem refusals_update (orderly : s.Orderly strict) (active : s.active = true)
    (step : Float32) (ctx : Context) : (s.update step ctx).2.refusals = ctx.refusals := by
  have behavior := orderly.behavior
  rw [active] at behavior
  have ran := refusals_runBehavior step ctx behavior
  rw [State.update, if_pos active]
  dsimp only
  split
  · cases s.endEvent <;> exact ran
  · exact ran

omit [Behaves.Disciplined β] in
theorem checkTransitions (orderly : s.Orderly strict) (step : Float32) (ctx : Context) :
    (s.checkTransitions step ctx).2.1.Orderly strict := by
  unfold State.checkTransitions
  split
  · exact ⟨orderly.behavior, orderly.exit,
      Transition.orderly_checkFirst step ctx orderly.transitions⟩
  · exact orderly

omit [Behaves.Disciplined β] in
theorem refusals_checkTransitions (orderly : s.Orderly strict) (active : s.active = true)
    (step : Float32) (ctx : Context) :
    (s.checkTransitions step ctx).2.2.refusals = ctx.refusals := by
  have transitions := orderly.transitions
  rw [active] at transitions
  unfold State.checkTransitions
  split
  · exact Transition.refusals_checkFirst step ctx transitions
  · rfl

theorem leave (orderly : s.Orderly strict) (ctx : Context) :
    (s.leave ctx).1.Orderly strict := by
  have rested := orderly.deactivate ctx
  refine ⟨rested.behavior, ?_, rested.transitions⟩
  intro b member
  have completed : b ∈ (actOn complete (s.deactivate ctx).2 (s.deactivate ctx).1.exit).1 := member
  obtain ⟨b', inside, rfl⟩ := mem_actOn completed
  obtain ⟨resting, order⟩ := rested.exit b' inside
  exact orderly_complete _ resting order

theorem refusals_leave [Behaves.Quiet β] (orderly : s.Orderly strict) (ctx : Context) :
    (s.leave ctx).2.refusals = ctx.refusals := by
  have rested := orderly.deactivate ctx
  have same := Context.refusals_eq_of_mute (s.mute_deactivate ctx)
  simp only [State.leave]
  cases placed : (s.deactivate ctx).1.exit with
  | none => exact same
  | some b =>
    obtain ⟨resting, order⟩ := rested.exit b placed
    exact (refusals_complete _ resting order).trans same

theorem onTrigger (orderly : s.Orderly strict) (tag : String) :
    (s.onTrigger tag).Orderly strict := by
  unfold State.onTrigger
  split
  · refine ⟨?_, orderly.exit, ?_⟩
    · intro b member
      obtain ⟨b', inside, rfl⟩ := Option.map_eq_some_iff.mp member
      obtain ⟨status, order⟩ := orderly.behavior b' inside
      exact ⟨(isActive_onTrigger tag b').trans status, orderly_onTrigger tag order⟩
    · intro t member
      obtain ⟨t', inside, rfl⟩ := List.mem_map.mp member
      obtain ⟨status, order⟩ := orderly.transitions t' inside
      exact ⟨(t'.active_onTrigger tag).trans status, order.onTrigger tag⟩
  · exact orderly

end Orderly

end State

end SkillScript
