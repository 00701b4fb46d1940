import SkillScript.Proofs.Reentry.Replay
import SkillScript.Proofs.Tree.Conditions
/-!
# Resetting twice

A reset puts to rest what a sequence, a parallel or a machine runs, and makes them
forget how far they came; what is put to rest in this way is not reset itself. A state
resets its behavior and its transitions, and a joined condition its children. Whatever
a node has been through, a second reset finds all of this done: it changes nothing in
the tree and nothing around it.
-/
set_option autoImplicit false
namespace SkillScript

/-! ## Leaves -/

theorem Sensor.reset_reset (bus : Bus) (x : Sensor) : (x.reset bus).reset bus = x.reset bus := by
  cases x with
  | event name ownerOnly receiver fired => cases receiver <;> rfl
  | _ => rfl

theorem Condition.reset_reset (bus : Bus) (c : Condition) :
    (c.reset bus).reset bus = c.reset bus := by
  induction c using byChildren with
  | sensor active x => rw [reset, reset, x.reset_reset]
  | gate active g children ih =>
    rw [reset, reset, resetAll_eq, resetAll_eq, List.map_map]
    exact congrArg (gate active g) (List.map_congr_left ih)

theorem Transition.reset_reset (s : Scope) (t : Transition) : (t.reset s).reset s = t.reset s := by
  simp only [reset, rearm, t.condition.reset_reset]

theorem Task.reset_reset (s : Scope) (t : Task) : (t.reset s).reset s = t.reset s := by
  cases t <;> rfl

/-! ## Trees -/

class Behaves.Resettable (β : Type) [Behaves β] : Prop where
  reset_reset (ctx : Context) (b : β) : reset (reset ctx b).2 (reset ctx b).1 = reset ctx b

instance : Behaves.Resettable Empty where
  reset_reset _ b := nomatch b

variable {β : Type} [Behaves β]

theorem State.reset_reset [Behaves.Resettable β] (ctx : Context) (s : State β) :
    (s.reset ctx).1.reset (s.reset ctx).2 = s.reset ctx := by
  simp only [reset, actOn_actOn Behaves.Resettable.reset_reset, List.map_map]
  refine Prod.ext (congrArg (State.mk s.active s.id s.endEvent _ s.exit · false) ?_) rfl
  exact List.map_congr_left fun t _ => t.reset_reset _

theorem Sequence.onReset_onReset (ctx : Context) (s : Sequence β) :
    (s.onReset ctx).1.onReset (s.onReset ctx).2 = s.onReset ctx :=
  -- A sequence that has not started puts no child to rest.
  rfl

theorem Machine.onReset_onReset (ctx : Context) (m : Machine β) :
    (m.onReset ctx).1.onReset (m.onReset ctx).2 = m.onReset ctx :=
  rfl

section Composites

variable [Ordered β] [Behaves.Disciplined β]

theorem Parallel.resting_onReset (ctx : Context) (p : Parallel β) :
    ∀ l ∈ (p.onReset ctx).1.lanes, Behaves.isActive l.child = false := by
  intro l member
  obtain ⟨l', rested, rfl⟩ := List.mem_map.mp member
  obtain ⟨l₀, -, ctx', rfl⟩ := mem_actAll rested
  exact Behaves.Disciplined.isActive_deactivate ctx' l₀.child

theorem Parallel.onReset_onReset [Behaves.Reserved β] (ctx : Context) (p : Parallel β) :
    (p.onReset ctx).1.onReset (p.onReset ctx).2 = p.onReset ctx := by
  have still : actAll (Lane.act Behaves.deactivate) (p.onReset ctx).2 (p.onReset ctx).1.lanes =
      ((p.onReset ctx).1.lanes, (p.onReset ctx).2) := by
    refine actAll_of_fixed fun l member => ?_
    rw [Lane.act, Behaves.Reserved.deactivate_of_resting _ (p.resting_onReset ctx l member)]
  rw [onReset, still]
  refine Prod.ext (congrArg (Parallel.mk · false) ?_) rfl
  exact List.map_map.trans (congrArg (List.map · _) (funext fun l => rfl))

namespace Logic

theorem onReset_onReset [Behaves.Reserved β] (ctx : Context) (l : Logic β) :
    (l.onReset ctx).1.onReset (l.onReset ctx).2 = l.onReset ctx := by
  cases l with
  | task t => exact congrArg (fun t => (task t, ctx)) (t.reset_reset _)
  | sequence s => exact congrArg (fun p => (sequence p.1, p.2)) (s.onReset_onReset ctx)
  | parallel p => exact congrArg (fun p => (parallel p.1, p.2)) (p.onReset_onReset ctx)
  | machine m => exact congrArg (fun p => (machine p.1, p.2)) (m.onReset_onReset ctx)

/-- No child of a sequence or a parallel is active, and no state of a machine. -/
def Idle : Logic β → Prop
  | task _ => True
  | sequence s => ∀ c ∈ s.children, Behaves.isActive c = false
  | parallel p => ∀ l ∈ p.lanes, Behaves.isActive l.child = false
  | machine m => ∀ s ∈ m.states, s.active = false

theorem idle_onReset {active : Bool} {l : Logic β} (orderly : l.Orderly false active)
    (ctx : Context) : (l.onReset ctx).1.Idle := by
  have reset := orderly_onReset orderly nofun ctx
  cases l with
  | task t => trivial
  | sequence s =>
    intro c member
    obtain ⟨i, found⟩ := List.getElem?_of_mem member
    -- A sequence runs a child only once it has started.
    simpa using (Sequence.Orderly.children reset i c found).1
  | parallel p => exact p.resting_onReset ctx
  | machine m =>
    intro s member
    obtain ⟨i, found⟩ := List.getElem?_of_mem member
    simpa using (Machine.Orderly.states reset i s found).1

end Logic

instance Node.resettable [Behaves.Reserved β] : Behaves.Resettable (Node β) where
  reset_reset ctx n := congrArg (fun p => (Node.mk n.active false p.1, p.2))
    (n.logic.onReset_onReset ctx)

instance Behavior.resettable : (height : Nat) → Behaves.Resettable (Behavior height)
  | 0 => inferInstanceAs (Behaves.Resettable Empty)
  | height + 1 => inferInstanceAs (Behaves.Resettable (Node (Behavior height)))

namespace AnyNode

theorem reset_reset [Behaves.Reserved β] [Behaves.Resettable β] (ctx : Context) (n : AnyNode β) :
    (n.reset ctx).1.reset (n.reset ctx).2 = n.reset ctx := by
  cases n with
  | behavior n =>
    exact congrArg (fun p => (behavior p.1, p.2)) (Behaves.Resettable.reset_reset ctx n)
  | condition c => exact congrArg (fun c => (condition c, ctx)) (c.reset_reset _)
  | state s => exact congrArg (fun p => (state p.1, p.2)) (s.reset_reset ctx)
  | transition t => exact congrArg (fun t => (transition t, ctx)) (t.reset_reset _)

omit [Ordered β] [Behaves.Disciplined β] in
theorem isActive_reset (ctx : Context) (n : AnyNode β) :
    (n.reset ctx).1.isActive = n.isActive := by
  cases n with
  | condition c => exact c.isActive_reset ctx.bus
  | _ => rfl

end AnyNode

end Composites

/-! ## Histories -/

namespace Handle

def Lives (h : Handle) : Prop :=
  ∃ height n, h = live height n

variable {h : Handle}

theorem Lives.isLive (lives : h.Lives) : h.status.isLive = true := by
  obtain ⟨height, n, rfl⟩ := lives
  rw [status]
  cases n.isActive <;> rfl

theorem Lives.call (lives : h.Lives) (ctx : Context) (c : Call) : (h.call ctx c).1.Lives := by
  obtain ⟨height, n, rfl⟩ := lives
  cases c with
  | update step => cases n <;> exact ⟨_, _, rfl⟩
  | check step => cases n <;> exact ⟨_, _, rfl⟩
  | _ => exact ⟨_, _, rfl⟩

theorem Lives.run (lives : h.Lives) (calls : List (Context × Call)) : (h.run calls).Lives := by
  induction calls generalizing h with
  | nil => exact lives
  | cons c rest ih => exact ih (lives.call c.1 c.2)

theorem Lives.reset_reset (lives : h.Lives) (ctx : Context) :
    (h.reset ctx).1.reset (h.reset ctx).2 = h.reset ctx := by
  obtain ⟨height, n, rfl⟩ := lives
  exact congrArg (fun p => (live height p.1, p.2)) (n.reset_reset ctx)

theorem Lives.status_reset (lives : h.Lives) (ctx : Context) :
    (h.reset ctx).1.status = h.status := by
  obtain ⟨height, n, rfl⟩ := lives
  show (if (n.reset ctx).1.isActive then Lifecycle.active else .ready) = _
  rw [n.isActive_reset]
  rfl

theorem lives_of_create? {r : Registry} {ctx : Context} {slot : Option Slot} {c : Config}
    (created : (create? r ctx slot c).1 = some h) : h.Lives := by
  rw [create?, AnyNode.fst_fit] at created
  obtain ⟨n, -, fits⟩ := Option.bind_eq_some_iff.mp created
  split at fits
  · exact ⟨_, n, (Option.some.inj fits).symm⟩
  · cases fits

end Handle

/-- A node that was created from any configuration and then lived through any calls, in any
contexts, is reset. A second reset changes nothing in its tree and nothing around it. The reset
does not change whether the node is ready or active; and a behavior has not begun afterwards and
runs nothing, so that everything below it is at rest. -/
theorem second_reset_changes_nothing (r : Registry) (c : Config) (slot : Option Slot)
    (born now : Context) (h : Handle) (history : List (Context × Handle.Call))
    (created : (Handle.create? r born slot c).1 = some h) :
    let used := h.run history
    let once := used.reset now
    once.1.reset once.2 = once ∧
    used.status.isLive = true ∧ once.1.status = used.status ∧
    (slot = some .behavior → ∃ n : Node (Behavior c.height),
      once.1 = .live c.height (.behavior n) ∧ n.begun = false ∧ Ordered.Orderly false n ∧
        n.logic.Idle) := by
  have lives := (Handle.lives_of_create? created).run history
  refine ⟨lives.reset_reset now, lives.isLive, lives.status_reset now, ?_⟩
  rintro rfl
  obtain ⟨n₀, made, rfl⟩ := Handle.create?_behavior created
  have begun := (create_begun false r c.height born c).fresh _ made
  obtain ⟨n, ran, orderly, -⟩ := Handle.KeepsForm.run ⟨n₀, rfl, begun.2, rfl⟩ history
  rw [ran]
  exact ⟨(n.reset now).1, rfl, rfl, Behaves.Disciplined.orderly_reset now orderly nofun,
    Logic.idle_onReset orderly now⟩

def nestedConfig : Config :=
  Build.parallel [Build.setVar "mark" (.bool true),
    Build.fsm "idle" [{ id := "idle", behavior := some (Build.wait 60) }]]

theorem second_reset_changes_nothing_of_nested :
    ∃ h, (Handle.create? .standard emptyStage (some .behavior) nestedConfig).1 = some h ∧
      let used := h.run [(emptyStage, .activate), (emptyStage, .update 1)]
      let once := used.reset emptyStage
      used.status = .active ∧ once.1.status = .active ∧ once.1.reset once.2 = once := by
  obtain ⟨same, -, status, -⟩ := second_reset_changes_nothing .standard nestedConfig
    (some .behavior) emptyStage emptyStage _ [(emptyStage, .activate), (emptyStage, .update 1)] rfl
  refine ⟨_, rfl, ?_, status.trans ?_, same⟩ <;> decide +kernel

end SkillScript
