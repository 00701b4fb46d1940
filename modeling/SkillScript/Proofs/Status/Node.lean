import SkillScript.Proofs.Status.Composite
/-!
# Machines and nodes keep their order

A machine leaves its state before it enters another, so at no time are two of its
states active; and it has a state whenever it is active and was not reset since. A
node of any sort then keeps its order, and trees of every height do so by induction
on the height. A node at rest is left as it is when it is put to rest.
-/
set_option autoImplicit false
namespace SkillScript

open Behaves.Disciplined

variable {β : Type} [Behaves β] [Ordered β] [Behaves.Disciplined β] {strict active : Bool}

namespace Machine

omit [Behaves β] [Ordered β] in
theorem refusals_actOnCurrent {f : Context → State β → State β × Context} {m : Machine β}
    (ctx : Context) (same : ∀ s ∈ m.states, (f ctx s).2.refusals = ctx.refusals) :
    (m.actOnCurrent f ctx).2.refusals = ctx.refusals := by
  unfold actOnCurrent
  split
  · rfl
  · rename_i i _
    dsimp only
    rw [actAt_eq]
    cases found : m.states[i]? with
    | none => rfl
    | some s => exact same s (List.mem_of_getElem? found)

omit [Behaves β] [Ordered β] in
@[simp]
theorem current_actOnCurrent (f : Context → State β → State β × Context) (ctx : Context)
    (m : Machine β) : (m.actOnCurrent f ctx).1.current = m.current := by
  unfold actOnCurrent
  split
  · rfl
  · rename_i current
    simp [current]

omit [Behaves β] [Ordered β] in
@[simp]
theorem index_actOnCurrent (f : Context → State β → State β × Context) (ctx : Context)
    (m : Machine β) : (m.actOnCurrent f ctx).1.index = m.index := by
  unfold actOnCurrent
  split <;> rfl

namespace Orderly

variable {m : Machine β}

omit [Behaves.Disciplined β] in
/-- Acting on the current state of a machine, from one status of the machine to another. -/
theorem actOnCurrent {f : Context → State β → State β × Context} {after : Bool} (ctx : Context)
    (orderly : m.Orderly strict active)
    (acts : ∀ ctx s, s.active = active → s.Orderly strict →
      (f ctx s).1.active = after ∧ (f ctx s).1.Orderly strict)
    (running : strict = true → after = true → m.current.isSome = true) :
    (m.actOnCurrent f ctx).1.Orderly strict after := by
  unfold Machine.actOnCurrent
  split
  · rename_i idle
    refine ⟨orderly.index, orderly.initial, orderly.current, ?_, running⟩
    intro i s found
    obtain ⟨status, order⟩ := orderly.states i s found
    exact ⟨by simp [status, idle], order⟩
  · rename_i n current
    refine ⟨?_, orderly.initial, ?_, ?_, running⟩
    · intro id i found
      rw [length_actAt]
      exact orderly.index id i found
    · intro i found
      rw [length_actAt]
      exact orderly.current i found
    · intro i s found
      rcases getElem?_actAt_eq_some found with ⟨here, s', inside, rfl⟩ | ⟨other, inside⟩
      · obtain ⟨status, order⟩ := orderly.states i s' inside
        have running : s'.active = active := by simpa [current, here] using status
        simpa [current, here] using acts ctx s' running order
      · obtain ⟨status, order⟩ := orderly.states i s inside
        have elsewhere : (n == i) = false := beq_false_of_ne (Ne.symm other)
        exact ⟨by simp [status, current, elsewhere], order⟩

/-- Entering the state at a position of a machine that runs none. -/
theorem enterAt (orderly : m.Orderly strict false) (ctx : Context) {i : Nat}
    (bound : i < m.states.length) : (m.enterAt ctx i).1.Orderly strict true := by
  have placed : ({ m with current := some i } : Machine β).Orderly strict false := by
    refine ⟨orderly.index, orderly.initial, ?_, ?_, nofun⟩
    · intro j found
      cases found
      exact bound
    · intro j s found
      simpa using orderly.states j s found
  refine placed.actOnCurrent ctx (fun ctx s resting order => ?_) fun _ _ => rfl
  exact ⟨s.active_enter ctx, order.enter (fun _ => resting) ctx⟩

theorem enterInitial (orderly : m.Orderly strict false) (ctx : Context) :
    (m.enterInitial ctx).1.Orderly strict true ∧ (m.enterInitial ctx).1.current.isSome = true := by
  unfold Machine.enterInitial
  split
  · rename_i missing
    have initial := orderly.initial
    rw [missing] at initial
    cases initial
  · rename_i i found
    refine ⟨orderly.enterAt ctx (orderly.index _ i found), ?_⟩
    simp [Machine.enterAt]

theorem onActivate (orderly : m.Orderly strict false) (ctx : Context) :
    (m.onActivate ctx).1.Orderly strict true := by
  unfold Machine.onActivate
  split
  · rename_i i current
    refine orderly.actOnCurrent ctx (fun ctx s _ order => ?_) fun _ _ => by rw [current]; rfl
    exact ⟨s.active_activate ctx, order.activate ctx⟩
  · exact (orderly.enterInitial ctx).1

theorem deactivateCurrent (orderly : m.Orderly strict active) (ctx : Context) :
    (m.actOnCurrent State.deactivate ctx).1.Orderly strict false := by
  refine orderly.actOnCurrent ctx (fun ctx s _ order => ?_) nofun
  exact ⟨s.active_deactivate ctx, order.deactivate ctx⟩

theorem onReset (orderly : m.Orderly strict active) (resting : strict = true → active = false)
    (ctx : Context) : (m.onReset ctx).1.Orderly strict active := by
  have rested := orderly.deactivateCurrent ctx
  refine ⟨rested.index, rested.initial, nofun, ?_, ?_⟩
  · intro i s found
    obtain ⟨status, order⟩ := rested.states i s found
    exact ⟨by simpa [Machine.onReset] using status, order⟩
  · intro strictly awake
    rw [resting strictly] at awake
    cases awake

theorem leaveCurrent (orderly : m.Orderly strict active) (ctx : Context) :
    (m.actOnCurrent State.leave ctx).1.Orderly strict false := by
  refine orderly.actOnCurrent ctx (fun ctx s _ order => ?_) nofun
  exact ⟨s.active_leave ctx, order.leave ctx⟩

theorem switchTo (orderly : m.Orderly strict true) (ctx : Context) (target : String) :
    (m.switchTo ctx target).1.Orderly strict true := by
  unfold Machine.switchTo
  split
  · exact orderly
  · rename_i next found
    have left := orderly.leaveCurrent ctx
    have bound := left.index target next (by simpa using found)
    have entered := left.enterAt (m.actOnCurrent State.leave ctx).2 bound
    exact ⟨entered.index, entered.initial, entered.current, entered.states, entered.running⟩

theorem tick {s : State β} (order : s.Orderly strict) (step : Float32) (ctx : Context) :
    (Machine.tick step ctx s).2.1.active = s.active ∧
      (Machine.tick step ctx s).2.1.Orderly strict :=
  ⟨by simp [Machine.tick], (order.update step ctx).checkTransitions step _⟩

omit [Behaves.Disciplined β] in
theorem set (orderly : m.Orderly strict active) {i : Nat} {s s' : State β}
    (found : m.states[i]? = some s) (same : s'.active = s.active) (order : s'.Orderly strict) :
    ({ m with states := m.states.set i s' } : Machine β).Orderly strict active := by
  refine ⟨?_, orderly.initial, ?_, ?_, orderly.running⟩
  · intro id j known
    rw [List.length_set]
    exact orderly.index id j known
  · intro j known
    rw [List.length_set]
    exact orderly.current j known
  · intro j t inside
    rw [List.getElem?_set] at inside
    split at inside
    · rename_i here
      subst here
      split at inside
      · cases inside
        exact ⟨same.trans (orderly.states i s found).1, order⟩
      · cases inside
    · exact orderly.states j t inside

theorem advance (orderly : m.Orderly strict true) (step : Float32) (ctx : Context) {i : Nat}
    {s : State β} (found : m.states[i]? = some s) :
    (m.advance step ctx i s).1.Orderly strict true := by
  obtain ⟨same, order⟩ := tick (orderly.states i s found).2 step ctx
  have kept := orderly.set found same order
  unfold Machine.advance
  dsimp only
  split
  · exact kept
  · exact kept.switchTo _ _

omit [Behaves.Disciplined β] in
/-- A machine without a current state runs nothing. -/
theorem idle (orderly : m.Orderly strict true) (idle : m.current = none) :
    m.Orderly strict false := by
  refine ⟨orderly.index, orderly.initial, orderly.current, ?_, nofun⟩
  intro i s found
  simpa [idle] using orderly.states i s found

/-- A machine that is active runs a state from its next update on. -/
theorem ready (orderly : m.Orderly strict true) (ctx : Context) :
    (m.ready ctx).1.Orderly strict true ∧ (m.ready ctx).1.current.isSome = true := by
  unfold Machine.ready
  split
  · rename_i current
    exact ⟨orderly, by rw [current]; rfl⟩
  · rename_i idle
    exact (orderly.idle idle).enterInitial ctx

theorem onUpdate (orderly : m.Orderly strict true) (step : Float32) (ctx : Context) :
    (m.onUpdate step ctx).2.1.Orderly strict true := by
  obtain ⟨readied, _⟩ := orderly.ready ctx
  unfold Machine.onUpdate
  dsimp only
  split
  · exact readied
  · split
    · exact readied
    · rename_i found
      exact readied.advance step _ found

theorem onTrigger (orderly : m.Orderly strict active) (tag : String) :
    (m.onTrigger tag).Orderly strict active := by
  unfold Machine.onTrigger
  split
  · exact orderly
  · rename_i n _
    refine ⟨?_, orderly.initial, ?_, ?_, orderly.running⟩
    · intro id i known
      rw [List.length_modify]
      exact orderly.index id i known
    · intro i known
      rw [List.length_modify]
      exact orderly.current i known
    · intro i s found
      simp only [List.getElem?_modify] at found
      obtain ⟨s', inside, rfl⟩ := Option.map_eq_some_iff.mp found
      obtain ⟨status, order⟩ := orderly.states i s' inside
      split
      · exact ⟨(s'.active_onTrigger tag).trans status, order.onTrigger tag⟩
      · exact ⟨status, order⟩

section Refusals

variable [Behaves.Quiet β]

theorem refusals_switchTo (orderly : m.Orderly strict active) (ctx : Context) (target : String) :
    (m.switchTo ctx target).2.refusals = ctx.refusals := by
  have left : (m.actOnCurrent State.leave ctx).2.refusals = ctx.refusals := by
    refine refusals_actOnCurrent ctx fun s member => ?_
    obtain ⟨i, bound, rfl⟩ := List.mem_iff_getElem.mp member
    exact (orderly.states i _ (List.getElem?_eq_getElem bound)).2.refusals_leave ctx
  unfold Machine.switchTo
  split
  · rfl
  · have entered (ctx : Context) (m : Machine β) (i : Nat) :
        (m.enterAt ctx i).2.refusals = ctx.refusals :=
      refusals_actOnCurrent ctx fun s _ => Context.refusals_eq_of_mute (s.mute_enter ctx)
    exact (entered ..).trans left

omit [Behaves.Quiet β] in
theorem refusals_tick {s : State β} (order : s.Orderly strict) (awake : s.active = true)
    (step : Float32) (ctx : Context) : (Machine.tick step ctx s).2.2.refusals = ctx.refusals := by
  have updated := order.update step ctx
  have status : (s.update step ctx).1.active = true := (s.active_update step ctx).trans awake
  exact (updated.refusals_checkTransitions status step _).trans
    (order.refusals_update awake step ctx)

theorem refusals_advance (orderly : m.Orderly strict true) (step : Float32) (ctx : Context)
    {i : Nat} {s : State β} (current : m.current = some i) (found : m.states[i]? = some s) :
    (m.advance step ctx i s).2.refusals = ctx.refusals := by
  obtain ⟨status, order⟩ := orderly.states i s found
  have awake : s.active = true := by simpa [current] using status
  obtain ⟨same, ticked⟩ := tick order step ctx
  have kept := orderly.set found same ticked
  have checked := refusals_tick order awake step ctx
  unfold Machine.advance
  dsimp only
  split
  · exact checked
  · exact (kept.refusals_switchTo _ _).trans checked

theorem refusals_onUpdate (orderly : m.Orderly strict true) (step : Float32) (ctx : Context) :
    (m.onUpdate step ctx).2.2.refusals = ctx.refusals := by
  obtain ⟨readied, _⟩ := orderly.ready ctx
  have same : (m.ready ctx).2.refusals = ctx.refusals := by
    unfold Machine.ready
    split
    · rfl
    · exact Context.refusals_eq_of_mute (m.mute_enterInitial ctx)
  unfold Machine.onUpdate
  dsimp only
  split
  · exact same
  · rename_i current
    split
    · exact same
    · rename_i found
      exact (readied.refusals_advance step _ current found).trans same

end Refusals

end Orderly

end Machine

namespace Logic

variable {l : Logic β}

omit [Behaves.Disciplined β] in
theorem orderly_onBegin (orderly : l.Orderly strict active) (ctx : Context) :
    (l.onBegin ctx).1.Orderly strict active := by
  cases l <;> exact orderly

theorem orderly_onActivate (orderly : l.Orderly strict false) (ctx : Context) :
    (l.onActivate ctx).1.Orderly strict true := by
  cases l with
  | task t => trivial
  | sequence s => exact Sequence.Orderly.onActivate orderly ctx
  | parallel p => exact Parallel.Orderly.onActivate orderly ctx
  | machine m => exact Machine.Orderly.onActivate orderly ctx

theorem orderly_onDeactivate (orderly : l.Orderly strict true) (ctx : Context) :
    (l.onDeactivate ctx).1.Orderly strict false := by
  cases l with
  | task t => trivial
  | sequence s => exact Sequence.Orderly.onDeactivate orderly ctx
  | parallel p => exact Parallel.Orderly.onDeactivate orderly ctx
  | machine m => exact Machine.Orderly.deactivateCurrent orderly ctx

theorem orderly_onReset (orderly : l.Orderly strict active)
    (resting : strict = true → active = false) (ctx : Context) :
    (l.onReset ctx).1.Orderly strict active := by
  cases l with
  | task t => trivial
  | sequence s => exact Sequence.Orderly.onReset orderly resting ctx
  | parallel p => exact Parallel.Orderly.onReset orderly resting ctx
  | machine m => exact Machine.Orderly.onReset orderly resting ctx

theorem orderly_onUpdate (orderly : l.Orderly strict true) (step : Float32) (ctx : Context) :
    (l.onUpdate step ctx).2.1.Orderly strict true := by
  cases l with
  | task t => trivial
  | sequence s => exact Sequence.Orderly.onUpdate orderly step ctx
  | parallel p => exact Parallel.Orderly.onUpdate orderly step ctx
  | machine m => exact Machine.Orderly.onUpdate orderly step ctx

theorem orderly_onTrigger (orderly : l.Orderly strict active) (tag : String) :
    (l.onTrigger tag).Orderly strict active := by
  cases l with
  | task t => trivial
  | sequence s => exact Sequence.Orderly.onTrigger orderly tag
  | parallel p => exact Parallel.Orderly.onTrigger orderly tag
  | machine m => exact Machine.Orderly.onTrigger orderly tag

theorem refusals_onUpdate [Behaves.Quiet β] (orderly : l.Orderly strict true) (step : Float32)
    (ctx : Context) : (l.onUpdate step ctx).2.2.refusals = ctx.refusals := by
  cases l with
  | task t => rfl
  | sequence s => exact Sequence.Orderly.refusals_onUpdate orderly step ctx
  | parallel p => exact Parallel.Orderly.refusals_onUpdate orderly step ctx
  | machine m => exact Machine.Orderly.refusals_onUpdate orderly step ctx

end Logic

namespace Node

omit [Behaves β] [Ordered β] [Behaves.Disciplined β] in
@[simp]
theorem active_begin (ctx : Context) (n : Node β) : (n.begin ctx).1.active = n.active := by
  unfold begin
  split <;> rfl

omit [Behaves.Disciplined β] in
theorem orderly_begin (ctx : Context) {n : Node β} (orderly : n.logic.Orderly strict active) :
    (n.begin ctx).1.logic.Orderly strict active := by
  unfold begin
  split
  · exact orderly
  · exact Logic.orderly_onBegin orderly ctx

omit [Behaves β] [Ordered β] [Behaves.Disciplined β] in
theorem refusals_begin (ctx : Context) (n : Node β) :
    (n.begin ctx).2.refusals = ctx.refusals := by
  unfold begin
  split
  · rfl
  · cases n.logic <;> rfl

instance disciplined [Behaves.Quiet β] : Behaves.Disciplined (Node β) where
  isActive_activate ctx n := by
    show (n.activate ctx).1.active = true
    unfold activate
    split
    · assumption
    · rfl
  isActive_deactivate ctx n := by
    show (n.deactivate ctx).1.active = false
    unfold deactivate
    split
    · rfl
    · simp_all
  isActive_reset ctx n := rfl
  isActive_update step ctx n := by
    show (n.update step ctx).2.1.active = n.active
    unfold update
    split
    · simp
    · rfl
  isActive_onTrigger tag n := by
    show (n.onTrigger tag).active = n.active
    unfold onTrigger
    split <;> rfl
  orderly_activate {strict} ctx n orderly := by
    show (n.activate ctx).1.logic.Orderly strict (n.activate ctx).1.active
    have order : n.logic.Orderly strict n.active := orderly
    unfold activate
    split
    · exact order
    · rename_i resting
      rw [Bool.not_eq_true] at resting
      rw [resting] at order
      exact Logic.orderly_onActivate order ctx
  orderly_deactivate {strict} ctx n orderly := by
    show (n.deactivate ctx).1.logic.Orderly strict (n.deactivate ctx).1.active
    have order : n.logic.Orderly strict n.active := orderly
    unfold deactivate
    split
    · rename_i awake
      rw [awake] at order
      exact Logic.orderly_onDeactivate order ctx
    · exact order
  orderly_reset ctx n orderly resting := Logic.orderly_onReset orderly resting ctx
  orderly_update {strict} step ctx n orderly := by
    show (n.update step ctx).2.1.logic.Orderly strict (n.update step ctx).2.1.active
    have order : n.logic.Orderly strict n.active := orderly
    unfold update
    split
    · rename_i awake
      rw [awake] at order
      dsimp only
      rw [active_begin, awake]
      exact Logic.orderly_onUpdate (orderly_begin ctx order) _ _
    · exact order
  orderly_onTrigger {strict} tag n orderly := by
    show (n.onTrigger tag).logic.Orderly strict (n.onTrigger tag).active
    unfold onTrigger
    split
    · exact Logic.orderly_onTrigger orderly tag
    · exact orderly
  refusals_update {strict} step ctx n orderly awake := by
    show (n.update step ctx).2.2.refusals = ctx.refusals
    have order : n.logic.Orderly strict n.active := orderly
    have active : n.active = true := awake
    rw [active] at order
    rw [update, if_pos active]
    exact (Logic.refusals_onUpdate (orderly_begin ctx order) _ _).trans (refusals_begin ctx n)

end Node

instance Behavior.disciplined : (height : Nat) → Behaves.Disciplined (Behavior height)
  | 0 => inferInstanceAs (Behaves.Disciplined Empty)
  | height + 1 =>
    have := disciplined height
    inferInstanceAs (Behaves.Disciplined (Node (Behavior height)))

/-- Behaviors that nothing puts to rest while they rest. -/
class Behaves.Reserved (β : Type) [Behaves β] : Prop where
  deactivate_of_resting (ctx : Context) {b : β} (resting : isActive b = false) :
    deactivate ctx b = (b, ctx)

instance : Behaves.Reserved Empty where
  deactivate_of_resting _ b := nomatch b

instance Node.reserved {β : Type} [Behaves β] : Behaves.Reserved (Node β) where
  deactivate_of_resting ctx n resting := by
    have resting : n.active = false := resting
    show n.deactivate ctx = (n, ctx)
    rw [deactivate, if_neg (by simp [resting])]

instance Behavior.reserved : (height : Nat) → Behaves.Reserved (Behavior height)
  | 0 => inferInstanceAs (Behaves.Reserved Empty)
  | height + 1 => inferInstanceAs (Behaves.Reserved (Node (Behavior height)))

end SkillScript
