import SkillScript.Proofs.Tree.Holdings
/-!
# Finished behaviors

A behavior has finished when it has begun and nothing is left to do: a sequence is
past its last child, all lanes of a parallel are through, and a machine is in a
state without transitions whose logic has ended and whose own behavior has finished.
Nothing but a reset changes that, and an update of what has finished has no effect
unless a hook of the host has one.
-/
set_option autoImplicit false
namespace SkillScript

class Finishing (β : Type) where
  Finished : β → Prop

instance : Finishing Empty where
  Finished b := nomatch b

variable {β : Type}

section Definitions

variable [Finishing β]

structure State.Finished (s : State β) : Prop where
  ended : s.ended = true
  transitions : s.transitions = []
  behavior : ∀ b ∈ s.behavior, Finishing.Finished b

structure Sequence.Finished (s : Sequence β) : Prop where
  started : s.started = true
  passed : s.children.length ≤ s.index

structure Parallel.Finished (p : Parallel β) : Prop where
  started : p.started = true
  through : ∀ l ∈ p.lanes, l.finished = true

def Machine.Finished (m : Machine β) : Prop :=
  ∃ s, m.currentState? = some s ∧ s.Finished

def Logic.Finished : Logic β → Prop
  | task t => t.canStop = true
  | sequence s => s.Finished
  | parallel p => p.Finished
  | machine m => m.Finished

structure Node.Finished (n : Node β) : Prop where
  begun : n.begun = true
  logic : n.logic.Finished

instance Node.finishing : Finishing (Node β) where
  Finished n := n.Finished

instance Behavior.finishing : (height : Nat) → Finishing (Behavior height)
  | 0 => inferInstanceAs (Finishing Empty)
  | height + 1 =>
    let _ := finishing height
    inferInstanceAs (Finishing (Node (Behavior height)))

end Definitions

class Behaves.Conclusive (β : Type) [Behaves β] [Finishing β] : Prop where
  canStop_of_finished {b : β} (finished : Finishing.Finished b) : canStop b = true
  finished_activate (ctx : Context) {b : β} (finished : Finishing.Finished b) :
    Finishing.Finished (activate ctx b).1
  finished_deactivate (ctx : Context) {b : β} (finished : Finishing.Finished b) :
    Finishing.Finished (deactivate ctx b).1
  finished_update (step : Float32) (ctx : Context) {b : β} (finished : Finishing.Finished b) :
    Finishing.Finished (update step ctx b).2.1
  finished_onTrigger (tag : String) {b : β} (finished : Finishing.Finished b) :
    Finishing.Finished (onTrigger tag b)

instance : Behaves.Conclusive Empty where
  canStop_of_finished {b} := nomatch b
  finished_activate _ b := nomatch b
  finished_deactivate _ b := nomatch b
  finished_update _ _ b := nomatch b
  finished_onTrigger _ b := nomatch b

/-- Behaviors whose updates have no effect once they have finished, unless a hook of the host has
one. -/
class Behaves.Inert (β : Type) [Behaves β] [Lasting β] [Ordered β] [Holding β] [Finishing β] :
    Prop where
  pardon_update (step : Float32) (ctx : Context) {b : β} (finished : Finishing.Finished b)
    (still : ∀ h ∈ Holding.hooks b, h.onUpdate = none) :
    (update step ctx b).2.2.pardon = ctx.pardon

instance : Behaves.Inert Empty where
  pardon_update _ _ b := nomatch b

open Behaves.Conclusive

/-! ## Tasks -/

namespace Task

variable {t : Task}

theorem canStop_update (step : Float32) (s : Scope) (finished : t.canStop = true) :
    (t.update step s).2.1.canStop = true := by
  cases t with
  | wait c timer =>
    have done : timer.done = true := finished
    simp [update, canStop, done]
  | healthOverTime c timer flow =>
    have done : timer.done = true := finished
    simp [update, canStop, done]
  | deed d => rfl
  | waitCheck attrs predicate elapsed satisfied =>
    have done : satisfied = true := finished
    simp [update, canStop, done]
  | delegate number host finished' =>
    cases hooked : host.hooks.onUpdate with
    | none => simp [update, canStop, hooked]
    | some hook =>
      have done : finished' = true := by simpa [canStop, hooked] using finished
      simp [update, canStop, hooked, done]

theorem scope_update (step : Float32) (s : Scope) (finished : t.canStop = true)
    (still : ∀ h ∈ t.hooks, h.onUpdate = none) : (t.update step s).2.2 = s := by
  cases t with
  | wait c timer =>
    have done : timer.done = true := finished
    simp [update, done]
  | healthOverTime c timer flow =>
    have done : timer.done = true := finished
    simp [update, done]
  | deed d => rfl
  | waitCheck attrs predicate elapsed satisfied =>
    have done : satisfied = true := finished
    simp [update, done]
  | delegate number host finished' =>
    have unhooked := still host.hooks (List.mem_cons_self ..)
    simp [update, unhooked]

end Task

/-! ## Sequences and parallels -/

variable [Behaves β]

namespace Sequence.Finished

variable {s : Sequence β}

omit [Behaves β] in
theorem actAt (finished : s.Finished) (act : Context → β → β × Context) (ctx : Context) :
    SkillScript.actAt act ctx s.index s.children = (s.children, ctx) := by
  rw [actAt_eq, List.getElem?_eq_none finished.passed]

theorem onActivate (finished : s.Finished) (ctx : Context) : s.onActivate ctx = (s, ctx) := by
  rw [Sequence.onActivate, if_pos finished.started, finished.actAt]

theorem onDeactivate (finished : s.Finished) (ctx : Context) : s.onDeactivate ctx = (s, ctx) := by
  rw [Sequence.onDeactivate, finished.actAt]

theorem onUpdate (finished : s.Finished) (step : Float32) (ctx : Context) :
    s.onUpdate step ctx = (step, s, ctx) := by
  have left : s.children.drop s.index = [] := List.drop_eq_nil_of_le finished.passed
  have all : s.children.take s.index = s.children := List.take_of_length_le finished.passed
  have same : { s with started := true } = s := by rw [← finished.started]
  simp only [Sequence.onUpdate, left, run, all, List.append_nil, Nat.add_zero]
  rw [same]

theorem onTrigger (finished : s.Finished) (tag : String) : s.onTrigger tag = s := by
  rw [Sequence.onTrigger, List.modify_eq_self finished.passed]

end Sequence.Finished

namespace Parallel

theorem run_of_finished (step least : Float32) (ctx : Context) {lanes : List (Lane β)}
    (through : ∀ l ∈ lanes, l.finished = true) :
    run step least ctx lanes = (least, lanes, ctx) := by
  induction lanes with
  | nil => rfl
  | cons l rest ih =>
    obtain ⟨first, others⟩ := List.forall_mem_cons.mp through
    rw [run_cons, if_pos first, ih others]

namespace Finished

variable {p : Parallel β}

theorem onActivate (finished : p.Finished) (ctx : Context) : (p.onActivate ctx).1.Finished := by
  rw [Parallel.onActivate, if_pos finished.started]
  refine ⟨finished.started, forall_mem_actAll (fun ctx l through => ?_) ctx finished.through⟩
  rw [Lane.actIfRunning, if_pos through]
  exact through

theorem onDeactivate (finished : p.Finished) (ctx : Context) :
    (p.onDeactivate ctx).1.Finished :=
  ⟨finished.started, forall_mem_actAll (fun _ _ through => through) ctx finished.through⟩

theorem onUpdate (finished : p.Finished) (step : Float32) (ctx : Context) :
    p.onUpdate step ctx = (step, p, ctx) := by
  simp only [Parallel.onUpdate, ready, if_pos finished.started,
    run_of_finished step step ctx finished.through]

theorem onTrigger (finished : p.Finished) (tag : String) : (p.onTrigger tag).Finished := by
  refine ⟨finished.started, ?_⟩
  intro l member
  obtain ⟨l', inside, rfl⟩ := List.mem_map.mp member
  have through := finished.through l' inside
  rw [if_pos through]
  exact through

end Finished

end Parallel

/-! ## States -/

namespace State

theorem update_of_ended {s : State β} (step : Float32) (ctx : Context) (ended : s.ended = true) :
    s.update step ctx =
      if s.active then
        ({ s with behavior := (runBehavior step ctx s.behavior).2.1 },
          (runBehavior step ctx s.behavior).2.2)
      else (s, ctx.refuse) := by
  simp [update, ended]

variable [Finishing β]

theorem finished_runBehavior [Behaves.Conclusive β] (step : Float32) (ctx : Context)
    {o : Option β} (finished : ∀ b ∈ o, Finishing.Finished b) :
    ∀ b ∈ (runBehavior step ctx o).2.1, Finishing.Finished b := by
  cases o with
  | none => exact finished
  | some b =>
    intro b' made
    cases made
    exact finished_update step ctx (finished b rfl)

namespace Finished

variable {s : State β}

omit [Behaves β] in
theorem checkTransitions (finished : s.Finished) (step : Float32) (ctx : Context) :
    s.checkTransitions step ctx = (none, s, ctx) := by
  have same : { s with transitions := [] } = s := by rw [← finished.transitions]
  rw [State.checkTransitions, if_pos finished.ended, finished.transitions]
  simp only [Transition.checkFirst, same]

variable [Behaves.Conclusive β]

theorem activate (finished : s.Finished) (ctx : Context) : (s.activate ctx).1.Finished := by
  unfold State.activate
  split
  · exact finished
  · refine ⟨finished.ended, ?_, forall_mem_actOn (fun ctx _ => finished_activate ctx) ctx
      finished.behavior⟩
    simp [finished.transitions, actAll]

theorem deactivate (finished : s.Finished) (ctx : Context) : (s.deactivate ctx).1.Finished := by
  unfold State.deactivate
  split
  · refine ⟨finished.ended, ?_, forall_mem_actOn (fun ctx _ => finished_deactivate ctx) ctx
      finished.behavior⟩
    simp [finished.transitions, actAll]
  · exact finished

theorem onTrigger (finished : s.Finished) (tag : String) : (s.onTrigger tag).Finished := by
  unfold State.onTrigger
  split
  · refine ⟨finished.ended, by simp [finished.transitions], ?_⟩
    intro b member
    obtain ⟨b', inside, rfl⟩ := Option.map_eq_some_iff.mp member
    exact finished_onTrigger tag (finished.behavior b' inside)
  · exact finished

theorem update (finished : s.Finished) (step : Float32) (ctx : Context) :
    (s.update step ctx).1.Finished := by
  rw [update_of_ended step ctx finished.ended]
  split
  · exact ⟨finished.ended, finished.transitions, finished_runBehavior step ctx finished.behavior⟩
  · exact finished

end Finished

end State

/-! ## Machines -/

namespace Machine

variable [Finishing β] {m : Machine β}

omit [Behaves β] in
theorem Finished.actOnCurrent {f : Context → State β → State β × Context} (finished : m.Finished)
    (keeps : ∀ ctx s, s.Finished → (f ctx s).1.Finished) (ctx : Context) :
    (m.actOnCurrent f ctx).1.Finished := by
  obtain ⟨s, current, done⟩ := finished
  refine ⟨(f ctx s).1, ?_, keeps ctx s done⟩
  rw [currentState?_actOnCurrent, current]
  rfl

/-- An update of a machine that has finished is an update of its state. -/
theorem Finished.onUpdate [Behaves.Conclusive β] (finished : m.Finished) (step : Float32)
    (ctx : Context) :
    ∃ i s, m.current = some i ∧ m.states[i]? = some s ∧ s.Finished ∧
      m.onUpdate step ctx =
        (0, { m with states := m.states.set i (s.update step ctx).1 }, (s.update step ctx).2) := by
  obtain ⟨s, current, done⟩ := finished
  obtain ⟨i, running, found⟩ := Option.bind_eq_some_iff.mp current
  refine ⟨i, s, running, found, done, ?_⟩
  simp only [Machine.onUpdate, ready, running, found, advance, tick,
    (done.update step ctx).checkTransitions step (s.update step ctx).2]

theorem Finished.onTrigger [Behaves.Conclusive β] (finished : m.Finished) (tag : String) :
    (m.onTrigger tag).Finished := by
  obtain ⟨s, current, done⟩ := finished
  obtain ⟨i, running, found⟩ := Option.bind_eq_some_iff.mp current
  refine ⟨s.onTrigger tag, ?_, done.onTrigger tag⟩
  simp [Machine.onTrigger, currentState?, running, found]

end Machine

/-! ## Behaviors -/

namespace Logic

variable [Finishing β] [Behaves.Conclusive β] {l : Logic β}

omit [Behaves β] [Behaves.Conclusive β] in
theorem canStop_of_finished (finished : l.Finished) : l.canStop = true := by
  cases l with
  | task t => exact finished
  | sequence s => exact decide_eq_true (Sequence.Finished.passed finished)
  | parallel p => exact List.all_eq_true.mpr (Parallel.Finished.through finished)
  | machine m =>
    obtain ⟨s, current, done⟩ := finished
    simp [canStop, Machine.canStop, current, done.ended, done.transitions]

theorem finished_onActivate (ctx : Context) (finished : l.Finished) :
    (l.onActivate ctx).1.Finished := by
  cases l with
  | task t => exact finished
  | sequence s =>
    simp only [onActivate, Sequence.Finished.onActivate finished]
    exact finished
  | parallel p => exact Parallel.Finished.onActivate finished ctx
  | machine m =>
    obtain ⟨s, current, done⟩ := finished
    obtain ⟨i, running, found⟩ := Option.bind_eq_some_iff.mp current
    simp only [onActivate, Machine.onActivate, running]
    exact Machine.Finished.actOnCurrent ⟨s, current, done⟩ (fun ctx _ done => done.activate ctx) ctx

theorem finished_onDeactivate (ctx : Context) (finished : l.Finished) :
    (l.onDeactivate ctx).1.Finished := by
  cases l with
  | task t => exact finished
  | sequence s =>
    simp only [onDeactivate, Sequence.Finished.onDeactivate finished]
    exact finished
  | parallel p => exact Parallel.Finished.onDeactivate finished ctx
  | machine m =>
    exact Machine.Finished.actOnCurrent finished (fun ctx _ done => done.deactivate ctx) ctx

theorem finished_onUpdate (step : Float32) (ctx : Context) (finished : l.Finished) :
    (l.onUpdate step ctx).2.1.Finished := by
  cases l with
  | task t => exact t.canStop_update step ctx.toScope finished
  | sequence s =>
    simp only [onUpdate, Sequence.Finished.onUpdate finished]
    exact finished
  | parallel p =>
    simp only [onUpdate, Parallel.Finished.onUpdate finished]
    exact finished
  | machine m =>
    obtain ⟨i, s, running, found, done, updated⟩ := Machine.Finished.onUpdate finished step ctx
    obtain ⟨bound, -⟩ := List.getElem?_eq_some_iff.mp found
    simp only [onUpdate, updated]
    exact ⟨(s.update step ctx).1, by simp [Machine.currentState?, running, bound],
      done.update step ctx⟩

theorem finished_onTrigger (tag : String) (finished : l.Finished) :
    (l.onTrigger tag).Finished := by
  cases l with
  | task t => exact finished
  | sequence s =>
    simp only [onTrigger, Sequence.Finished.onTrigger finished]
    exact finished
  | parallel p => exact Parallel.Finished.onTrigger finished tag
  | machine m => exact Machine.Finished.onTrigger finished tag

end Logic

namespace Node

/-- A node that has begun does not begin again. -/
theorem update_of_begun {n : Node β} (step : Float32) (ctx : Context) (begun : n.begun = true) :
    n.update step ctx =
      if n.active then
        let updated := n.logic.onUpdate (if step < 0 then 0 else step) ctx
        (updated.1, { n with logic := updated.2.1 }, updated.2.2)
      else (step, n, ctx.refuse) := by
  simp only [update, begin, if_pos begun]

instance conclusive [Finishing β] [Behaves.Conclusive β] : Behaves.Conclusive (Node β) where
  canStop_of_finished {n} finished :=
    have finished : n.Finished := finished
    Logic.canStop_of_finished finished.logic
  finished_activate ctx n finished := by
    have finished : n.Finished := finished
    show (n.activate ctx).1.Finished
    unfold activate
    split
    · exact finished
    · exact ⟨finished.begun, Logic.finished_onActivate ctx finished.logic⟩
  finished_deactivate ctx n finished := by
    have finished : n.Finished := finished
    show (n.deactivate ctx).1.Finished
    unfold deactivate
    split
    · exact ⟨finished.begun, Logic.finished_onDeactivate ctx finished.logic⟩
    · exact finished
  finished_update step ctx n finished := by
    have finished : n.Finished := finished
    show (n.update step ctx).2.1.Finished
    rw [update_of_begun step ctx finished.begun]
    split
    · exact ⟨finished.begun, Logic.finished_onUpdate _ ctx finished.logic⟩
    · exact finished
  finished_onTrigger tag n finished := by
    have finished : n.Finished := finished
    show (n.onTrigger tag).Finished
    unfold onTrigger
    split
    · exact ⟨finished.begun, Logic.finished_onTrigger tag finished.logic⟩
    · exact finished

end Node

instance Behavior.conclusive : (height : Nat) → Behaves.Conclusive (Behavior height)
  | 0 => inferInstanceAs (Behaves.Conclusive Empty)
  | height + 1 =>
    have := conclusive height
    inferInstanceAs (Behaves.Conclusive (Node (Behavior height)))

/-! ## Updates without effect -/

section Inert

variable [Lasting β] [Ordered β] [Holding β] [Finishing β] [Behaves.Conclusive β]
  [Behaves.Inert β]

omit [Behaves.Conclusive β] in
theorem State.Finished.pardon_update {s : State β} (finished : s.Finished) (step : Float32)
    (ctx : Context) (still : ∀ h ∈ s.hooks, h.onUpdate = none) :
    (s.update step ctx).2.pardon = ctx.pardon := by
  rw [update_of_ended step ctx finished.ended]
  split
  · cases behavior : s.behavior with
    | none => rfl
    | some b =>
      refine Behaves.Inert.pardon_update step ctx (finished.behavior b behavior) ?_
      intro h member
      refine still h (List.mem_append_left _ ?_)
      simpa [behavior] using member
  · rfl

theorem Logic.pardon_onUpdate {l : Logic β} (step : Float32) (ctx : Context)
    (finished : l.Finished) (still : ∀ h ∈ l.hooks, h.onUpdate = none) :
    (l.onUpdate step ctx).2.2.pardon = ctx.pardon := by
  cases l with
  | task t =>
    simp only [onUpdate, t.scope_update step ctx.toScope finished still]
  | sequence s => simp only [onUpdate, Sequence.Finished.onUpdate finished]
  | parallel p => simp only [onUpdate, Parallel.Finished.onUpdate finished]
  | machine m =>
    obtain ⟨i, s, running, found, done, updated⟩ := Machine.Finished.onUpdate finished step ctx
    have inside := subset_flatMap_of_mem State.hooks (List.mem_of_getElem? found)
    simp only [onUpdate, updated]
    exact done.pardon_update step ctx fun h member => still h (inside member)

instance Node.inert : Behaves.Inert (Node β) where
  pardon_update step ctx n finished still := by
    have finished : n.Finished := finished
    show (n.update step ctx).2.2.pardon = ctx.pardon
    rw [update_of_begun step ctx finished.begun]
    split
    · exact Logic.pardon_onUpdate _ ctx finished.logic still
    · rfl

end Inert

instance Behavior.inert : (height : Nat) → Behaves.Inert (Behavior height)
  | 0 => inferInstanceAs (Behaves.Inert Empty)
  | height + 1 =>
    have := inert height
    inferInstanceAs (Behaves.Inert (Node (Behavior height)))

end SkillScript
