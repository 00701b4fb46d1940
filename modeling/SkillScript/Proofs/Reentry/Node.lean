import SkillScript.Proofs.Reentry.Machine
import SkillScript.Proofs.Reentry.Task
/-!
# Nodes that look alike

A pair of nodes at rest looks alike once both are reset, whatever they were through
before. From then on they look alike after every call, in scopes that are alike.
Trees of every height do so by induction on the height.
-/
set_option autoImplicit false
namespace SkillScript

open Behaves

variable {β : Type} [Behaves β] [Ordered β] [Lasting β] [Outlined β] [Resembling β] {k j : Nat}

namespace Logic

inductive Alike (k j : Nat) (begun : Bool) : Logic β → Logic β → Prop where
  | task {t t' : Task} (same : t.Alike begun t') : Alike k j begun (task t) (task t')
  | sequence {s s' : Sequence β} (same : s.Alike k j s') :
    Alike k j begun (sequence s) (sequence s')
  | parallel {p p' : Parallel β} (same : p.Alike k j p') :
    Alike k j begun (parallel p) (parallel p')
  | machine {m m' : Machine β} (same : m.Alike k j m') : Alike k j begun (machine m) (machine m')

variable {l l' : Logic β} {ctx ctx' : Context} {begun active : Bool}

theorem Alike.canStop (alike : l.Alike k j begun l') (paired : l.Paired active l') :
    l.canStop = l'.canStop := by
  cases alike with
  | task same => exact same.canStop
  | sequence same => exact same.canStop paired.sequence
  | parallel same => exact same.canStop
  | machine same => exact same.canStop

variable [Repeatable β]

theorem Alike.onTrigger (alike : l.Alike k j begun l') (paired : l.Paired active l')
    (tag : String) : (l.onTrigger tag).Alike k j begun (l'.onTrigger tag) := by
  cases alike with
  | task same => exact .task same
  | sequence same => exact .sequence (same.onTrigger paired.sequence tag)
  | parallel same => exact .parallel (same.onTrigger paired.parallel tag)
  | machine same => exact .machine (same.onTrigger paired tag)

variable [Behaves.Quiet β]

theorem Alike.onDeactivate (alike : l.Alike k j begun l') (paired : l.Paired active l')
    (scopes : ctx.toScope.Alike k j ctx'.toScope) :
    (l.onDeactivate ctx).1.Alike k j begun (l'.onDeactivate ctx').1 := by
  cases alike with
  | task same => exact .task same
  | sequence same => exact .sequence (same.onDeactivate paired.sequence scopes)
  | parallel same => exact .parallel (same.onDeactivate paired.parallel scopes)
  | machine same => exact .machine (same.onDeactivate paired scopes)

omit [Repeatable β] in
theorem alike_reset (scopes : ctx.toScope.Alike k j ctx'.toScope) (paired : l.Paired active l') :
    (l.onReset ctx).1.Alike k j false (l'.onReset ctx').1 := by
  have made := paired.made
  cases l with
  | task t =>
    cases l' with
    | task t' => exact .task (Task.reset_alike scopes (Logic.task.inj made))
    | _ => cases made
  | sequence s =>
    cases l' with
    | sequence s' => exact .sequence (s.alike_reset s' ctx ctx')
    | _ => cases made
  | parallel p =>
    cases l' with
    | parallel p' => exact .parallel (Parallel.alike_reset scopes paired.parallel)
    | _ => cases made
  | machine m =>
    cases l' with
    | machine m' => exact .machine (m.alike_reset m' ctx ctx')
    | _ => cases made

omit [Repeatable β] [Quiet β] in
/-- Whatever a task was before, it has begun in the same way. -/
theorem Alike.onBegin (alike : l.Alike k j false l') (paired : l.Paired active l')
    (scopes : ctx.toScope.Alike k j ctx'.toScope) :
    (l.onBegin ctx).1.Alike k j true (l'.onBegin ctx').1 ∧
      (l.onBegin ctx).2.toScope.Alike k j (l'.onBegin ctx').2.toScope := by
  cases alike with
  | task same =>
    obtain ⟨begun, later⟩ := same.begin scopes (Task.isScripted_of_type paired.type)
    exact ⟨.task begun, later⟩
  | sequence same => exact ⟨.sequence same, scopes⟩
  | parallel same => exact ⟨.parallel same, scopes⟩
  | machine same => exact ⟨.machine same, scopes⟩

variable [Behaves.Disciplined β]

theorem Alike.onActivate (alike : l.Alike k j begun l') (paired : l.Paired false l')
    (scopes : ctx.toScope.Alike k j ctx'.toScope) :
    (l.onActivate ctx).1.Alike k j begun (l'.onActivate ctx').1 := by
  cases alike with
  | task same => exact .task same
  | sequence same => exact .sequence (same.onActivate paired.sequence scopes)
  | parallel same => exact .parallel (same.onActivate paired.parallel scopes)
  | machine same => exact .machine (same.onActivate paired scopes)

theorem Alike.onUpdate (alike : l.Alike k j true l') (paired : l.Paired true l')
    (step : Float32) (scopes : ctx.toScope.Alike k j ctx'.toScope) :
    Agree k j (Alike k j true) (l.onUpdate step ctx) (l'.onUpdate step ctx') := by
  cases alike with
  | @task t t' same =>
    have equal : t = t' := same
    subst equal
    obtain ⟨left, done, later⟩ :=
      Task.update_alike step scopes (Task.isScripted_of_type paired.type)
    exact ⟨left, .task done, later⟩
  | sequence same =>
    have ran := same.onUpdate paired.sequence step scopes
    exact ⟨ran.left, .sequence ran.nodes, ran.scopes⟩
  | parallel same =>
    have ran := same.onUpdate paired.parallel step scopes
    exact ⟨ran.left, .parallel ran.nodes, ran.scopes⟩
  | machine same =>
    have ran := same.onUpdate paired step scopes
    exact ⟨ran.left, .machine ran.nodes, ran.scopes⟩

end Logic

namespace Node

structure Alike (k j : Nat) (n n' : Node β) : Prop where
  active : n.active = n'.active
  begun : n.begun = n'.begun
  logic : n.logic.Alike k j n.begun n'.logic

instance resembling : Resembling (Node β) where
  Alike := Alike

omit [Resembling β] in
theorem logic_paired {n n' : Node β} (paired : Behaves.Paired n n') (same : n.active = n'.active) :
    n.logic.Paired n.active n'.logic where
  left := paired.left
  right := by
    rw [same]
    exact paired.right
  type := by
    have builtin := paired.builtin
    rw [Node.outline_eq, Outline.labels_node] at builtin
    exact builtin _ List.mem_cons_self
  below := by
    have builtin := paired.builtin
    rw [Node.outline_eq, Outline.labels_node] at builtin
    intro o member l label
    exact builtin l (List.mem_cons_of_mem _ (List.mem_flatMap_of_mem member label))
  made := congrArg Node.logic paired.made

variable {n n' : Node β} {ctx ctx' : Context}

omit [Resembling β] in
theorem begin_paired {active : Bool} (paired : n.logic.Paired active n'.logic)
    (ctx ctx' : Context) : (n.begin ctx).1.logic.Paired active (n'.begin ctx').1.logic :=
  paired.of_pristine (orderly_begin ctx paired.left) (orderly_begin ctx' paired.right)
    (n.pristine_begin ctx) (n'.pristine_begin ctx')

/-- Once they have begun, nodes that looked alike before are alike in all that counts. -/
theorem Alike.begin (alike : n.Alike k j n') {active : Bool}
    (paired : n.logic.Paired active n'.logic) (scopes : ctx.toScope.Alike k j ctx'.toScope) :
    (n.begin ctx).1.begun = true ∧ (n'.begin ctx').1.begun = true ∧
      (n.begin ctx).1.logic.Alike k j true (n'.begin ctx').1.logic ∧
      (n.begin ctx).2.toScope.Alike k j (n'.begin ctx').2.toScope := by
  have logic := alike.logic
  unfold Node.begin
  rw [← alike.begun]
  split
  · rename_i begun
    rw [begun] at logic
    exact ⟨begun, alike.begun.symm.trans begun, logic, scopes⟩
  · rename_i unbegun
    rw [Bool.not_eq_true] at unbegun
    rw [unbegun] at logic
    obtain ⟨begun, later⟩ := logic.onBegin paired scopes
    exact ⟨rfl, rfl, begun, later⟩

variable [Behaves.Disciplined β] [Behaves.Quiet β] [Repeatable β]

theorem Alike.update (alike : n.Alike k j n') (paired : n.logic.Paired n.active n'.logic)
    (step : Float32) (scopes : ctx.toScope.Alike k j ctx'.toScope) :
    Agree k j (Alike k j) (n.update step ctx) (n'.update step ctx') := by
  unfold Node.update
  rw [← alike.active]
  split
  · rename_i awake
    rw [awake] at paired
    obtain ⟨begun, begun', logic, later⟩ := alike.begin paired scopes
    have ran := logic.onUpdate (begin_paired paired ctx ctx') (if step < 0 then 0 else step) later
    have active : (n.begin ctx).1.active = (n'.begin ctx').1.active := by
      rw [active_begin, active_begin, alike.active]
    refine ⟨ran.left, ⟨active, begun.trans begun'.symm, ?_⟩, ran.scopes⟩
    simp only [begun]
    exact ran.nodes
  · exact ⟨rfl, alike, scopes⟩

instance repeatable : Repeatable (Node β) where
  canStop_eq {k j n n'} paired alike := by
    have same : n.Alike k j n' := alike
    exact same.logic.canStop (logic_paired paired same.active)
  alike_reset {k j ctx ctx'} scopes n n' paired resting resting' := by
    show Alike k j (n.reset ctx).1 (n'.reset ctx').1
    have active : n.active = n'.active := Eq.trans resting resting'.symm
    exact ⟨active, rfl, Logic.alike_reset scopes (logic_paired paired active)⟩
  alike_activate {k j ctx ctx'} scopes n n' paired alike := by
    show Alike k j (n.activate ctx).1 (n'.activate ctx').1
    have same : n.Alike k j n' := alike
    have pair := logic_paired paired same.active
    unfold Node.activate
    rw [← same.active]
    split
    · exact same
    · rename_i resting
      rw [Bool.not_eq_true] at resting
      rw [resting] at pair
      exact ⟨rfl, same.begun, same.logic.onActivate pair scopes⟩
  alike_deactivate {k j ctx ctx'} scopes n n' paired alike := by
    show Alike k j (n.deactivate ctx).1 (n'.deactivate ctx').1
    have same : n.Alike k j n' := alike
    have pair := logic_paired paired same.active
    unfold Node.deactivate
    rw [← same.active]
    split
    · exact ⟨rfl, same.begun, same.logic.onDeactivate pair scopes⟩
    · exact same
  update_agree {k j ctx ctx'} step scopes n n' paired alike := by
    have same : n.Alike k j n' := alike
    exact same.update (logic_paired paired same.active) step scopes
  alike_onTrigger {k j} tag n n' paired alike := by
    show Alike k j (n.onTrigger tag) (n'.onTrigger tag)
    have same : n.Alike k j n' := alike
    have pair := logic_paired paired same.active
    unfold Node.onTrigger
    rw [← same.active]
    split
    · exact ⟨rfl, same.begun, same.logic.onTrigger pair tag⟩
    · exact same

end Node

instance Behavior.resembling : (height : Nat) → Resembling (Behavior height)
  | 0 => inferInstanceAs (Resembling Empty)
  | height + 1 =>
    let _ := resembling height
    inferInstanceAs (Resembling (Node (Behavior height)))

instance Behavior.repeatable : (height : Nat) → Repeatable (Behavior height)
  | 0 => inferInstanceAs (Repeatable Empty)
  | height + 1 =>
    have := repeatable height
    inferInstanceAs (Repeatable (Node (Behavior height)))

end SkillScript
