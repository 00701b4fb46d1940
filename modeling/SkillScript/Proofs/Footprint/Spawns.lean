import Mathlib.Algebra.Order.BigOperators.Group.List
import Mathlib.Algebra.Order.Ring.Nat
import SkillScript.Proofs.Tree.Holdings
import SkillScript.Proofs.Tree.Outline
import SkillScript.Proofs.Tree.Quiet
/-!
# How much an update can spawn

Within one update of a tree no node is updated twice: a sequence and a parallel pass
each of their children at most once, and a machine updates one state and, when that
is left, its exit behavior. A node that is updated spawns at most one object. So one
update spawns no more objects than the tree has nodes, unless hooks of the host do.
-/
set_option autoImplicit false
namespace SkillScript

theorem Context.spawns_eq_of_mute {ctx ctx' : Context} (same : ctx.mute = ctx'.mute) :
    ctx.entities.spawns = ctx'.entities.spawns := by
  have parts : ctx.mute.entities.spawns = ctx'.mute.entities.spawns := by rw [same]
  exact parts

def Outlined.size {β : Type} [Behaves β] [Lasting β] [Outlined β] (b : β) : Nat :=
  (outline .root b).labels.length

open Outlined (size)

/-- Behaviors that spawn no more than one object for each of their nodes in an update, if they hold
no hooks. -/
class Behaves.Sparing (β : Type) [Behaves β] [Lasting β] [Ordered β] [Holding β] [Outlined β] :
    Prop where
  spawns_update (step : Float32) (ctx : Context) (b : β) (unhooked : Holding.hooks b = []) :
    (update step ctx b).2.2.entities.spawns ≤ ctx.entities.spawns + size b

instance : Behaves.Sparing Empty where
  spawns_update _ _ b := nomatch b

/-! ## Tasks -/

namespace Entities

theorem spawns_spawn_le (es : Entities) (owner : EntityId) (kind : String) (tag : CastTag) :
    (es.spawn owner kind tag).2.spawns ≤ es.spawns + 1 := by
  rw [spawn]
  cases es.find? owner with
  | none => exact Nat.le_succ _
  | some e => exact Nat.le_refl _

end Entities

theorem Deed.spawns_perform_le (s : Scope) (d : Deed) :
    (d.perform s).entities.spawns ≤ s.entities.spawns + 1 := by
  cases d with
  | modifyHealth target amount =>
    simp only [perform]
    cases target.live? s <;> exact Nat.le_succ _
  | spawnOwned kind storeAs =>
    have spawned := s.entities.spawns_spawn_le s.owner kind s.tag
    simp only [perform]
    split <;> exact spawned
  | _ => exact Nat.le_succ _

theorem Flow.spawns_apply (f : Flow) (whole : Int32) (s : Scope) :
    (f.apply whole s).2.entities.spawns = s.entities.spawns := by
  rw [apply]
  split
  · rfl
  · cases f.target <;> rfl

namespace Task

theorem spawns_begin_le (s : Scope) {t : Task} (unhooked : t.hooks = []) :
    (t.begin s).2.entities.spawns ≤ s.entities.spawns + 1 := by
  cases t with
  | deed d => exact d.spawns_perform_le s
  | delegate number host finished => cases unhooked
  | _ => exact Nat.le_succ _

theorem spawns_update (step : Float32) (s : Scope) {t : Task} (unhooked : t.hooks = []) :
    (t.update step s).2.2.entities.spawns = s.entities.spawns := by
  cases t with
  | wait c timer =>
    simp only [update]
    split
    · rfl
    · dsimp only
      split <;> rfl
  | healthOverTime c timer flow =>
    simp only [update]
    split
    · rfl
    · dsimp only
      split <;> simp [Flow.spawns_apply]
  | deed d => rfl
  | waitCheck attrs predicate elapsed satisfied =>
    simp only [update]
    split
    · rfl
    · split <;> rfl
  | delegate number host finished => cases unhooked

end Task

/-! ## Trees -/

variable {β : Type} [Behaves β] [Lasting β] [Ordered β] [Holding β] [Outlined β]

namespace Outlined

omit [Ordered β] [Holding β] in
theorem length_labels (part : Part) (b : β) : (outline part b).labels.length = size b := by
  rw [size, labels_outline part .root]

omit [Ordered β] [Holding β] in
theorem size_congr {b b' : β} (same : pristine b = pristine b') : size b = size b' :=
  congrArg (fun o => o.labels.length) (outline_congr .root same)

end Outlined

namespace Logic

def size (l : Logic β) : Nat :=
  (l.parts.flatMap Outline.labels).length

omit [Ordered β] [Holding β] in
theorem size_congr {l l' : Logic β} (same : l.pristine = l'.pristine) : l.size = l'.size := by
  rw [size, ← parts_pristine, same, parts_pristine, size]

omit [Ordered β] [Holding β] in
theorem size_sequence (s : Sequence β) : (sequence s).size = (s.children.map Outlined.size).sum := by
  simp [size, parts, List.flatMap_map, List.length_flatMap, Outlined.length_labels]

omit [Ordered β] [Holding β] in
theorem size_parallel (p : Parallel β) :
    (parallel p).size = (p.lanes.map fun lane => Outlined.size lane.child).sum := by
  simp [size, parts, List.flatMap_map, List.length_flatMap, Outlined.length_labels]

omit [Ordered β] [Holding β] in
theorem size_machine (m : Machine β) :
    (machine m).size = (m.states.map fun s => (s.outline .state).labels.length).sum := by
  simp [size, parts, List.flatMap_map, List.length_flatMap]

end Logic

omit [Ordered β] [Holding β] in
/-- A node counts beside those below it. -/
theorem Node.size_eq (n : Node β) : Outlined.size n = n.logic.size + 1 := by
  simp [Outlined.size, Node.outline_eq, Logic.size]

variable [Behaves.Quiet β] [Behaves.Sparing β]

namespace Sequence

theorem spawns_run_le (started : Bool) (step : Float32) (ctx : Context) {l : List β}
    (unhooked : l.flatMap Holding.hooks = []) :
    (run started step ctx l).2.2.2.entities.spawns ≤
      ctx.entities.spawns + (l.map size).sum := by
  induction l generalizing started step ctx with
  | nil => exact Nat.le_refl _
  | cons c rest ih =>
    obtain ⟨head, tail⟩ := List.append_eq_nil_iff.mp unhooked
    have readied : (ready started ctx c).2.entities.spawns = ctx.entities.spawns := by
      cases started with
      | true => rfl
      | false => exact Context.spawns_eq_of_mute (Behaves.mute_enter ctx c)
    have form := pristine_ready started ctx c
    have ran := Behaves.Sparing.spawns_update step (ready started ctx c).2
      (ready started ctx c).1 (by rwa [Holding.hooks_congr form])
    rw [Outlined.size_congr form, readied] at ran
    rw [run_cons, List.map_cons, List.sum_cons]
    dsimp only
    split
    · have rested := Context.spawns_eq_of_mute (Behaves.Quiet.mute_deactivate
        (Behaves.update step (ready started ctx c).2 (ready started ctx c).1).2.2
        (Behaves.update step (ready started ctx c).2 (ready started ctx c).1).2.1)
      refine Nat.le_trans (ih false _ _ tail) ?_
      omega
    · exact Nat.le_trans ran (by omega)

theorem spawns_onUpdate_le (step : Float32) (ctx : Context) {s : Sequence β}
    (unhooked : s.children.flatMap Holding.hooks = []) :
    (s.onUpdate step ctx).2.2.entities.spawns ≤
      ctx.entities.spawns + (s.children.map size).sum := by
  have ahead : (s.children.drop s.index).flatMap Holding.hooks = [] := by
    rw [List.flatMap_eq_nil_iff] at unhooked ⊢
    intro c member
    exact unhooked c (List.mem_of_mem_drop member)
  have total : (s.children.map size).sum =
      ((s.children.take s.index).map size).sum + ((s.children.drop s.index).map size).sum := by
    rw [← List.sum_append, ← List.map_append, List.take_append_drop]
  refine Nat.le_trans (spawns_run_le s.started step ctx ahead) ?_
  omega

end Sequence

namespace Parallel

theorem spawns_run_le (step least : Float32) (ctx : Context) {l : List (Lane β)}
    (unhooked : (l.flatMap fun lane => Holding.hooks lane.child) = []) :
    (run step least ctx l).2.2.entities.spawns ≤
      ctx.entities.spawns + (l.map fun lane => size lane.child).sum := by
  induction l generalizing least ctx with
  | nil => exact Nat.le_refl _
  | cons lane rest ih =>
    obtain ⟨head, tail⟩ := List.append_eq_nil_iff.mp unhooked
    have ran := Behaves.Sparing.spawns_update step ctx lane.child head
    rw [run_cons, List.map_cons, List.sum_cons]
    split
    · exact Nat.le_trans (ih least ctx tail) (by omega)
    · dsimp only
      split
      · have rested := Context.spawns_eq_of_mute (Behaves.Quiet.mute_deactivate
          (Behaves.update step ctx lane.child).2.2 (Behaves.update step ctx lane.child).2.1)
        refine Nat.le_trans (ih _ _ tail) ?_
        omega
      · exact Nat.le_trans (ih 0 _ tail) (by omega)

theorem spawns_onUpdate_le (step : Float32) (ctx : Context) {p : Parallel β}
    (unhooked : (Logic.parallel p).hooks = []) :
    (p.onUpdate step ctx).2.2.entities.spawns ≤
      ctx.entities.spawns + (Logic.parallel p).size := by
  have form : (Logic.parallel (p.ready ctx).1).pristine = (Logic.parallel p).pristine :=
    congrArg Logic.parallel (pristine_ready ctx p)
  have readied : (p.ready ctx).2.entities.spawns = ctx.entities.spawns := by
    rw [ready]
    split
    · rfl
    · exact Context.spawns_eq_of_mute (p.mute_start ctx)
  rw [← Logic.hooks_pristine, ← form, Logic.hooks_pristine] at unhooked
  have ran := spawns_run_le step step (p.ready ctx).2 unhooked
  rwa [← Logic.size_parallel, Logic.size_congr form, readied] at ran

end Parallel

namespace State

def partSize (part : Option β) : Nat :=
  part.elim 0 Outlined.size

omit [Ordered β] [Holding β] [Behaves.Quiet β] [Behaves.Sparing β] in
theorem partSize_le (s : State β) :
    partSize s.behavior + partSize s.exit ≤ (s.outline .state).labels.length := by
  have total (part : Part) (o : Option β) :
      ((o.toList.map (Outlined.outline part)).flatMap Outline.labels).length = partSize o := by
    cases o with
    | none => rfl
    | some b => simp [partSize, Outlined.length_labels]
  simp only [outline, Outline.labels_node, List.flatMap_append, List.length_cons,
    List.length_append, total]
  omega

omit [Behaves.Quiet β] in
theorem spawns_update_le (step : Float32) (ctx : Context) {s : State β}
    (unhooked : s.hooks = []) :
    (s.update step ctx).2.entities.spawns ≤ ctx.entities.spawns + partSize s.behavior := by
  have ran : (runBehavior step ctx s.behavior).2.2.entities.spawns ≤
      ctx.entities.spawns + partSize s.behavior := by
    cases behavior : s.behavior with
    | none => exact Nat.le_refl _
    | some b =>
      have own : Holding.hooks b = [] := by
        simp [hooks, behavior] at unhooked
        exact unhooked.1
      exact Behaves.Sparing.spawns_update step ctx b own
  unfold update
  split
  · dsimp only
    split
    · cases s.endEvent <;> exact ran
    · exact ran
  · exact Nat.le_add_right _ _

omit [Behaves β] [Lasting β] [Ordered β] [Holding β] [Outlined β] [Behaves.Quiet β]
  [Behaves.Sparing β] in
theorem spawns_checkTransitions (step : Float32) (ctx : Context) (s : State β) :
    (s.checkTransitions step ctx).2.2.entities.spawns = ctx.entities.spawns := by
  have same := Context.toScope_eq_of_pardon
    (Transition.pardon_checkFirst step ctx s.transitions)
  unfold checkTransitions
  split
  · exact congrArg (fun scope => scope.entities.spawns) same
  · rfl

theorem spawns_complete_le (ctx : Context) {b : β} (unhooked : Holding.hooks b = []) :
    (complete ctx b).2.entities.spawns ≤ ctx.entities.spawns + size b := by
  have form := Behaves.pristine_enter ctx b
  have entered := Context.spawns_eq_of_mute (Behaves.mute_enter ctx b)
  have ran := Behaves.Sparing.spawns_update (Behaves.enter ctx b).2.settings.exitStep
    (Behaves.enter ctx b).2 (Behaves.enter ctx b).1 (by rwa [Holding.hooks_congr form])
  rw [Outlined.size_congr form, entered] at ran
  have rested := Context.spawns_eq_of_mute (Behaves.Quiet.mute_deactivate
    (Behaves.update (Behaves.enter ctx b).2.settings.exitStep (Behaves.enter ctx b).2
      (Behaves.enter ctx b).1).2.2
    (Behaves.update (Behaves.enter ctx b).2.settings.exitStep (Behaves.enter ctx b).2
      (Behaves.enter ctx b).1).2.1)
  rw [← rested] at ran
  exact ran

theorem spawns_leave_le (ctx : Context) {s : State β} (unhooked : s.hooks = []) :
    (s.leave ctx).2.entities.spawns ≤ ctx.entities.spawns + partSize s.exit := by
  have rested := Context.spawns_eq_of_mute (s.mute_deactivate ctx)
  unfold leave
  dsimp only
  rw [s.exit_deactivate ctx]
  cases exit : s.exit with
  | none => exact Nat.le_of_eq rested
  | some b =>
    have own : Holding.hooks b = [] := by
      simp [hooks, exit] at unhooked
      exact unhooked.2
    have ran := spawns_complete_le (s.deactivate ctx).2 own
    rw [rested] at ran
    exact ran

end State

namespace Machine

theorem spawns_switchTo_le (ctx : Context) {m : Machine β} (target : String) {i : Nat}
    {s : State β} (current : m.current = some i) (found : m.states[i]? = some s)
    (unhooked : s.hooks = []) :
    (m.switchTo ctx target).2.entities.spawns ≤
      ctx.entities.spawns + State.partSize s.exit := by
  have left : (m.actOnCurrent State.leave ctx).2.entities.spawns ≤
      ctx.entities.spawns + State.partSize s.exit := by
    simp only [actOnCurrent, current, actAt_eq, found]
    exact s.spawns_leave_le ctx unhooked
  unfold switchTo
  split
  · exact Nat.le_add_right _ _
  · dsimp only
    rw [Context.spawns_eq_of_mute (mute_enterAt _ _ _)]
    exact left

theorem spawns_advance_le (step : Float32) (ctx : Context) {m : Machine β} {i : Nat} {s : State β}
    (current : m.current = some i) (found : m.states[i]? = some s) (unhooked : s.hooks = []) :
    (m.advance step ctx i s).2.entities.spawns ≤
      ctx.entities.spawns + (s.outline .state).labels.length := by
  have form := pristine_tick step ctx s
  have same : (tick step ctx s).2.1.hooks = s.hooks := by
    rw [← State.hooks_pristine, form, State.hooks_pristine]
  have ticked : (tick step ctx s).2.2.entities.spawns ≤
      ctx.entities.spawns + State.partSize s.behavior := by
    have checked := (s.update step ctx).1.spawns_checkTransitions step (s.update step ctx).2
    have updated := s.spawns_update_le step ctx unhooked
    rw [← checked] at updated
    exact updated
  have parts := s.partSize_le
  have bound := (List.getElem?_eq_some_iff.mp found).1
  unfold advance
  dsimp only
  split
  · exact Nat.le_trans ticked (by omega)
  · rename_i target _
    have switched := spawns_switchTo_le (tick step ctx s).2.2
      (m := { m with states := m.states.set i (tick step ctx s).2.1 }) target current
      (by simp [bound]) (same.trans unhooked)
    rw [s.exit_tick step ctx] at switched
    exact Nat.le_trans switched (by omega)

theorem spawns_onUpdate_le (step : Float32) (ctx : Context) {m : Machine β}
    (unhooked : (Logic.machine m).hooks = []) :
    (m.onUpdate step ctx).2.2.entities.spawns ≤
      ctx.entities.spawns + (Logic.machine m).size := by
  have form : (Logic.machine (m.ready ctx).1).pristine = (Logic.machine m).pristine :=
    congrArg Logic.machine (pristine_ready ctx m)
  have readied : (m.ready ctx).2.entities.spawns = ctx.entities.spawns := by
    unfold ready
    split
    · rfl
    · exact Context.spawns_eq_of_mute (m.mute_enterInitial ctx)
  rw [← Logic.hooks_pristine, ← form, Logic.hooks_pristine] at unhooked
  rw [← readied, ← Logic.size_congr form]
  unfold onUpdate
  dsimp only
  split
  · exact Nat.le_add_right _ _
  · rename_i i current
    split
    · exact Nat.le_add_right _ _
    · rename_i s found
      have own : s.hooks = [] := List.flatMap_eq_nil_iff.mp unhooked s (List.mem_of_getElem? found)
      have share : (s.outline .state).labels.length ≤ (Logic.machine (m.ready ctx).1).size := by
        rw [Logic.size_machine]
        exact List.le_sum_of_mem (List.mem_map_of_mem (List.mem_of_getElem? found))
      exact Nat.le_trans (spawns_advance_le step _ current found own) (by omega)

end Machine

theorem Logic.spawns_onUpdate_le (step : Float32) (ctx : Context) {l : Logic β}
    (unhooked : l.hooks = []) :
    (l.onUpdate step ctx).2.2.entities.spawns ≤ ctx.entities.spawns + l.size := by
  cases l with
  | task t => exact Nat.le_of_eq (t.spawns_update step ctx.toScope unhooked)
  | sequence s =>
    rw [size_sequence]
    exact s.spawns_onUpdate_le step ctx unhooked
  | parallel p => exact p.spawns_onUpdate_le step ctx unhooked
  | machine m => exact m.spawns_onUpdate_le step ctx unhooked

namespace Node

omit [Outlined β] [Behaves.Quiet β] [Behaves.Sparing β] in
theorem spawns_begin_le (ctx : Context) {n : Node β} (unhooked : n.logic.hooks = []) :
    (n.begin ctx).2.entities.spawns ≤ ctx.entities.spawns + 1 := by
  unfold begin
  split
  · exact Nat.le_succ _
  · cases logic : n.logic with
    | task t =>
      rw [logic] at unhooked
      exact t.spawns_begin_le ctx.toScope unhooked
    | _ => exact Nat.le_succ _

instance sparing : Behaves.Sparing (Node β) where
  spawns_update step ctx n unhooked := by
    have unhooked : n.logic.hooks = [] := unhooked
    have form := n.pristine_begin ctx
    have begun := spawns_begin_le ctx unhooked
    have ran := Logic.spawns_onUpdate_le (if step < 0 then 0 else step) (n.begin ctx).2
      (l := (n.begin ctx).1.logic) (by rwa [← Logic.hooks_pristine, form, Logic.hooks_pristine])
    rw [Logic.size_congr form] at ran
    show (n.update step ctx).2.2.entities.spawns ≤ _
    rw [size_eq]
    unfold update
    split
    · exact Nat.le_trans ran (by omega)
    · exact Nat.le_add_right _ _

end Node

instance Behavior.sparing : (height : Nat) → Behaves.Sparing (Behavior height)
  | 0 => inferInstanceAs (Behaves.Sparing Empty)
  | height + 1 =>
    have := sparing height
    inferInstanceAs (Behaves.Sparing (Node (Behavior height)))

end SkillScript
