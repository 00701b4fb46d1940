import SkillScript.Proofs.Tree.Holdings
/-!
# What a running tree does to its scope

Whatever a tree does while it runs, it does through its tasks: they write variables,
publish events, change the health of entities, and spawn objects for their owner
under their tag. Behaviors that the host runs do what their hooks do. So a property
of scopes that survives each of these survives every update of the tree.
-/
set_option autoImplicit false
namespace SkillScript

/-- A property of scopes that endures everything that tasks with some hooks do. -/
structure Endures (I : Scope → Prop) (hs : List Hooks) : Prop where
  publish : ∀ (s : Scope) (name : String) (payload : Vars), I s → I (s.publish name payload)
  vars : ∀ (s : Scope) (vars : Vars), I s → I { s with vars := vars }
  adjustHealth : ∀ (s : Scope) (id : EntityId) (delta : Int32), I s → I (s.adjustHealth id delta)
  spawn : ∀ (s : Scope) (kind : String), I s →
    I { s with entities := (s.entities.spawn s.owner kind s.tag).2 }
  onBegin : ∀ h ∈ hs, ∀ hook ∈ h.onBegin, ∀ view s, I s → I (hook view s).2
  onUpdate : ∀ h ∈ hs, ∀ hook ∈ h.onUpdate, ∀ step view s, I s → I (hook step view s).2.2

namespace Endures

variable {I : Scope → Prop} {hs : List Hooks}

theorem perform (endures : Endures I hs) {s : Scope} (holds : I s) (d : Deed) :
    I (d.perform s) := by
  cases d with
  | setVar name value => exact endures.vars s _ holds
  | modifyHealth target amount =>
    simp only [Deed.perform]
    cases target.live? s with
    | none => exact holds
    | some id => exact endures.adjustHealth s id _ holds
  | publishEvent event names => exact endures.publish s event _ holds
  | spawnOwned kind storeAs =>
    have spawned := endures.spawn s kind holds
    simp only [Deed.perform]
    split
    · exact endures.vars _ _ spawned
    · exact spawned

theorem apply (endures : Endures I hs) {s : Scope} (holds : I s) (f : Flow) (whole : Int32) :
    I (f.apply whole s).2 := by
  rw [Flow.apply]
  split
  · exact holds
  · cases f.target with
    | none => exact holds
    | some id => exact endures.adjustHealth s id whole holds

end Endures

/-- A property of scopes that survives everything that scripts with some hooks do while they run:
what their tasks do, and any change of who listens. -/
structure Survives (I : Scope → Prop) (hs : List Hooks) : Prop extends Endures I hs where
  listeners : ∀ (s : Scope) (ls : List String), I s → I { s with bus.listeners := ls }

namespace Survives

variable {I : Scope → Prop} {hs hs' : List Hooks}

theorem mono (survives : Survives I hs') (fewer : hs ⊆ hs') : Survives I hs where
  publish := survives.publish
  vars := survives.vars
  adjustHealth := survives.adjustHealth
  spawn := survives.spawn
  onBegin h member := survives.onBegin h (fewer member)
  onUpdate h member := survives.onUpdate h (fewer member)
  listeners := survives.listeners

/-- It makes no difference who listens to the bus. -/
theorem muted (survives : Survives I hs) {ctx ctx' : Context} (same : ctx'.mute = ctx.mute)
    (holds : I ctx.toScope) : I ctx'.toScope := by
  have scopes : ctx'.mute.toScope = ctx.mute.toScope := by rw [same]
  have muted : I ctx'.mute.toScope := by
    rw [scopes]
    exact survives.listeners _ _ holds
  exact survives.listeners ctx'.mute.toScope ctx'.bus.listeners muted

end Survives

/-! ## Tasks -/

namespace Task

variable {I : Scope → Prop}

theorem begin_keeps {s : Scope} {t : Task} (endures : Endures I t.hooks) (holds : I s) :
    I (t.begin s).2 := by
  cases t with
  | deed d => exact endures.perform holds d
  | delegate number host finished =>
    have kept := endures.onBegin host.hooks (List.mem_cons_self ..)
    simp only [begin, Delegate.run]
    cases begins : host.hooks.onBegin with
    | none => exact holds
    | some hook => exact kept hook begins _ s holds
  | _ => exact holds

theorem update_keeps (step : Float32) {s : Scope} {t : Task} (endures : Endures I t.hooks)
    (holds : I s) : I (t.update step s).2.2 := by
  cases t with
  | wait c timer =>
    simp only [update]
    split
    · exact holds
    · dsimp only
      split
      · exact endures.publish _ _ _ holds
      · exact holds
  | healthOverTime c timer flow =>
    simp only [update]
    split
    · exact holds
    · dsimp only
      split
      · exact endures.apply (endures.apply holds _ _) _ _
      · exact endures.apply holds _ _
  | deed d => exact holds
  | waitCheck attrs predicate elapsed satisfied =>
    simp only [update]
    split
    · exact holds
    · split <;> exact holds
  | delegate number host finished =>
    have kept := endures.onUpdate host.hooks (List.mem_cons_self ..)
    simp only [update]
    cases updates : host.hooks.onUpdate with
    | none => exact holds
    | some hook => exact kept hook updates step _ s holds

end Task

/-! ## Trees -/

class Effective (β : Type) [Behaves β] [Lasting β] [Ordered β] [Holding β] : Prop where
  update_keeps {I : Scope → Prop} (step : Float32) (ctx : Context) (b : β)
    (survives : Survives I (Holding.hooks b)) (holds : I ctx.toScope) :
    I (Behaves.update step ctx b).2.2.toScope

instance : Effective Empty where
  update_keeps _ _ b := nomatch b

variable {β : Type} [Behaves β] [Lasting β] [Ordered β] [Holding β] [Behaves.Quiet β]
  [Effective β] {I : Scope → Prop}

namespace Sequence

theorem run_keeps (started : Bool) (step : Float32) {ctx : Context} {l : List β}
    (survives : Survives I (l.flatMap Holding.hooks)) (holds : I ctx.toScope) :
    I (run started step ctx l).2.2.2.toScope := by
  induction l generalizing started step ctx with
  | nil => exact holds
  | cons c rest ih =>
    have head : Survives I (Holding.hooks c) := survives.mono (List.subset_append_left ..)
    have tail : Survives I (rest.flatMap Holding.hooks) :=
      survives.mono (List.subset_append_right ..)
    have readied : I (ready started ctx c).2.toScope := by
      cases started with
      | true => exact holds
      | false => exact head.muted (Behaves.mute_enter ctx c) holds
    have same : Holding.hooks (ready started ctx c).1 = Holding.hooks c :=
      Holding.hooks_congr (pristine_ready started ctx c)
    have ran := Effective.update_keeps step _ (ready started ctx c).1 (by rwa [same]) readied
    rw [run_cons]
    dsimp only
    split
    · exact ih false _ tail (head.muted (Behaves.Quiet.mute_deactivate _ _) ran)
    · exact ran

theorem onUpdate_keeps (step : Float32) {ctx : Context} {s : Sequence β}
    (survives : Survives I (s.children.flatMap Holding.hooks)) (holds : I ctx.toScope) :
    I (s.onUpdate step ctx).2.2.toScope := by
  refine run_keeps s.started step (survives.mono ?_) holds
  intro h member
  obtain ⟨c, inside, here⟩ := List.mem_flatMap.mp member
  exact List.mem_flatMap.mpr ⟨c, List.mem_of_mem_drop inside, here⟩

end Sequence

namespace Parallel

theorem run_keeps (step least : Float32) {ctx : Context} {l : List (Lane β)}
    (survives : Survives I (l.flatMap fun lane => Holding.hooks lane.child))
    (holds : I ctx.toScope) : I (run step least ctx l).2.2.toScope := by
  induction l generalizing least ctx with
  | nil => exact holds
  | cons lane rest ih =>
    have head : Survives I (Holding.hooks lane.child) :=
      survives.mono (List.subset_append_left ..)
    have tail : Survives I (rest.flatMap fun lane => Holding.hooks lane.child) :=
      survives.mono (List.subset_append_right ..)
    have ran := Effective.update_keeps step ctx lane.child head holds
    rw [run_cons]
    split
    · exact ih least tail holds
    · dsimp only
      split
      · exact ih _ tail (head.muted (Behaves.Quiet.mute_deactivate _ _) ran)
      · exact ih 0 tail ran

theorem onUpdate_keeps (step : Float32) {ctx : Context} {p : Parallel β}
    (survives : Survives I (p.lanes.flatMap fun lane => Holding.hooks lane.child))
    (holds : I ctx.toScope) : I (p.onUpdate step ctx).2.2.toScope := by
  have same : (p.ready ctx).1.lanes.flatMap (fun lane => Holding.hooks lane.child) =
      p.lanes.flatMap fun lane => Holding.hooks lane.child := by
    have hooks := Logic.hooks_pristine (.parallel p)
    have hooks' := Logic.hooks_pristine (.parallel (p.ready ctx).1)
    simp only [Logic.pristine, pristine_ready] at hooks hooks'
    exact hooks'.symm.trans hooks
  have readied : I (p.ready ctx).2.toScope := by
    rw [ready]
    split
    · exact holds
    · exact survives.muted (p.mute_start ctx) holds
  rw [← same] at survives
  exact run_keeps step step survives readied

end Parallel

namespace State

omit [Behaves.Quiet β] in
theorem update_keeps (step : Float32) {ctx : Context} {s : State β}
    (survives : Survives I s.hooks) (holds : I ctx.toScope) :
    I (s.update step ctx).2.toScope := by
  have ran : I (runBehavior step ctx s.behavior).2.2.toScope := by
    cases behavior : s.behavior with
    | none => exact holds
    | some b =>
      refine Effective.update_keeps step ctx b (survives.mono ?_) holds
      intro h member
      simp [hooks, behavior, member]
  unfold update
  split
  · dsimp only
    split
    · dsimp only
      split
      · exact survives.publish _ _ _ ran
      · exact ran
    · exact ran
  · exact holds

omit [Behaves β] [Ordered β] [Holding β] [Behaves.Quiet β] [Effective β] [Lasting β] in
theorem checkTransitions_keeps (step : Float32) {ctx : Context} (s : State β)
    (holds : I ctx.toScope) : I (s.checkTransitions step ctx).2.2.toScope := by
  have same := Context.toScope_eq_of_pardon
    (Transition.pardon_checkFirst step ctx s.transitions)
  unfold checkTransitions
  split
  · dsimp only
    rwa [same]
  · exact holds

theorem complete_keeps {ctx : Context} {b : β} (survives : Survives I (Holding.hooks b))
    (holds : I ctx.toScope) : I (complete ctx b).2.toScope := by
  have entered := survives.muted (Behaves.mute_enter ctx b) holds
  have same : Holding.hooks (Behaves.enter ctx b).1 = Holding.hooks b :=
    Holding.hooks_congr (Behaves.pristine_enter ctx b)
  have ran := Effective.update_keeps (Behaves.enter ctx b).2.settings.exitStep _
    (Behaves.enter ctx b).1 (by rwa [same]) entered
  exact survives.muted (Behaves.Quiet.mute_deactivate _ _) ran

theorem leave_keeps {ctx : Context} {s : State β} (survives : Survives I s.hooks)
    (holds : I ctx.toScope) : I (s.leave ctx).2.toScope := by
  have rested := survives.muted (s.mute_deactivate ctx) holds
  have same : (s.deactivate ctx).1.hooks = s.hooks := by
    rw [← hooks_pristine, pristine_deactivate, hooks_pristine]
  unfold leave
  dsimp only
  cases exit : (s.deactivate ctx).1.exit with
  | none => exact rested
  | some b =>
    refine complete_keeps (survives.mono ?_) rested
    intro h member
    rw [← same]
    simp [hooks, exit, member]

end State

namespace Machine

omit [Effective β] [Behaves.Quiet β] in
theorem hooks_of_mem {m : Machine β} {s : State β} (member : s ∈ m.states) :
    s.hooks ⊆ (Logic.machine m).hooks :=
  subset_flatMap_of_mem State.hooks member

omit [Effective β] [Behaves.Quiet β] in
theorem hooks_congr {m m' : Machine β} (same : m.pristine = m'.pristine) :
    (Logic.machine m).hooks = (Logic.machine m').hooks := by
  rw [← Logic.hooks_pristine (.machine m), Logic.pristine, same]
  exact Logic.hooks_pristine (.machine m')

theorem switchTo_keeps {ctx : Context} {m : Machine β} (target : String)
    (survives : Survives I (Logic.machine m).hooks) (holds : I ctx.toScope) :
    I (m.switchTo ctx target).2.toScope := by
  have left : I (m.actOnCurrent State.leave ctx).2.toScope := by
    unfold actOnCurrent
    cases m.current with
    | none => exact holds
    | some i =>
      simp only [actAt_eq]
      cases found : m.states[i]? with
      | none => exact holds
      | some s =>
        have fewer := hooks_of_mem (List.mem_of_getElem? found)
        exact State.leave_keeps (survives.mono fewer) holds
  unfold switchTo
  split
  · exact holds
  · exact survives.muted (mute_enterAt _ _ _) left

theorem advance_keeps (step : Float32) {ctx : Context} {m : Machine β} {i : Nat} {s : State β}
    (found : m.states[i]? = some s) (survives : Survives I (Logic.machine m).hooks)
    (holds : I ctx.toScope) : I (m.advance step ctx i s).2.toScope := by
  have fewer := hooks_of_mem (List.mem_of_getElem? found)
  have ticked : I (tick step ctx s).2.2.toScope :=
    State.checkTransitions_keeps step _ (State.update_keeps step (survives.mono fewer) holds)
  have same := hooks_congr (m.pristine_set found (pristine_tick step ctx s))
  unfold advance
  dsimp only
  split
  · exact ticked
  · exact switchTo_keeps _ (by rwa [same]) ticked

theorem onUpdate_keeps (step : Float32) {ctx : Context} {m : Machine β}
    (survives : Survives I (Logic.machine m).hooks) (holds : I ctx.toScope) :
    I (m.onUpdate step ctx).2.2.toScope := by
  have readied : I (m.ready ctx).2.toScope := by
    unfold ready
    split
    · exact holds
    · exact survives.muted (m.mute_enterInitial ctx) holds
  have same := hooks_congr (pristine_ready ctx m)
  unfold onUpdate
  dsimp only
  split
  · exact readied
  · split
    · exact readied
    · rename_i found
      exact advance_keeps step found (by rwa [same]) readied

end Machine

namespace Node

instance effective : Effective (Node β) where
  update_keeps {I} step ctx n survives holds := by
    have survives : Survives I n.logic.hooks := survives
    have begun : I (n.begin ctx).2.toScope := by
      unfold begin
      split
      · exact holds
      · cases logic : n.logic with
        | task t =>
          rw [logic] at survives
          exact Task.begin_keeps survives.toEndures holds
        | _ => exact holds
    have same : (n.begin ctx).1.logic.hooks = n.logic.hooks := by
      rw [← Logic.hooks_pristine, pristine_begin, Logic.hooks_pristine]
    rw [← same] at survives
    show I (n.update step ctx).2.2.toScope
    unfold update
    split
    · generalize n.begin ctx = b at begun survives
      obtain ⟨⟨active, begun', logic⟩, ctx⟩ := b
      cases logic with
      | task t => exact Task.update_keeps _ survives.toEndures begun
      | sequence s => exact Sequence.onUpdate_keeps _ survives begun
      | parallel p => exact Parallel.onUpdate_keeps _ survives begun
      | machine m => exact Machine.onUpdate_keeps _ survives begun
    · exact holds

end Node

instance Behavior.effective : (height : Nat) → Effective (Behavior height)
  | 0 => inferInstanceAs (Effective Empty)
  | height + 1 =>
    have := effective height
    inferInstanceAs (Effective (Node (Behavior height)))

end SkillScript
