import SkillScript.Proofs.Reentry.Condition
import SkillScript.Proofs.Reentry.Pairs
/-!
# States that look alike

States look alike if their behaviors and transitions do. What the exit behaviors
have been through does not count: an exit behavior is reset whenever it is run.
-/
set_option autoImplicit false
namespace SkillScript

open Behaves Lasting

variable {β : Type} [Behaves β] [Ordered β] [Lasting β] [Outlined β] [Resembling β] {k j : Nat}

namespace State

structure Paired (s s' : State β) : Prop where
  left : s.Orderly false
  right : s'.Orderly false
  builtin : ∀ l ∈ (s.outline .state).labels, l.type ∈ NodeType.builtins
  made : s.pristine = s'.pristine

structure Alike (k j : Nat) (s s' : State β) : Prop where
  active : s.active = s'.active
  ended : s.ended = s'.ended
  behavior : Option.Rel (Resembling.Alike k j) s.behavior s'.behavior
  transitions : List.Forall₂ (Transition.Alike k j) s.transitions s'.transitions

namespace Paired

variable {s s' : State β}

omit [Resembling β]

theorem endEvent (paired : s.Paired s') : s.endEvent = s'.endEvent := by
  have made := paired.made
  simp only [State.pristine, State.mk.injEq] at made
  exact made.2.2.1

theorem behavior (paired : s.Paired s') :
    Option.Rel (fun b b' => Behaves.Paired b b' ∧ isActive b = s.active ∧
      isActive b' = s'.active) s.behavior s'.behavior := by
  have made := paired.made
  simp only [State.pristine, State.mk.injEq] at made
  have pairs := rel_of_map_eq made.2.2.2.1 (fun b inside => And.intro inside
    (paired.left.behavior b inside)) paired.right.behavior
  refine rel_imp (fun b b' same => ?_) pairs
  obtain ⟨same, ⟨inside, status, order⟩, status', order'⟩ := same
  refine ⟨⟨order, order', fun l label => paired.builtin l ?_, same⟩, status, status'⟩
  have labelled : l ∈ (Outlined.outline .behavior b).labels := by
    rwa [Outlined.labels_outline .behavior .root]
  simp only [State.outline, Outline.labels_node, List.flatMap_append, List.mem_cons,
    List.mem_append, List.mem_flatMap]
  exact Or.inr (Or.inl (Or.inl ⟨_, by simpa using ⟨b, inside, rfl⟩, labelled⟩))

theorem exit (paired : s.Paired s') :
    Option.Rel (fun b b' => Behaves.Paired b b' ∧ isActive b = false ∧ isActive b' = false)
      s.exit s'.exit := by
  have made := paired.made
  simp only [State.pristine, State.mk.injEq] at made
  have pairs := rel_of_map_eq made.2.2.2.2.1 (fun b inside => And.intro inside
    (paired.left.exit b inside)) paired.right.exit
  refine rel_imp (fun b b' same => ?_) pairs
  obtain ⟨same, ⟨inside, status, order⟩, status', order'⟩ := same
  refine ⟨⟨order, order', fun l label => paired.builtin l ?_, same⟩, status, status'⟩
  have labelled : l ∈ (Outlined.outline .exit b).labels := by
    rwa [Outlined.labels_outline .exit .root]
  simp only [State.outline, Outline.labels_node, List.flatMap_append, List.mem_cons,
    List.mem_append, List.mem_flatMap]
  exact Or.inr (Or.inl (Or.inr ⟨_, by simpa using ⟨b, inside, rfl⟩, labelled⟩))

theorem transitions (paired : s.Paired s') :
    List.Forall₂ (fun t t' => t.pristine = t'.pristine ∧ (t.active = s.active ∧ t.Orderly) ∧
      t'.active = s'.active ∧ t'.Orderly) s.transitions s'.transitions := by
  have made := paired.made
  simp only [State.pristine, State.mk.injEq] at made
  exact forall₂_of_map_eq made.2.2.2.2.2.1 paired.left.transitions paired.right.transitions

theorem of_pristine (paired : s.Paired s') {t t' : State β} (left : t.Orderly false)
    (right : t'.Orderly false) (same : t.pristine = s.pristine)
    (same' : t'.pristine = s'.pristine) : t.Paired t' where
  left := left
  right := right
  builtin := by
    rw [outline_congr .state same]
    exact paired.builtin
  made := by rw [same, paired.made, ← same']

variable [Behaves.Disciplined β]

theorem deactivate (paired : s.Paired s') (ctx ctx' : Context) :
    (s.deactivate ctx).1.Paired (s'.deactivate ctx').1 :=
  paired.of_pristine (paired.left.deactivate ctx) (paired.right.deactivate ctx')
    (s.pristine_deactivate ctx) (s'.pristine_deactivate ctx')

theorem reset (paired : s.Paired s') (ctx ctx' : Context) :
    (s.reset ctx).1.Paired (s'.reset ctx').1 :=
  paired.of_pristine (paired.left.reset nofun ctx) (paired.right.reset nofun ctx')
    (s.pristine_reset ctx) (s'.pristine_reset ctx')

end Paired

variable [Behaves.Quiet β] [Repeatable β] {s s' : State β}
  {ctx ctx' : Context}

/-- What a state at rest was before does not show after a reset. -/
theorem alike_reset (scopes : ctx.toScope.Alike k j ctx'.toScope) (paired : s.Paired s')
    (resting : s.active = false) (resting' : s'.active = false) :
    Alike k j (s.reset ctx).1 (s'.reset ctx').1 := by
  have later : (actOn Behaves.reset ctx s.behavior).2.toScope.Alike k j
      (actOn Behaves.reset ctx' s'.behavior).2.toScope :=
    Context.alike_of_mute scopes (snd_actOn Behaves.Quiet.mute_reset ctx s.behavior)
      (snd_actOn Behaves.Quiet.mute_reset ctx' s'.behavior)
  refine ⟨resting.trans resting'.symm, rfl, ?_, ?_⟩
  · refine rel_actOn (fun b b' pair => ?_) paired.behavior
    obtain ⟨pair, status, status'⟩ := pair
    exact Repeatable.alike_reset scopes pair (status.trans resting) (status'.trans resting')
  · refine forall₂_map (fun t t' pair => ?_) paired.transitions
    obtain ⟨same, ⟨status, order⟩, status', order'⟩ := pair
    exact Transition.reset_alike same later ⟨status.trans resting, order⟩
      ⟨status'.trans resting', order'⟩

namespace Alike

theorem activate (alike : s.Alike k j s') (paired : s.Paired s')
    (scopes : ctx.toScope.Alike k j ctx'.toScope) :
    Alike k j (s.activate ctx).1 (s'.activate ctx').1 := by
  have pairs := rel_and paired.behavior alike.behavior
  have later : (actOn Behaves.activate ctx s.behavior).2.toScope.Alike k j
      (actOn Behaves.activate ctx' s'.behavior).2.toScope :=
    Context.alike_of_mute scopes (snd_actOn Behaves.Quiet.mute_activate ctx s.behavior)
      (snd_actOn Behaves.Quiet.mute_activate ctx' s'.behavior)
  unfold State.activate
  rw [← alike.active]
  split
  · exact alike
  · refine ⟨rfl, alike.ended, ?_, ?_⟩
    · exact rel_actOn (fun b b' pair => Repeatable.alike_activate scopes pair.1.1 pair.2) pairs
    · exact forall₂_actAll (fun ctx t => t.mute_activate ctx)
        (fun _ _ scopes _ _ pair => pair.activate scopes) later alike.transitions

theorem deactivate (alike : s.Alike k j s') (paired : s.Paired s')
    (scopes : ctx.toScope.Alike k j ctx'.toScope) :
    Alike k j (s.deactivate ctx).1 (s'.deactivate ctx').1 := by
  have pairs := rel_and paired.behavior alike.behavior
  have later : (actOn Behaves.deactivate ctx s.behavior).2.toScope.Alike k j
      (actOn Behaves.deactivate ctx' s'.behavior).2.toScope :=
    Context.alike_of_mute scopes (snd_actOn Behaves.Quiet.mute_deactivate ctx s.behavior)
      (snd_actOn Behaves.Quiet.mute_deactivate ctx' s'.behavior)
  unfold State.deactivate
  rw [← alike.active]
  split
  · refine ⟨rfl, alike.ended, ?_, ?_⟩
    · exact rel_actOn (fun b b' pair => Repeatable.alike_deactivate scopes pair.1.1 pair.2) pairs
    · exact forall₂_actAll (fun ctx t => t.mute_deactivate ctx)
        (fun ctx ctx' _ _ _ pair => pair.deactivate ctx ctx') later alike.transitions
  · exact alike

omit [Quiet β] in
theorem onTrigger (alike : s.Alike k j s') (paired : s.Paired s') (tag : String) :
    Alike k j (s.onTrigger tag) (s'.onTrigger tag) := by
  unfold State.onTrigger
  rw [← alike.active]
  split
  · refine ⟨rfl, alike.ended, ?_, ?_⟩
    · exact rel_map (fun b b' pair => Repeatable.alike_onTrigger tag pair.1.1 pair.2)
        (rel_and paired.behavior alike.behavior)
    · exact forall₂_map (fun t t' pair => pair.onTrigger tag) alike.transitions
  · exact alike

omit [Behaves β] [Ordered β] [Lasting β] [Outlined β] [Quiet β] [Repeatable β] in
theorem checkTransitions (alike : s.Alike k j s') (step : Float32)
    (scopes : ctx.toScope.Alike k j ctx'.toScope) :
    (s.checkTransitions step ctx).1 = (s'.checkTransitions step ctx').1 ∧
      Alike k j (s.checkTransitions step ctx).2.1 (s'.checkTransitions step ctx').2.1 ∧
      (s.checkTransitions step ctx).2.2.toScope.Alike k j
        (s'.checkTransitions step ctx').2.2.toScope := by
  obtain ⟨target, checked⟩ := Transition.alike_checkFirst step scopes alike.transitions
  have later := Context.alike_of_pardon scopes (Transition.pardon_checkFirst step ctx s.transitions)
    (Transition.pardon_checkFirst step ctx' s'.transitions)
  unfold State.checkTransitions
  rw [← alike.ended]
  split
  · exact ⟨target, ⟨alike.active, rfl, alike.behavior, checked⟩, later⟩
  · exact ⟨rfl, alike, scopes⟩

end Alike

variable [Behaves.Disciplined β]

/-- States at rest look alike once they are entered. -/
theorem alike_enter (scopes : ctx.toScope.Alike k j ctx'.toScope) (paired : s.Paired s')
    (resting : s.active = false) (resting' : s'.active = false) :
    Alike k j (s.enter ctx).1 (s'.enter ctx').1 := by
  have later := Context.alike_of_mute scopes (s.mute_reset ctx) (s'.mute_reset ctx')
  exact (alike_reset scopes paired resting resting').activate (paired.reset ctx ctx') later

omit [Quiet β] in
theorem alike_runBehavior (step : Float32) (scopes : ctx.toScope.Alike k j ctx'.toScope)
    {o o' : Option β}
    (pairs : Option.Rel (fun b b' => Behaves.Paired b b' ∧ Resembling.Alike k j b b') o o') :
    (runBehavior step ctx o).1 = (runBehavior step ctx' o').1 ∧
      Option.Rel (Resembling.Alike k j) (runBehavior step ctx o).2.1
        (runBehavior step ctx' o').2.1 ∧
      (runBehavior step ctx o).2.2.toScope.Alike k j (runBehavior step ctx' o').2.2.toScope := by
  cases pairs with
  | none => exact ⟨rfl, .none, scopes⟩
  | some pair =>
    have ran := Repeatable.update_agree step scopes pair.1 pair.2
    have still := pair.1.update step step ctx ctx'
    exact ⟨Repeatable.canStop_eq still ran.nodes, .some ran.nodes, ran.scopes⟩

/-- An exit behavior is run as if for the first time. -/
theorem alike_complete (scopes : ctx.toScope.Alike k j ctx'.toScope) {b b' : β}
    (paired : Behaves.Paired b b') (resting : isActive b = false)
    (resting' : isActive b' = false) :
    (complete ctx b).2.toScope.Alike k j (complete ctx' b').2.toScope := by
  have entered := Behaves.alike_enter scopes paired resting resting'
  have later := Context.alike_of_mute scopes (Behaves.mute_enter ctx b)
    (Behaves.mute_enter ctx' b')
  have ran := Repeatable.update_agree (Behaves.enter ctx b).2.settings.exitStep later
    (paired.enter ctx ctx') entered
  simp only [complete, ← later.settings]
  exact Context.alike_of_mute ran.scopes (Behaves.Quiet.mute_deactivate _ _)
    (Behaves.Quiet.mute_deactivate _ _)

namespace Alike

omit [Quiet β] in
theorem update (alike : s.Alike k j s') (paired : s.Paired s') (step : Float32)
    (scopes : ctx.toScope.Alike k j ctx'.toScope) :
    Alike k j (s.update step ctx).1 (s'.update step ctx').1 ∧
      (s.update step ctx).2.toScope.Alike k j (s'.update step ctx').2.toScope := by
  have pairs := rel_imp (fun _ _ pair => And.intro pair.1.1 pair.2)
    (rel_and paired.behavior alike.behavior)
  obtain ⟨finished, behaviors, later⟩ := alike_runBehavior step scopes pairs
  unfold State.update
  rw [← alike.active]
  split
  · dsimp only
    rw [← finished, ← alike.ended, ← paired.endEvent]
    split
    · refine ⟨⟨rfl, rfl, behaviors, alike.transitions⟩, ?_⟩
      cases s.endEvent with
      | none => exact later
      | some event => exact later.publish event ∅
    · exact ⟨⟨rfl, rfl, behaviors, alike.transitions⟩, later⟩
  · exact ⟨alike, scopes⟩

theorem leave (alike : s.Alike k j s') (paired : s.Paired s')
    (scopes : ctx.toScope.Alike k j ctx'.toScope) :
    Alike k j (s.leave ctx).1 (s'.leave ctx').1 ∧
      (s.leave ctx).2.toScope.Alike k j (s'.leave ctx').2.toScope := by
  have rested := alike.deactivate paired scopes
  have later := Context.alike_of_mute scopes (s.mute_deactivate ctx) (s'.mute_deactivate ctx')
  refine ⟨⟨rested.active, rested.ended, rested.behavior, rested.transitions⟩, ?_⟩
  have exits := (paired.deactivate ctx ctx').exit
  simp only [State.leave]
  generalize (s.deactivate ctx).1.exit = o at exits
  generalize (s'.deactivate ctx').1.exit = o' at exits
  cases exits with
  | none => exact later
  | some pair => exact alike_complete later pair.1 pair.2.1 pair.2.2

end Alike

end State

end SkillScript
