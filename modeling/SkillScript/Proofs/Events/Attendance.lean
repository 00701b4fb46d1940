import SkillScript.Proofs.Events.Hearing
import SkillScript.Proofs.Tree.Effects
/-!
# Subscriptions of a tree

Waking a node, putting it to rest, resetting it and updating it all heed the bus,
whatever state the node is in: no part of it keeps a receiver that it should have
given back, and none listens without one. A trigger makes no difference. A release
takes every receiver of the tree along, also in the middle of a sequence, a parallel
or a state. A tree at rest has nothing to give back.
-/
set_option autoImplicit false
namespace SkillScript

class Behaves.Heeding (β : Type) [Behaves β] [Lasting β] [Ordered β] [Holding β] [Hearing β] :
    Prop where
  silent {strict : Bool} {b : β} (orderly : Ordered.Orderly strict b)
    (resting : isActive b = false) (discreet : ∀ h ∈ Holding.hooks b, h.Discreet) : Silent b
  heeds_activate (b : β) : Heeds activate b
  heeds_deactivate (b : β) : Heeds deactivate b
  heeds_reset (b : β) : Heeds reset b
  heeds_update (step : Float32) (b : β) : Heeds (fun ctx b => (update step ctx b).2) b
  hearsAlike_onTrigger (tag : String) (b : β) : HearsAlike b (onTrigger tag b)
  clears_release (b : β) : Clears release b

instance : Hearing Empty where
  Attuned b := nomatch b
  heard _ b := nomatch b

instance : Behaves.Heeding Empty where
  silent {_} b := nomatch b
  heeds_activate b := nomatch b
  heeds_deactivate b := nomatch b
  heeds_reset b := nomatch b
  heeds_update _ b := nomatch b
  hearsAlike_onTrigger _ b := nomatch b
  clears_release b := nomatch b

/-! ## Tasks -/

namespace Task

/-- A task does not listen; its hooks are to leave those nodes alone that do. -/
instance hearing : Hearing Task where
  Attuned t := ∀ h ∈ t.hooks, h.Discreet
  heard _ _ := 0

variable {t : Task}

/-- The listeners endure what tasks with discreet hooks do. -/
theorem endures_listeners (attuned : Attuned t) (ls : List String) :
    Endures (fun s => s.bus.listeners = ls) t.hooks where
  publish _ _ _ same := same
  vars _ _ same := same
  adjustHealth _ _ _ same := same
  spawn _ _ same := same
  onBegin h member hook present view s same :=
    ((attuned h member).onBegin hook present view s).trans same
  onUpdate h member hook present step view s same :=
    ((attuned h member).onUpdate hook present step view s).trans same

theorem hearsAlike_of_pristine {t' : Task} (same : t'.pristine = t.pristine) :
    HearsAlike t t' := by
  refine ⟨fun attuned => ?_, fun _ => rfl⟩
  intro h member
  rw [← t'.hooks_pristine, same, t.hooks_pristine] at member
  exact attuned h member

theorem heeds_reset (t : Task) : Heeds (fun ctx t => (t.reset ctx.toScope, ctx)) t :=
  fun _ _ attends => attends.alike (hearsAlike_of_pristine (pristine_reset ..)) rfl

theorem heeds_begin (t : Task) :
    Heeds (fun ctx t => ((t.begin ctx.toScope).1, { ctx with toScope := (t.begin ctx.toScope).2 }))
      t := by
  intro others ctx attends
  exact attends.alike (hearsAlike_of_pristine (pristine_begin ..))
    (begin_keeps (endures_listeners attends.attuned ctx.bus.listeners) rfl)

theorem heeds_update (step : Float32) (t : Task) :
    Heeds (fun ctx t => ((t.update step ctx.toScope).2.1,
      { ctx with toScope := (t.update step ctx.toScope).2.2 })) t := by
  intro others ctx attends
  exact attends.alike (hearsAlike_of_pristine (pristine_update ..))
    (update_keeps step (endures_listeners attends.attuned ctx.bus.listeners) rfl)

theorem listeners_destroy (s : Scope) {t : Task} (attuned : Attuned t) :
    SameListeners s (t.destroy s) :=
  t.destroy_keeps (I := SameListeners s) s ⟨fun h member => (attuned h member).keep s, nofun⟩ rfl

end Task

/-! ## What containers listen to -/

variable {β : Type} {others : String → Nat} {ctx : Context}

section Containers

variable [Hearing β]

namespace State

instance hearing : Hearing (State β) where
  Attuned s := Attuned s.behavior ∧ Attuned s.exit ∧ Attuned s.transitions
  heard name s := heard name s.behavior + heard name s.exit + heard name s.transitions

variable {s : State β}

theorem attends_behavior :
    Attends others (s, ctx) ↔ (Attuned s.exit ∧ Attuned s.transitions) ∧
      Attends (fun name => others name + (heard name s.exit + heard name s.transitions))
        (s.behavior, ctx) := by
  refine attends_part and_comm fun name => ?_
  show heard name s.behavior + heard name s.exit + heard name s.transitions = _
  omega

theorem attends_exit :
    Attends others (s, ctx) ↔ (Attuned s.behavior ∧ Attuned s.transitions) ∧
      Attends (fun name => others name + (heard name s.behavior + heard name s.transitions))
        (s.exit, ctx) := by
  refine attends_part ?_ fun name => ?_
  · show Attuned s.behavior ∧ Attuned s.exit ∧ Attuned s.transitions ↔ _
    tauto
  · show heard name s.behavior + heard name s.exit + heard name s.transitions = _
    omega

theorem attends_transitions :
    Attends others (s, ctx) ↔ (Attuned s.behavior ∧ Attuned s.exit) ∧
      Attends (fun name => others name + (heard name s.behavior + heard name s.exit))
        (s.transitions, ctx) :=
  attends_part and_assoc.symm fun _ => rfl

theorem heeds_behavior {act : Context → Option β → Option β × Context}
    (heeds : Heeds act s.behavior) (attends : Attends others (s, ctx)) :
    Attends others ({ s with behavior := (act ctx s.behavior).1 }, (act ctx s.behavior).2) := by
  obtain ⟨rest, attends⟩ := attends_behavior.mp attends
  exact attends_behavior.mpr ⟨rest, heeds _ ctx attends⟩

theorem heeds_exit {act : Context → Option β → Option β × Context}
    (heeds : Heeds act s.exit) (attends : Attends others (s, ctx)) :
    Attends others ({ s with exit := (act ctx s.exit).1 }, (act ctx s.exit).2) := by
  obtain ⟨rest, attends⟩ := attends_exit.mp attends
  exact attends_exit.mpr ⟨rest, heeds _ ctx attends⟩

theorem heeds_transitions {act : Context → List Transition → List Transition × Context}
    (heeds : Heeds act s.transitions) (attends : Attends others (s, ctx)) :
    Attends others
      ({ s with transitions := (act ctx s.transitions).1 }, (act ctx s.transitions).2) := by
  obtain ⟨rest, attends⟩ := attends_transitions.mp attends
  exact attends_transitions.mpr ⟨rest, heeds _ ctx attends⟩

/-- What a state listens to does not depend on its status, nor on whether its logic has ended. -/
theorem hearsAlike_of_parts {s' : State β} (behavior : HearsAlike s.behavior s'.behavior)
    (exit : HearsAlike s.exit s'.exit) (transitions : HearsAlike s.transitions s'.transitions) :
    HearsAlike s s' := by
  refine ⟨fun ⟨b, e, t⟩ => ⟨behavior.attuned b, exit.attuned e, transitions.attuned t⟩, ?_⟩
  intro name
  show heard name s'.behavior + heard name s'.exit + heard name s'.transitions =
    heard name s.behavior + heard name s.exit + heard name s.transitions
  rw [behavior.heard, exit.heard, transitions.heard]

/-- Only the parts of a state listen. -/
theorem hearsAlike_of_same {s' : State β} (behavior : s'.behavior = s.behavior)
    (exit : s'.exit = s.exit) (transitions : s'.transitions = s.transitions) :
    HearsAlike s s' := by
  refine hearsAlike_of_parts ?_ ?_ ?_
  · exact behavior ▸ HearsAlike.refl _
  · exact exit ▸ HearsAlike.refl _
  · exact transitions ▸ HearsAlike.refl _

end State

namespace Lane

instance hearing : Hearing (Lane β) where
  Attuned l := Attuned l.child
  heard name l := heard name l.child

theorem attends_child {l : Lane β} :
    Attends others (l, ctx) ↔ Attends others (l.child, ctx) :=
  attends_congr Iff.rfl fun _ => rfl

theorem heeds_act {act : Context → β → β × Context} {l : Lane β} (heeds : Heeds act l.child) :
    Heeds (Lane.act act) l :=
  fun others ctx attends => attends_child.mpr (heeds others ctx (attends_child.mp attends))

theorem heeds_actIfRunning {act : Context → β → β × Context} {l : Lane β}
    (heeds : Heeds act l.child) : Heeds (actIfRunning act) l := by
  intro others ctx attends
  unfold actIfRunning
  split
  · exact attends
  · exact heeds_act heeds others ctx attends

theorem hearsAlike_reopen (l : Lane β) : HearsAlike l l.reopen :=
  ⟨id, fun _ => rfl⟩

end Lane

instance Sequence.hearing : Hearing (Sequence β) where
  Attuned s := Attuned s.children
  heard name s := heard name s.children

theorem Sequence.attends_children {s : Sequence β} :
    Attends others (s, ctx) ↔ Attends others (s.children, ctx) :=
  attends_congr Iff.rfl fun _ => rfl

instance Parallel.hearing : Hearing (Parallel β) where
  Attuned p := Attuned p.lanes
  heard name p := heard name p.lanes

theorem Parallel.attends_lanes {p : Parallel β} :
    Attends others (p, ctx) ↔ Attends others (p.lanes, ctx) :=
  attends_congr Iff.rfl fun _ => rfl

namespace Machine

instance hearing : Hearing (Machine β) where
  Attuned m := Attuned m.states
  heard name m := heard name m.states

theorem attends_states {m : Machine β} :
    Attends others (m, ctx) ↔ Attends others (m.states, ctx) :=
  attends_congr Iff.rfl fun _ => rfl

theorem hearsAlike_of_states {m m' : Machine β} (alike : HearsAlike m.states m'.states) :
    HearsAlike m m' :=
  ⟨alike.attuned, alike.heard⟩

theorem heeds_actOnCurrent {f : Context → State β → State β × Context}
    (heeds : ∀ s, Heeds f s) (m : Machine β) : Heeds (actOnCurrent f) m := by
  intro others ctx attends
  unfold actOnCurrent
  split
  · exact attends
  · exact attends_states.mpr
      (Heeds.actAt _ (fun s _ => heeds s) others ctx (attends_states.mp attends))

end Machine

namespace Logic

instance hearing : Hearing (Logic β) where
  Attuned
    | task t => Attuned t
    | sequence s => Attuned s
    | parallel p => Attuned p
    | machine m => Attuned m
  heard name
    | task t => heard name t
    | sequence s => heard name s
    | parallel p => heard name p
    | machine m => heard name m

theorem attends_task {t : Task} :
    Attends others ((task t : Logic β), ctx) ↔ Attends others (t, ctx) :=
  attends_congr Iff.rfl fun _ => rfl

theorem attends_sequence {s : Sequence β} :
    Attends others (sequence s, ctx) ↔ Attends others (s, ctx) :=
  attends_congr Iff.rfl fun _ => rfl

theorem attends_parallel {p : Parallel β} :
    Attends others (parallel p, ctx) ↔ Attends others (p, ctx) :=
  attends_congr Iff.rfl fun _ => rfl

theorem attends_machine {m : Machine β} :
    Attends others (machine m, ctx) ↔ Attends others (m, ctx) :=
  attends_congr Iff.rfl fun _ => rfl

theorem heeds_onBegin (l : Logic β) : Heeds onBegin l := by
  intro others ctx attends
  cases l with
  | task t => exact attends_task.mpr (t.heeds_begin others ctx (attends_task.mp attends))
  | _ => exact attends

end Logic

namespace Node

instance hearing : Hearing (Node β) where
  Attuned n := Attuned n.logic
  heard name n := heard name n.logic

theorem attends_logic {n : Node β} :
    Attends others (n, ctx) ↔ Attends others (n.logic, ctx) :=
  attends_congr Iff.rfl fun _ => rfl

theorem heeds_begin (n : Node β) : Heeds begin n := by
  intro others ctx attends
  unfold begin
  split
  · exact attends
  · exact attends_logic.mpr (n.logic.heeds_onBegin others ctx (attends_logic.mp attends))

end Node

end Containers

instance Behavior.hearing : (height : Nat) → Hearing (Behavior height)
  | 0 => inferInstanceAs (Hearing Empty)
  | height + 1 =>
    let _ := hearing height
    inferInstanceAs (Hearing (Node (Behavior height)))

/-! ## What containers do -/

variable [Behaves β] [Lasting β] [Ordered β] [Holding β] [Hearing β] [Behaves.Heeding β]

open Behaves.Heeding

theorem Behaves.heeds_enter (b : β) : Heeds enter b :=
  fun others ctx attends => heeds_activate _ others _ (heeds_reset b others ctx attends)

namespace State

variable {s : State β}

theorem silent {strict : Bool} (orderly : s.Orderly strict) (resting : s.active = false)
    (discreet : ∀ h ∈ s.hooks, h.Discreet) : Silent s := by
  have behavior : Silent s.behavior := Silent.option fun b member => by
    obtain ⟨runs, below⟩ := orderly.behavior b member
    refine Behaves.Heeding.silent below (runs.trans resting) fun h inside => discreet h ?_
    exact List.mem_append_left _ (List.mem_flatMap.mpr ⟨b, Option.mem_toList.mpr member, inside⟩)
  have exit : Silent s.exit := Silent.option fun b member => by
    obtain ⟨runs, below⟩ := orderly.exit b member
    refine Behaves.Heeding.silent below runs fun h inside => discreet h ?_
    exact List.mem_append_right _ (List.mem_flatMap.mpr ⟨b, Option.mem_toList.mpr member, inside⟩)
  have transitions : Silent s.transitions := Silent.list fun t member => by
    obtain ⟨runs, below⟩ := orderly.transitions t member
    exact Transition.silent below (runs.trans resting)
  refine ⟨⟨behavior.attuned, exit.attuned, transitions.attuned⟩, fun name => ?_⟩
  show heard name s.behavior + heard name s.exit + heard name s.transitions = 0
  rw [behavior.unheard, exit.unheard, transitions.unheard]

theorem heeds_activate (s : State β) : Heeds activate s := by
  intro others ctx attends
  unfold activate
  split
  · exact attends
  · have behavior :=
      heeds_behavior (Heeds.actOn fun b _ => Behaves.Heeding.heeds_activate b) attends
    have transitions := heeds_transitions (Heeds.actAll fun t _ => t.heeds_activate) behavior
    exact transitions.alike (hearsAlike_of_same rfl rfl rfl) rfl

theorem heeds_deactivate (s : State β) : Heeds deactivate s := by
  intro others ctx attends
  unfold deactivate
  split
  · have behavior :=
      heeds_behavior (Heeds.actOn fun b _ => Behaves.Heeding.heeds_deactivate b) attends
    have transitions := heeds_transitions (Heeds.actAll fun t _ => t.heeds_deactivate) behavior
    exact transitions.alike (hearsAlike_of_same rfl rfl rfl) rfl
  · exact attends

theorem heeds_reset (s : State β) : Heeds reset s := by
  intro others ctx attends
  have behavior := heeds_behavior (Heeds.actOn fun b _ => Behaves.Heeding.heeds_reset b) attends
  refine behavior.alike (hearsAlike_of_parts (HearsAlike.refl _) (HearsAlike.refl _) ?_) rfl
  exact HearsAlike.map fun t _ => t.hearsAlike_reset _

theorem heeds_enter (s : State β) : Heeds enter s :=
  fun others ctx attends => heeds_activate _ others _ (heeds_reset s others ctx attends)

theorem heeds_runBehavior (step : Float32) (o : Option β) :
    Heeds (fun ctx o => (runBehavior step ctx o).2) o := by
  intro others ctx attends
  cases o with
  | none => exact attends
  | some b => exact (heeds_update step b others ctx (attends.option rfl)).some

theorem heeds_update (step : Float32) (s : State β) : Heeds (update step) s := by
  intro others ctx attends
  unfold update
  split
  · have ran := heeds_behavior (heeds_runBehavior step s.behavior) attends
    dsimp only
    split
    · -- The end event changes the journal and no listener.
      refine ran.alike (hearsAlike_of_same rfl rfl rfl) ?_
      cases s.endEvent <;> rfl
    · exact ran
  · exact attends.alike (HearsAlike.refl s) rfl

omit [Behaves β] [Lasting β] [Ordered β] [Holding β] [Behaves.Heeding β] in
theorem heeds_checkTransitions (step : Float32) (s : State β) :
    Heeds (fun ctx s => (s.checkTransitions step ctx).2) s := by
  intro others ctx attends
  dsimp only
  unfold checkTransitions
  split
  · exact heeds_transitions (Transition.heeds_checkFirst step s.transitions) attends
  · exact attends

theorem heeds_complete (b : β) : Heeds complete b := by
  intro others ctx attends
  have entered := Behaves.heeds_enter b others ctx attends
  have updated := Behaves.Heeding.heeds_update (Behaves.enter ctx b).2.settings.exitStep _ others _
    entered
  exact Behaves.Heeding.heeds_deactivate _ others _ updated

theorem heeds_leave (s : State β) : Heeds leave s := by
  intro others ctx attends
  have rested := heeds_deactivate s others ctx attends
  exact heeds_exit (Heeds.actOn fun b _ => heeds_complete b) rested

theorem hearsAlike_onTrigger (tag : String) (s : State β) : HearsAlike s (s.onTrigger tag) := by
  unfold onTrigger
  split
  · refine hearsAlike_of_parts ?_ (HearsAlike.refl _) ?_
    · exact HearsAlike.option fun b _ => Behaves.Heeding.hearsAlike_onTrigger tag b
    · exact HearsAlike.map fun t _ => t.hearsAlike_onTrigger tag
  · exact HearsAlike.refl s

/-- The parts of a state are released one after another, each with its receivers. -/
theorem clears_release (s : State β) : Clears release s := by
  intro others ctx attends
  obtain ⟨⟨exit, transitions⟩, attends⟩ := attends_behavior.mp attends
  have behaviorGone := Clears.option (fun b _ => Behaves.Heeding.clears_release b) _ ctx attends
  dsimp only at behaviorGone
  have exitLeft : Attends (fun name => others name + heard name s.transitions)
      (s.exit, s.behavior.toList.foldl Behaves.release ctx) := by
    refine ⟨exit, fun name => ?_⟩
    rw [behaviorGone]
    dsimp only
    omega
  have exitGone := Clears.option (fun b _ => Behaves.Heeding.clears_release b) _ _ exitLeft
  exact Clears.foldl (fun t _ => t.clears_release) others _ ⟨transitions, exitGone⟩

end State

namespace Sequence

theorem heeds_start (s : Sequence β) : Heeds start s := by
  intro others ctx attends
  have acted := Heeds.actAt s.index (fun c _ => Behaves.heeds_enter c) others ctx
    (attends_children.mp attends)
  exact attends_children.mpr acted

theorem heeds_onActivate (s : Sequence β) : Heeds onActivate s := by
  intro others ctx attends
  unfold onActivate
  split
  · have acted := Heeds.actAt s.index (fun c _ => heeds_activate c) others ctx
      (attends_children.mp attends)
    exact attends_children.mpr acted
  · exact heeds_start s others ctx attends

theorem heeds_onDeactivate (s : Sequence β) : Heeds onDeactivate s := by
  intro others ctx attends
  have acted := Heeds.actAt s.index (fun c _ => heeds_deactivate c) others ctx
    (attends_children.mp attends)
  exact attends_children.mpr acted

theorem heeds_onReset (s : Sequence β) : Heeds onReset s := by
  intro others ctx attends
  have below := attends_children.mp attends
  have rested : Attends others (if s.started then
      actAt Behaves.deactivate ctx s.index s.children else (s.children, ctx)) := by
    split
    · exact Heeds.actAt s.index (fun c _ => heeds_deactivate c) others ctx below
    · exact below
  exact attends_children.mpr rested

theorem heeds_ready (started : Bool) (c : β) : Heeds (ready started) c := by
  intro others ctx attends
  cases started with
  | true => exact attends
  | false => exact Behaves.heeds_enter c others ctx attends

theorem heeds_run (started : Bool) (step : Float32) (l : List β) :
    Heeds (fun ctx l => (run started step ctx l).2.2) l := by
  intro others ctx attends
  induction l generalizing started step others ctx with
  | nil => exact attends
  | cons c rest ih =>
    have readied := (heeds_ready started c).first attends
    have ran := (heeds_update step _).first readied
    dsimp only at ran ⊢
    rw [run_cons]
    dsimp only
    split
    · have rested := (heeds_deactivate _).first ran
      obtain ⟨attuned, later⟩ := attends_tail.mp rested
      exact attends_tail.mpr ⟨attuned, ih false _ _ _ later⟩
    · exact ran

theorem heeds_onUpdate (step : Float32) (s : Sequence β) :
    Heeds (fun ctx s => (s.onUpdate step ctx).2) s := by
  intro others ctx attends
  have below := attends_children.mp attends
  rw [← List.take_append_drop s.index s.children] at below
  obtain ⟨passed, ahead⟩ := attends_append.mp below
  have ran := heeds_run s.started step _ _ ctx ahead
  exact attends_children.mpr (attends_append.mpr ⟨passed, ran⟩)

theorem hearsAlike_onTrigger (tag : String) (s : Sequence β) : HearsAlike s (s.onTrigger tag) := by
  have below := HearsAlike.modify s.index fun c (_ : c ∈ s.children) =>
    Behaves.Heeding.hearsAlike_onTrigger tag c
  exact ⟨below.attuned, below.heard⟩

end Sequence

namespace Parallel

theorem heeds_start (p : Parallel β) : Heeds start p := by
  intro others ctx attends
  have reopened := (attends_lanes.mp attends).alike
    (HearsAlike.map fun l _ => l.hearsAlike_reopen) rfl
  have acted := Heeds.actAll (fun l _ => Lane.heeds_act (Behaves.heeds_enter l.child)) others ctx
    reopened
  exact attends_lanes.mpr acted

theorem heeds_onActivate (p : Parallel β) : Heeds onActivate p := by
  intro others ctx attends
  unfold onActivate
  split
  · have acted := Heeds.actAll (fun l _ => Lane.heeds_actIfRunning (heeds_activate l.child)) others
      ctx (attends_lanes.mp attends)
    exact attends_lanes.mpr acted
  · exact heeds_start p others ctx attends

theorem heeds_onDeactivate (p : Parallel β) : Heeds onDeactivate p := by
  intro others ctx attends
  have acted := Heeds.actAll (fun l _ => Lane.heeds_act (heeds_deactivate l.child)) others ctx
    (attends_lanes.mp attends)
  exact attends_lanes.mpr acted

theorem heeds_onReset (p : Parallel β) : Heeds onReset p := by
  intro others ctx attends
  have acted := Heeds.actAll (fun l _ => Lane.heeds_act (heeds_deactivate l.child)) others ctx
    (attends_lanes.mp attends)
  exact attends_lanes.mpr (acted.alike (HearsAlike.map fun l _ => l.hearsAlike_reopen) rfl)

theorem heeds_ready (p : Parallel β) : Heeds ready p := by
  intro others ctx attends
  unfold ready
  split
  · exact attends
  · exact heeds_start p others ctx attends

theorem heeds_run (step least : Float32) (l : List (Lane β)) :
    Heeds (fun ctx l => (run step least ctx l).2) l := by
  intro others ctx attends
  induction l generalizing least others ctx with
  | nil => exact attends
  | cons lane rest ih =>
    dsimp only
    rw [run_cons]
    split
    · obtain ⟨attuned, later⟩ := attends_tail.mp attends
      exact attends_tail.mpr ⟨attuned, ih _ _ _ later⟩
    · obtain ⟨attuned, here⟩ := attends_head.mp attends
      have ran := heeds_update step lane.child _ ctx (Lane.attends_child.mp here)
      -- The lane with its child as it is by then, and the other lanes, which are yet to run.
      have lanes (p : β × Context) (finished : Bool)
          (child : Attends (fun name => others name + heard name rest) p) :
          Attends others (⟨p.1, finished⟩ :: rest, p.2) :=
        attends_head.mpr ⟨attuned, Lane.attends_child.mpr child⟩
      dsimp only at ran ⊢
      split
      · obtain ⟨through, later⟩ := attends_tail.mp (lanes _ true (heeds_deactivate _ _ _ ran))
        exact attends_tail.mpr ⟨through, ih _ _ _ later⟩
      · obtain ⟨running, later⟩ := attends_tail.mp (lanes _ false ran)
        exact attends_tail.mpr ⟨running, ih _ _ _ later⟩

theorem heeds_onUpdate (step : Float32) (p : Parallel β) :
    Heeds (fun ctx p => (p.onUpdate step ctx).2) p := by
  intro others ctx attends
  have readied := heeds_ready p others ctx attends
  exact attends_lanes.mpr (heeds_run step step _ others _ (attends_lanes.mp readied))

theorem hearsAlike_onTrigger (tag : String) (p : Parallel β) : HearsAlike p (p.onTrigger tag) := by
  have lanes : HearsAlike p.lanes (p.onTrigger tag).lanes := HearsAlike.map fun l _ => by
    split
    · exact HearsAlike.refl l
    · have below := Behaves.Heeding.hearsAlike_onTrigger tag l.child
      exact ⟨below.attuned, below.heard⟩
  exact ⟨lanes.attuned, lanes.heard⟩

end Parallel

/-! ## Machines -/

namespace Machine

theorem heeds_enterAt (i : Nat) (m : Machine β) : Heeds (fun ctx m => enterAt ctx m i) m := by
  intro others ctx attends
  have placed : Attends others ({ m with current := some i }, ctx) :=
    attends.alike (hearsAlike_of_states (HearsAlike.refl _)) rfl
  exact heeds_actOnCurrent State.heeds_enter _ others ctx placed

theorem heeds_enterInitial (m : Machine β) : Heeds enterInitial m := by
  intro others ctx attends
  unfold enterInitial
  split
  · exact attends
  · exact heeds_enterAt _ m others ctx attends

theorem heeds_onActivate (m : Machine β) : Heeds onActivate m := by
  intro others ctx attends
  unfold onActivate
  split
  · exact heeds_actOnCurrent State.heeds_activate m others ctx attends
  · exact heeds_enterInitial m others ctx attends

theorem heeds_onDeactivate (m : Machine β) : Heeds onDeactivate m :=
  heeds_actOnCurrent State.heeds_deactivate m

theorem heeds_onReset (m : Machine β) : Heeds onReset m := by
  intro others ctx attends
  have rested := heeds_onDeactivate m others ctx attends
  exact rested.alike (hearsAlike_of_states (HearsAlike.refl _)) rfl

theorem heeds_switchTo (target : String) (m : Machine β) :
    Heeds (fun ctx m => switchTo ctx m target) m := by
  intro others ctx attends
  dsimp only
  unfold switchTo
  split
  · exact attends
  · have left := heeds_actOnCurrent State.heeds_leave m others ctx attends
    have entered (i : Nat) := heeds_enterAt i _ others _ left
    exact (entered _).alike (hearsAlike_of_states (HearsAlike.refl _)) rfl

theorem heeds_ready (m : Machine β) : Heeds ready m := by
  intro others ctx attends
  unfold ready
  split
  · exact attends
  · exact heeds_enterInitial m others ctx attends

theorem heeds_tick (step : Float32) (s : State β) : Heeds (fun ctx s => (tick step ctx s).2) s := by
  intro others ctx attends
  have updated := State.heeds_update step s others ctx attends
  exact State.heeds_checkTransitions step _ others _ updated

theorem heeds_advance (step : Float32) {m : Machine β} {i : Nat} {s : State β}
    (found : m.states[i]? = some s) (attends : Attends others (m, ctx)) :
    Attends others (m.advance step ctx i s) := by
  have ticked := Heeds.actAt i (fun s _ => heeds_tick step s) others ctx (attends_states.mp attends)
  dsimp only at ticked
  rw [actAt_eq, found] at ticked
  have placed :=
    attends_states (m := { m with states := m.states.set i (tick step ctx s).2.1 }).mpr ticked
  unfold advance
  dsimp only
  split
  · exact placed
  · exact heeds_switchTo _ _ others _ placed

theorem heeds_onUpdate (step : Float32) (m : Machine β) :
    Heeds (fun ctx m => (m.onUpdate step ctx).2) m := by
  intro others ctx attends
  have readied := heeds_ready m others ctx attends
  dsimp only
  unfold onUpdate
  dsimp only
  split
  · exact readied
  · split
    · exact readied
    · rename_i found
      exact heeds_advance step found readied

theorem hearsAlike_onTrigger (tag : String) (m : Machine β) : HearsAlike m (m.onTrigger tag) := by
  unfold onTrigger
  split
  · exact HearsAlike.refl m
  · exact hearsAlike_of_states (HearsAlike.modify _ fun s _ => s.hearsAlike_onTrigger tag)

end Machine

/-! ## Nodes -/

namespace Logic

theorem silent {strict : Bool} {l : Logic β} (orderly : l.Orderly strict false)
    (discreet : ∀ h ∈ l.hooks, h.Discreet) : Silent l := by
  cases l with
  | task t => exact ⟨discreet, fun _ => rfl⟩
  | sequence s =>
    have below : Silent s.children := Silent.list fun c member => by
      obtain ⟨i, found⟩ := List.mem_iff_getElem?.mp member
      have order := (Sequence.Orderly.children orderly i c found).2
      exact Behaves.Heeding.silent order (Sequence.Orderly.resting orderly found) fun h inside =>
        discreet h (subset_flatMap_of_mem Holding.hooks member inside)
    exact ⟨below.attuned, below.unheard⟩
  | parallel p =>
    have below : Silent p.lanes := Silent.list fun l member => by
      obtain ⟨resting, order⟩ := Parallel.Orderly.lanes orderly l member
      have child := Behaves.Heeding.silent order (by simpa using resting) fun h inside =>
        discreet h (subset_flatMap_of_mem (fun l : Lane β => Holding.hooks l.child) member inside)
      exact ⟨child.attuned, child.unheard⟩
    exact ⟨below.attuned, below.unheard⟩
  | machine m =>
    have below : Silent m.states := Silent.list fun s member => by
      obtain ⟨i, found⟩ := List.mem_iff_getElem?.mp member
      obtain ⟨resting, order⟩ := Machine.Orderly.states orderly i s found
      exact State.silent order (by simpa using resting) fun h inside =>
        discreet h (subset_flatMap_of_mem State.hooks member inside)
    exact ⟨below.attuned, below.unheard⟩

theorem heeds_onActivate (l : Logic β) : Heeds onActivate l := by
  intro others ctx attends
  cases l with
  | task t => exact attends
  | sequence s =>
    exact attends_sequence.mpr (s.heeds_onActivate others ctx (attends_sequence.mp attends))
  | parallel p =>
    exact attends_parallel.mpr (p.heeds_onActivate others ctx (attends_parallel.mp attends))
  | machine m =>
    exact attends_machine.mpr (m.heeds_onActivate others ctx (attends_machine.mp attends))

theorem heeds_onDeactivate (l : Logic β) : Heeds onDeactivate l := by
  intro others ctx attends
  cases l with
  | task t => exact attends
  | sequence s =>
    exact attends_sequence.mpr (s.heeds_onDeactivate others ctx (attends_sequence.mp attends))
  | parallel p =>
    exact attends_parallel.mpr (p.heeds_onDeactivate others ctx (attends_parallel.mp attends))
  | machine m =>
    exact attends_machine.mpr (m.heeds_onDeactivate others ctx (attends_machine.mp attends))

theorem heeds_onReset (l : Logic β) : Heeds onReset l := by
  intro others ctx attends
  cases l with
  | task t => exact attends_task.mpr (t.heeds_reset others ctx (attends_task.mp attends))
  | sequence s =>
    exact attends_sequence.mpr (s.heeds_onReset others ctx (attends_sequence.mp attends))
  | parallel p =>
    exact attends_parallel.mpr (p.heeds_onReset others ctx (attends_parallel.mp attends))
  | machine m =>
    exact attends_machine.mpr (m.heeds_onReset others ctx (attends_machine.mp attends))

theorem heeds_onUpdate (step : Float32) (l : Logic β) :
    Heeds (fun ctx l => (l.onUpdate step ctx).2) l := by
  intro others ctx attends
  cases l with
  | task t => exact attends_task.mpr (t.heeds_update step others ctx (attends_task.mp attends))
  | sequence s =>
    exact attends_sequence.mpr (s.heeds_onUpdate step others ctx (attends_sequence.mp attends))
  | parallel p =>
    exact attends_parallel.mpr (p.heeds_onUpdate step others ctx (attends_parallel.mp attends))
  | machine m =>
    exact attends_machine.mpr (m.heeds_onUpdate step others ctx (attends_machine.mp attends))

theorem hearsAlike_onTrigger (tag : String) (l : Logic β) : HearsAlike l (l.onTrigger tag) := by
  cases l with
  | task t => exact HearsAlike.refl _
  | sequence s =>
    have below := s.hearsAlike_onTrigger tag
    exact ⟨below.attuned, below.heard⟩
  | parallel p =>
    have below := p.hearsAlike_onTrigger tag
    exact ⟨below.attuned, below.heard⟩
  | machine m =>
    have below := m.hearsAlike_onTrigger tag
    exact ⟨below.attuned, below.heard⟩

theorem clears_onDestroy (l : Logic β) : Clears onDestroy l := by
  intro others ctx attends
  cases l with
  | task t =>
    intro name
    have same := t.listeners_destroy ctx.toScope (attends_task.mp attends).attuned
    exact (congrArg (List.count name) same).trans (attends.counted name)
  | sequence s =>
    have children := Sequence.attends_children.mp (attends_sequence.mp attends)
    exact Clears.foldl (fun c _ => clears_release c) others ctx children
  | parallel p =>
    have lanes := Parallel.attends_lanes.mp (attends_parallel.mp attends)
    have children : Attends others (p.lanes.map (·.child), ctx) := by
      refine ⟨?_, fun name => ?_⟩
      · exact List.forall_mem_map.mpr lanes.attuned
      · refine (lanes.counted name).trans ?_
        simp only [heard, List.foldr_map]
    exact Clears.foldl (fun c _ => clears_release c) others ctx children
  | machine m =>
    have states := Machine.attends_states.mp (attends_machine.mp attends)
    exact Clears.foldl (fun s _ => s.clears_release) others ctx states

end Logic

namespace Node

instance heeding : Behaves.Heeding (Node β) where
  silent {strict n} orderly resting discreet := by
    have resting : n.active = false := resting
    have orderly : n.logic.Orderly strict n.active := orderly
    rw [resting] at orderly
    have below := Logic.silent orderly discreet
    exact ⟨below.attuned, below.unheard⟩
  heeds_activate n := by
    intro others ctx attends
    show Attends others (n.activate ctx)
    unfold activate
    split
    · exact attends
    · exact attends_logic.mpr (n.logic.heeds_onActivate others ctx (attends_logic.mp attends))
  heeds_deactivate n := by
    intro others ctx attends
    show Attends others (n.deactivate ctx)
    unfold deactivate
    split
    · exact attends_logic.mpr (n.logic.heeds_onDeactivate others ctx (attends_logic.mp attends))
    · exact attends
  heeds_reset n := by
    intro others ctx attends
    exact attends_logic.mpr (n.logic.heeds_onReset others ctx (attends_logic.mp attends))
  heeds_update step n := by
    intro others ctx attends
    show Attends others (n.update step ctx).2
    unfold update
    split
    · have begun := heeds_begin n others ctx attends
      exact attends_logic.mpr (Logic.heeds_onUpdate _ _ others _ (attends_logic.mp begun))
    · exact attends.alike (HearsAlike.refl n) rfl
  hearsAlike_onTrigger tag n := by
    show HearsAlike n (n.onTrigger tag)
    unfold onTrigger
    split
    · have below := n.logic.hearsAlike_onTrigger tag
      exact ⟨below.attuned, below.heard⟩
    · exact HearsAlike.refl n
  clears_release n := by
    intro others ctx attends
    exact n.logic.clears_onDestroy others ctx (attends_logic.mp attends)

end Node

instance Behavior.heeding : (height : Nat) → Behaves.Heeding (Behavior height)
  | 0 => inferInstanceAs (Behaves.Heeding Empty)
  | height + 1 =>
    have := heeding height
    inferInstanceAs (Behaves.Heeding (Node (Behavior height)))

end SkillScript
