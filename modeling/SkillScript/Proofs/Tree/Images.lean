import SkillScript.Node.Create
import SkillScript.Proofs.Tree.Each
/-!
# Images of trees

A map between two kinds of behaviors may respect all calls: it makes no difference then
whether a behavior is first called and then mapped, or the other way round. Such a map
can be carried out on all children of a node at once, and what comes out is a map
between nodes that respects all calls again.
-/
set_option autoImplicit false
namespace SkillScript

variable {β γ : Type} {f : β → γ}

/-- A map between behaviors that makes no difference to any call. -/
structure Behaves.Respects [Behaves β] [Behaves γ] (f : β → γ) : Prop where
  isActive (b : β) : isActive (f b) = isActive b
  activate (ctx : Context) (b : β) :
    activate ctx (f b) = (f (activate ctx b).1, (activate ctx b).2)
  deactivate (ctx : Context) (b : β) :
    deactivate ctx (f b) = (f (deactivate ctx b).1, (deactivate ctx b).2)
  reset (ctx : Context) (b : β) : reset ctx (f b) = (f (reset ctx b).1, (reset ctx b).2)
  update (step : Float32) (ctx : Context) (b : β) :
    update step ctx (f b) =
      ((update step ctx b).1, f (update step ctx b).2.1, (update step ctx b).2.2)
  canStop (b : β) : canStop (f b) = canStop b
  onTrigger (tag : String) (b : β) : onTrigger tag (f b) = f (onTrigger tag b)
  destroy (ctx : Context) (b : β) : destroy ctx (f b) = destroy ctx b

section

variable [Behaves β] [Behaves γ] (respects : Behaves.Respects f) (ctx : Context)

include respects

theorem Behaves.Respects.enter (b : β) :
    Behaves.enter ctx (f b) = (f (Behaves.enter ctx b).1, (Behaves.enter ctx b).2) := by
  simp only [Behaves.enter, respects.reset, respects.activate]

theorem Behaves.Respects.release (b : β) : Behaves.release ctx (f b) = Behaves.release ctx b :=
  congrArg Context.buried (respects.destroy ctx b)

theorem Behaves.Respects.foldl_release (l : List β) :
    (l.map f).foldl Behaves.release ctx = l.foldl Behaves.release ctx := by
  rw [List.foldl_map]
  congr 1
  funext ctx b
  exact respects.release ctx b

end

/-! ## States -/

namespace State

def map (f : β → γ) (s : State β) : State γ :=
  { active := s.active
    id := s.id
    endEvent := s.endEvent
    behavior := s.behavior.map f
    exit := s.exit.map f
    transitions := s.transitions
    ended := s.ended }

variable [Behaves β] [Behaves γ] (respects : Behaves.Respects f) (ctx : Context) (s : State β)

include respects

theorem activate_map :
    (s.map f).activate ctx = ((s.activate ctx).1.map f, (s.activate ctx).2) := by
  obtain ⟨active, id, endEvent, behavior, exit, transitions, ended⟩ := s
  cases active with
  | true => rfl
  | false =>
    simp only [activate, map, actOn_map respects.activate]
    rfl

theorem deactivate_map :
    (s.map f).deactivate ctx = ((s.deactivate ctx).1.map f, (s.deactivate ctx).2) := by
  obtain ⟨active, id, endEvent, behavior, exit, transitions, ended⟩ := s
  cases active with
  | false => rfl
  | true =>
    simp only [deactivate, map, actOn_map respects.deactivate]
    rfl

theorem reset_map : (s.map f).reset ctx = ((s.reset ctx).1.map f, (s.reset ctx).2) := by
  simp only [reset, map, actOn_map respects.reset]

theorem enter_map : (s.map f).enter ctx = ((s.enter ctx).1.map f, (s.enter ctx).2) := by
  show ((s.map f).reset ctx).1.activate ((s.map f).reset ctx).2 = _
  rw [reset_map respects]
  exact activate_map respects _ _

theorem runBehavior_map (step : Float32) (o : Option β) :
    runBehavior step ctx (o.map f) =
      ((runBehavior step ctx o).1, (runBehavior step ctx o).2.1.map f,
        (runBehavior step ctx o).2.2) := by
  cases o with
  | none => rfl
  | some b => simp only [Option.map_some, runBehavior, respects.update, respects.canStop]

theorem update_map (step : Float32) :
    (s.map f).update step ctx = ((s.update step ctx).1.map f, (s.update step ctx).2) := by
  obtain ⟨active, id, endEvent, behavior, exit, transitions, ended⟩ := s
  cases active with
  | false => rfl
  | true =>
    simp only [update, map, if_true, runBehavior_map respects]
    split <;> rfl

omit respects [Behaves β] [Behaves γ] in
theorem checkTransitions_map (step : Float32) :
    (s.map f).checkTransitions step ctx =
      ((s.checkTransitions step ctx).1, (s.checkTransitions step ctx).2.1.map f,
        (s.checkTransitions step ctx).2.2) := by
  obtain ⟨active, id, endEvent, behavior, exit, transitions, ended⟩ := s
  cases ended <;> rfl

theorem complete_map (b : β) :
    complete ctx (f b) = (f (complete ctx b).1, (complete ctx b).2) := by
  simp only [complete, respects.enter, respects.update, respects.deactivate]

theorem leave_map : (s.map f).leave ctx = ((s.leave ctx).1.map f, (s.leave ctx).2) := by
  have exit (s : State β) (ctx : Context) :
      actOn complete ctx (s.map f).exit =
        ((actOn complete ctx s.exit).1.map f, (actOn complete ctx s.exit).2) :=
    actOn_map (complete_map respects) ctx s.exit
  simp only [leave, deactivate_map respects, exit]
  rfl

theorem onTrigger_map (tag : String) : (s.map f).onTrigger tag = (s.onTrigger tag).map f := by
  obtain ⟨active, id, endEvent, behavior, exit, transitions, ended⟩ := s
  cases active with
  | false => rfl
  | true =>
    cases behavior with
    | none => rfl
    | some b => simp only [onTrigger, map, if_true, Option.map_some, respects.onTrigger]

theorem destroy_map : (s.map f).destroy ctx = s.destroy ctx := by
  have each (ctx : Context) (o : Option β) :
      (o.map f).toList.foldl Behaves.release ctx = o.toList.foldl Behaves.release ctx := by
    cases o with
    | none => rfl
    | some b => exact respects.release ctx b
  simp only [destroy, map, each]

theorem release_map : (s.map f).release ctx = s.release ctx :=
  congrArg Context.buried (s.destroy_map respects ctx)

end State

/-! ## Sequences -/

namespace Sequence

def map (f : β → γ) (s : Sequence β) : Sequence γ :=
  { children := s.children.map f, index := s.index, started := s.started }

variable [Behaves β] [Behaves γ] (respects : Behaves.Respects f) (ctx : Context) (s : Sequence β)

include respects

theorem onActivate_map :
    (s.map f).onActivate ctx = ((s.onActivate ctx).1.map f, (s.onActivate ctx).2) := by
  obtain ⟨children, index, started⟩ := s
  cases started with
  | true =>
    simp only [onActivate, map, if_true, actAt_map respects.activate]
  | false =>
    simp only [onActivate, start, map, actAt_map respects.enter]
    rfl

theorem onDeactivate_map :
    (s.map f).onDeactivate ctx = ((s.onDeactivate ctx).1.map f, (s.onDeactivate ctx).2) := by
  simp only [onDeactivate, map, actAt_map respects.deactivate]

theorem onReset_map :
    (s.map f).onReset ctx = ((s.onReset ctx).1.map f, (s.onReset ctx).2) := by
  obtain ⟨children, index, started⟩ := s
  cases started with
  | true => simp only [onReset, map, if_true, actAt_map respects.deactivate]
  | false => rfl

theorem ready_map (started : Bool) (b : β) :
    ready started ctx (f b) = (f (ready started ctx b).1, (ready started ctx b).2) := by
  cases started with
  | true => rfl
  | false => exact respects.enter ctx b

theorem run_map (started : Bool) (step : Float32) (l : List β) :
    run started step ctx (l.map f) =
      ((run started step ctx l).1, (run started step ctx l).2.1,
        (run started step ctx l).2.2.1.map f, (run started step ctx l).2.2.2) := by
  induction l generalizing started step ctx with
  | nil => rfl
  | cons b rest ih =>
    simp only [List.map_cons, run_cons, ready_map respects, respects.update, respects.canStop,
      respects.deactivate, ih]
    split <;> rfl

theorem onUpdate_map (step : Float32) :
    (s.map f).onUpdate step ctx =
      ((s.onUpdate step ctx).1, (s.onUpdate step ctx).2.1.map f, (s.onUpdate step ctx).2.2) := by
  simp only [onUpdate, map, ← List.map_drop, run_map respects, ← List.map_take, List.map_append]

theorem onTrigger_map (tag : String) : (s.map f).onTrigger tag = (s.onTrigger tag).map f := by
  simp only [onTrigger, map, modify_map (respects.onTrigger tag)]

theorem onDestroy_map : (s.map f).onDestroy ctx = s.onDestroy ctx :=
  respects.foldl_release ctx s.children

end Sequence

/-! ## Parallels -/

def Lane.map (f : β → γ) (l : Lane β) : Lane γ :=
  { child := f l.child, finished := l.finished }

namespace Parallel

def map (f : β → γ) (p : Parallel β) : Parallel γ :=
  { lanes := p.lanes.map (Lane.map f), started := p.started }

variable [Behaves β] [Behaves γ] (respects : Behaves.Respects f) (ctx : Context) (p : Parallel β)

omit [Behaves β] [Behaves γ] in
theorem map_reopen (l : List (Lane β)) :
    (l.map (Lane.map f)).map Lane.reopen = (l.map Lane.reopen).map (Lane.map f) := by
  simp only [List.map_map]
  rfl

omit [Behaves β] [Behaves γ] in
theorem act_map {act : Context → β → β × Context} {act' : Context → γ → γ × Context}
    (same : ∀ ctx b, act' ctx (f b) = (f (act ctx b).1, (act ctx b).2)) (l : Lane β) :
    (l.map f).act act' ctx = ((l.act act ctx).1.map f, (l.act act ctx).2) := by
  simp only [Lane.act, Lane.map, same]

omit [Behaves β] [Behaves γ] in
theorem actIfRunning_map {act : Context → β → β × Context} {act' : Context → γ → γ × Context}
    (same : ∀ ctx b, act' ctx (f b) = (f (act ctx b).1, (act ctx b).2)) (l : Lane β) :
    (l.map f).actIfRunning act' ctx =
      ((l.actIfRunning act ctx).1.map f, (l.actIfRunning act ctx).2) := by
  obtain ⟨child, finished⟩ := l
  cases finished with
  | true => rfl
  | false => exact act_map ctx same _

include respects

theorem start_map : (p.map f).start ctx = ((p.start ctx).1.map f, (p.start ctx).2) := by
  simp only [start, map, map_reopen, actAll_map fun ctx => act_map ctx respects.enter]

theorem onActivate_map :
    (p.map f).onActivate ctx = ((p.onActivate ctx).1.map f, (p.onActivate ctx).2) := by
  obtain ⟨lanes, started⟩ := p
  cases started with
  | true =>
    simp only [onActivate, map, if_true,
      actAll_map fun ctx => actIfRunning_map ctx respects.activate]
  | false => exact start_map respects ctx _

theorem onDeactivate_map :
    (p.map f).onDeactivate ctx = ((p.onDeactivate ctx).1.map f, (p.onDeactivate ctx).2) := by
  simp only [onDeactivate, map, actAll_map fun ctx => act_map ctx respects.deactivate]

theorem onReset_map : (p.map f).onReset ctx = ((p.onReset ctx).1.map f, (p.onReset ctx).2) := by
  simp only [onReset, map, actAll_map fun ctx => act_map ctx respects.deactivate, map_reopen]

theorem ready_map : (p.map f).ready ctx = ((p.ready ctx).1.map f, (p.ready ctx).2) := by
  obtain ⟨lanes, started⟩ := p
  cases started with
  | true => rfl
  | false => exact start_map respects ctx _

theorem run_map (step least : Float32) (l : List (Lane β)) :
    run step least ctx (l.map (Lane.map f)) =
      ((run step least ctx l).1, (run step least ctx l).2.1.map (Lane.map f),
        (run step least ctx l).2.2) := by
  induction l generalizing least ctx with
  | nil => rfl
  | cons lane rest ih =>
    obtain ⟨child, finished⟩ := lane
    cases finished with
    | true => simp only [List.map_cons, run_cons, Lane.map, if_true, ih]
    | false =>
      simp only [List.map_cons, run_cons, Lane.map, respects.update, respects.canStop,
        respects.deactivate, ih, Bool.false_eq_true, if_false]
      split <;> rfl

theorem onUpdate_map (step : Float32) :
    (p.map f).onUpdate step ctx =
      ((p.onUpdate step ctx).1, (p.onUpdate step ctx).2.1.map f, (p.onUpdate step ctx).2.2) := by
  have ran (p : Parallel β) (ctx : Context) := run_map respects ctx step step p.lanes
  simp only [onUpdate, ready_map respects]
  show (_, _, _) = (_, _, _)
  simp only [map, ran]

omit [Behaves β] [Behaves γ] respects in
theorem canStop_map : (p.map f).canStop = p.canStop := by
  simp only [canStop, map, List.all_map]
  rfl

theorem onTrigger_map (tag : String) : (p.map f).onTrigger tag = (p.onTrigger tag).map f := by
  simp only [onTrigger, map, List.map_map]
  refine congrArg (fun lanes => Parallel.mk lanes p.started) (List.map_congr_left fun l _ => ?_)
  obtain ⟨child, finished⟩ := l
  cases finished with
  | true => rfl
  | false => simp [Lane.map, respects.onTrigger]

theorem onDestroy_map : (p.map f).onDestroy ctx = p.onDestroy ctx := by
  have children : (p.map f).lanes.map (·.child) = (p.lanes.map (·.child)).map f := by
    simp only [map, List.map_map]
    rfl
  simp only [onDestroy, Behaves.releaseAll, children, respects.foldl_release]

end Parallel

/-! ## Machines -/

namespace Machine

def map (f : β → γ) (m : Machine β) : Machine γ :=
  { states := m.states.map (State.map f)
    index := m.index
    initial := m.initial
    current := m.current
    switches := m.switches }

variable [Behaves β] [Behaves γ] (respects : Behaves.Respects f) (ctx : Context) (m : Machine β)

omit [Behaves β] [Behaves γ] in
theorem actOnCurrent_map {act : Context → State β → State β × Context}
    {act' : Context → State γ → State γ × Context}
    (same : ∀ ctx s, act' ctx (s.map f) = ((act ctx s).1.map f, (act ctx s).2)) :
    (m.map f).actOnCurrent act' ctx =
      ((m.actOnCurrent act ctx).1.map f, (m.actOnCurrent act ctx).2) := by
  obtain ⟨states, index, initial, current, switches⟩ := m
  cases current with
  | none => rfl
  | some i => simp only [actOnCurrent, map, actAt_map same]

include respects

theorem enterAt_map (i : Nat) :
    (m.map f).enterAt ctx i = ((m.enterAt ctx i).1.map f, (m.enterAt ctx i).2) :=
  actOnCurrent_map ctx { m with current := some i } (State.enter_map respects)

theorem enterInitial_map :
    (m.map f).enterInitial ctx = ((m.enterInitial ctx).1.map f, (m.enterInitial ctx).2) := by
  have known : (m.map f).index.find? (m.map f).initial = m.index.find? m.initial := rfl
  unfold enterInitial
  rw [known]
  cases m.index.find? m.initial with
  | none => rfl
  | some i => exact enterAt_map respects ctx m i

theorem onActivate_map :
    (m.map f).onActivate ctx = ((m.onActivate ctx).1.map f, (m.onActivate ctx).2) := by
  have current : (m.map f).current = m.current := rfl
  unfold onActivate
  rw [current]
  cases m.current with
  | none => exact enterInitial_map respects ctx m
  | some i => exact actOnCurrent_map ctx m (State.activate_map respects)

theorem onDeactivate_map :
    (m.map f).onDeactivate ctx = ((m.onDeactivate ctx).1.map f, (m.onDeactivate ctx).2) :=
  actOnCurrent_map ctx m (State.deactivate_map respects)

theorem onReset_map : (m.map f).onReset ctx = ((m.onReset ctx).1.map f, (m.onReset ctx).2) := by
  simp only [onReset, actOnCurrent_map ctx m (State.deactivate_map respects)]
  rfl

theorem switchTo_map (target : String) :
    (m.map f).switchTo ctx target =
      ((m.switchTo ctx target).1.map f, (m.switchTo ctx target).2) := by
  have known : (m.map f).index.find? target = m.index.find? target := rfl
  unfold switchTo
  rw [known]
  cases m.index.find? target with
  | none => rfl
  | some next =>
    simp only [actOnCurrent_map ctx m (State.leave_map respects), enterAt_map respects]
    rfl

theorem ready_map : (m.map f).ready ctx = ((m.ready ctx).1.map f, (m.ready ctx).2) := by
  have current : (m.map f).current = m.current := rfl
  unfold ready
  rw [current]
  cases m.current with
  | none => exact enterInitial_map respects ctx m
  | some i => rfl

theorem tick_map (step : Float32) (s : State β) :
    tick step ctx (s.map f) =
      ((tick step ctx s).1, (tick step ctx s).2.1.map f, (tick step ctx s).2.2) := by
  simp only [tick, State.update_map respects, State.checkTransitions_map]

theorem advance_map (step : Float32) (i : Nat) (s : State β) :
    (m.map f).advance step ctx i (s.map f) =
      ((m.advance step ctx i s).1.map f, (m.advance step ctx i s).2) := by
  have set (s : State β) : ({ m.map f with states := (m.map f).states.set i (s.map f) } :
      Machine γ) = map f { m with states := m.states.set i s } := by
    simp only [map, List.map_set]
  unfold advance
  simp only [tick_map respects]
  rw [set]
  cases (tick step ctx s).1 with
  | none => rfl
  | some id => exact switchTo_map respects ..

theorem onUpdate_map (step : Float32) :
    (m.map f).onUpdate step ctx =
      ((m.onUpdate step ctx).1, (m.onUpdate step ctx).2.1.map f, (m.onUpdate step ctx).2.2) := by
  unfold onUpdate
  simp only [ready_map respects]
  generalize m.ready ctx = p
  obtain ⟨m, ctx⟩ := p
  dsimp only
  have current : (m.map f).current = m.current := rfl
  rw [current]
  cases m.current with
  | none => rfl
  | some i =>
    have found : (m.map f).states[i]? = m.states[i]?.map (State.map f) := List.getElem?_map
    dsimp only
    rw [found]
    cases m.states[i]? with
    | none => rfl
    | some s => simp only [Option.map_some, advance_map respects]

omit respects [Behaves β] [Behaves γ] in
theorem canStop_map [Behaves β] [Behaves γ] : (m.map f).canStop = m.canStop := by
  obtain ⟨states, index, initial, current, switches⟩ := m
  cases current with
  | none => rfl
  | some i =>
    simp only [canStop, currentState?, map, Option.bind_some, List.getElem?_map]
    cases states[i]? <;> rfl

theorem onTrigger_map (tag : String) : (m.map f).onTrigger tag = (m.onTrigger tag).map f := by
  obtain ⟨states, index, initial, current, switches⟩ := m
  cases current with
  | none => rfl
  | some i =>
    simp only [onTrigger, map, modify_map fun s => State.onTrigger_map respects s tag]

theorem onDestroy_map : (m.map f).onDestroy ctx = m.onDestroy ctx := by
  simp only [onDestroy, map, List.foldl_map]
  congr 1
  funext ctx s
  exact s.release_map respects ctx

end Machine

/-! ## Nodes -/

namespace Logic

def map (f : β → γ) : Logic β → Logic γ
  | task t => task t
  | sequence s => sequence (s.map f)
  | parallel p => parallel (p.map f)
  | machine m => machine (m.map f)

variable [Behaves β] [Behaves γ] (respects : Behaves.Respects f) (ctx : Context) (l : Logic β)

include respects

theorem onActivate_map :
    (l.map f).onActivate ctx = ((l.onActivate ctx).1.map f, (l.onActivate ctx).2) := by
  cases l with
  | task t => rfl
  | sequence s => simp only [map, onActivate, s.onActivate_map respects]
  | parallel p => simp only [map, onActivate, p.onActivate_map respects]
  | machine m => simp only [map, onActivate, m.onActivate_map respects]

theorem onDeactivate_map :
    (l.map f).onDeactivate ctx = ((l.onDeactivate ctx).1.map f, (l.onDeactivate ctx).2) := by
  cases l with
  | task t => rfl
  | sequence s => simp only [map, onDeactivate, s.onDeactivate_map respects]
  | parallel p => simp only [map, onDeactivate, p.onDeactivate_map respects]
  | machine m => simp only [map, onDeactivate, m.onDeactivate_map respects]

theorem onReset_map : (l.map f).onReset ctx = ((l.onReset ctx).1.map f, (l.onReset ctx).2) := by
  cases l with
  | task t => rfl
  | sequence s => simp only [map, onReset, s.onReset_map respects]
  | parallel p => simp only [map, onReset, p.onReset_map respects]
  | machine m => simp only [map, onReset, m.onReset_map respects]

omit respects [Behaves β] [Behaves γ] in
theorem onBegin_map : (l.map f).onBegin ctx = ((l.onBegin ctx).1.map f, (l.onBegin ctx).2) := by
  cases l <;> rfl

theorem onUpdate_map (step : Float32) :
    (l.map f).onUpdate step ctx =
      ((l.onUpdate step ctx).1, (l.onUpdate step ctx).2.1.map f, (l.onUpdate step ctx).2.2) := by
  cases l with
  | task t => rfl
  | sequence s => simp only [map, onUpdate, s.onUpdate_map respects]
  | parallel p => simp only [map, onUpdate, p.onUpdate_map respects]
  | machine m => simp only [map, onUpdate, m.onUpdate_map respects]

omit respects in
theorem canStop_map : (l.map f).canStop = l.canStop := by
  cases l with
  | task t => rfl
  | sequence s => simp [map, canStop, Sequence.canStop, Sequence.map]
  | parallel p => exact p.canStop_map
  | machine m => exact m.canStop_map

theorem onTrigger_map (tag : String) : (l.map f).onTrigger tag = (l.onTrigger tag).map f := by
  cases l with
  | task t => rfl
  | sequence s => simp only [map, onTrigger, s.onTrigger_map respects]
  | parallel p => simp only [map, onTrigger, p.onTrigger_map respects]
  | machine m => simp only [map, onTrigger, m.onTrigger_map respects]

theorem onDestroy_map : (l.map f).onDestroy ctx = l.onDestroy ctx := by
  cases l with
  | task t => rfl
  | sequence s => exact s.onDestroy_map respects ctx
  | parallel p => exact p.onDestroy_map respects ctx
  | machine m => exact m.onDestroy_map respects ctx

end Logic

def Node.map (f : β → γ) (n : Node β) : Node γ :=
  { active := n.active, begun := n.begun, logic := n.logic.map f }

/-- What respects the calls on the children respects the calls on the nodes. -/
theorem Node.respects_map [Behaves β] [Behaves γ] (respects : Behaves.Respects f) :
    Behaves.Respects (Node.map f) where
  isActive _ := rfl
  activate ctx n := by
    obtain ⟨active, begun, logic⟩ := n
    cases active with
    | true => rfl
    | false =>
      show Node.activate ctx _ = (Node.map f (Node.activate ctx _).1, (Node.activate ctx _).2)
      simp only [Node.activate, Node.map, logic.onActivate_map respects, Bool.false_eq_true,
        if_false]
  deactivate ctx n := by
    obtain ⟨active, begun, logic⟩ := n
    cases active with
    | false => rfl
    | true =>
      show Node.deactivate ctx _ =
        (Node.map f (Node.deactivate ctx _).1, (Node.deactivate ctx _).2)
      simp only [Node.deactivate, Node.map, logic.onDeactivate_map respects, if_true]
  reset ctx n := by
    show Node.reset ctx _ = (Node.map f (Node.reset ctx _).1, (Node.reset ctx _).2)
    simp only [Node.reset, Node.map, n.logic.onReset_map respects]
  update step ctx n := by
    obtain ⟨active, begun, logic⟩ := n
    show Node.update step ctx _ = ((Node.update step ctx _).1,
      Node.map f (Node.update step ctx _).2.1, (Node.update step ctx _).2.2)
    cases active with
    | false => rfl
    | true =>
      have begins : Node.begin ctx (Node.map f ⟨true, begun, logic⟩) =
          (Node.map f (Node.begin ctx ⟨true, begun, logic⟩).1,
            (Node.begin ctx ⟨true, begun, logic⟩).2) := by
        cases begun with
        | true => rfl
        | false => simp [Node.begin, Node.map, logic.onBegin_map]
      have awake : (Node.map f ⟨true, begun, logic⟩).active = true := rfl
      simp only [Node.update, begins, awake, if_true]
      generalize Node.begin ctx ⟨true, begun, logic⟩ = p
      obtain ⟨⟨active, begun, logic⟩, ctx⟩ := p
      simp only [Node.map, logic.onUpdate_map respects]
  canStop n := n.logic.canStop_map
  onTrigger tag n := by
    obtain ⟨active, begun, logic⟩ := n
    cases active with
    | false => rfl
    | true =>
      exact congrArg (Node.mk true begun) (logic.onTrigger_map respects tag)
  destroy ctx n := n.logic.onDestroy_map respects ctx

def AnyNode.map (f : β → γ) : AnyNode β → AnyNode γ
  | behavior n => behavior (n.map f)
  | condition c => condition c
  | state s => state (s.map f)
  | transition t => transition t

theorem AnyNode.release_map [Behaves β] [Behaves γ] (respects : Behaves.Respects f)
    (ctx : Context) (n : AnyNode β) : (n.map f).release ctx = n.release ctx := by
  cases n with
  | behavior n => exact (Node.respects_map respects).release ctx n
  | condition c => rfl
  | state s => exact s.release_map respects ctx
  | transition t => rfl

/-! ## Higher trees -/

def Behavior.raise : {height : Nat} → Behavior height → Behavior (height + 1)
  | 0, b => nomatch b
  | _ + 1, n => Node.map Behavior.raise n

theorem Behavior.respects_raise : (height : Nat) →
    Behaves.Respects (Behavior.raise : Behavior height → Behavior (height + 1))
  | 0 =>
    { isActive := fun b => nomatch b
      activate := fun _ b => nomatch b
      deactivate := fun _ b => nomatch b
      reset := fun _ b => nomatch b
      update := fun _ _ b => nomatch b
      canStop := fun b => nomatch b
      onTrigger := fun _ b => nomatch b
      destroy := fun _ b => nomatch b }
  | height + 1 => Node.respects_map (respects_raise height)

end SkillScript
