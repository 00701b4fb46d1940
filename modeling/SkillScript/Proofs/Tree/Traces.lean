import SkillScript.Proofs.Tree.Images
/-!
# The way of an update

An update changes its scope one act at a time: a task begins or is updated, or a state
whose logic ends publishes its end event. The trace of an update lists the scopes behind
these acts, so it tells in which order variables are written, entities are changed and
events are published, also where a later write hides an earlier one.
-/
set_option autoImplicit false
namespace SkillScript

class Tracing (β : Type) where
  trace : Float32 → Context → β → List Scope

export Tracing (trace)

instance : Tracing Empty where
  trace _ _ b := nomatch b

variable {β γ : Type}

section Definitions

variable [Behaves β] [Tracing β]

namespace State

/-- What the behavior does, and then the state if its logic ends and has an event for that. -/
def traceUpdate (step : Float32) (ctx : Context) (s : State β) : List Scope :=
  if s.active then
    let after := s.update step ctx
    s.behavior.elim [] (trace step ctx) ++
      if after.1.ended && !s.ended then s.endEvent.toList.map fun _ => after.2.toScope else []
  else []

def traceComplete (ctx : Context) (b : β) : List Scope :=
  let entered := Behaves.enter ctx b
  trace entered.2.settings.exitStep entered.2 entered.1

def traceLeave (ctx : Context) (s : State β) : List Scope :=
  s.exit.elim [] (traceComplete (s.deactivate ctx).2)

end State

def Sequence.traceRun (started : Bool) (step : Float32) (ctx : Context) : List β → List Scope
  | [] => []
  | c :: rest =>
    let c := ready started ctx c
    let ran := Behaves.update step c.2 c.1
    trace step c.2 c.1 ++
      if Behaves.canStop ran.2.1 then traceRun false ran.1 (Behaves.deactivate ran.2.2 ran.2.1).2 rest
      else []

def Parallel.traceRun (step : Float32) (ctx : Context) : List (Lane β) → List Scope
  | [] => []
  | l :: rest =>
    if l.finished then traceRun step ctx rest
    else
      let ran := Behaves.update step ctx l.child
      let after := if Behaves.canStop ran.2.1 then (Behaves.deactivate ran.2.2 ran.2.1).2 else ran.2.2
      trace step ctx l.child ++ traceRun step after rest

namespace Machine

/-- What a state does when it has its turn, and when it is left for another one. -/
def traceTick (step : Float32) (ctx : Context) (m : Machine β) (s : State β) : List Scope :=
  let ticked := tick step ctx s
  s.traceUpdate step ctx ++
    match ticked.1.bind m.index.find? with
    | none => []
    | some _ => ticked.2.1.traceLeave ticked.2.2

def traceUpdate (step : Float32) (ctx : Context) (m : Machine β) : List Scope :=
  let ready := m.ready ctx
  ready.1.currentState?.elim [] (ready.1.traceTick step ready.2)

end Machine

namespace Logic

def traceBegin (ctx : Context) : Logic β → List Scope
  | task t => [(t.begin ctx.toScope).2]
  | _ => []

def traceUpdate (step : Float32) (ctx : Context) : Logic β → List Scope
  | task t => [(t.update step ctx.toScope).2.2]
  | sequence s => Sequence.traceRun s.started step ctx (s.children.drop s.index)
  | parallel p => Parallel.traceRun step (p.ready ctx).2 (p.ready ctx).1.lanes
  | machine m => m.traceUpdate step ctx

end Logic

def Node.traceUpdate (step : Float32) (ctx : Context) (n : Node β) : List Scope :=
  if n.active then
    let begun := n.begin ctx
    (if n.begun then [] else n.logic.traceBegin ctx) ++
      begun.1.logic.traceUpdate (if step < 0 then 0 else step) begun.2
  else []

instance Node.tracing : Tracing (Node β) where
  trace := traceUpdate

end Definitions

instance Behavior.tracing : (height : Nat) → Tracing (Behavior height)
  | 0 => inferInstanceAs (Tracing Empty)
  | height + 1 =>
    let _ := tracing height
    inferInstanceAs (Tracing (Node (Behavior height)))

/-! ## Traces of images -/

def Retraces [Tracing β] [Tracing γ] (f : β → γ) : Prop :=
  ∀ step ctx b, trace step ctx (f b) = trace step ctx b

section Images

variable [Behaves β] [Behaves γ] [Tracing β] [Tracing γ] {f : β → γ}
  (respects : Behaves.Respects f) (retraces : Retraces f) (step : Float32) (ctx : Context)

include respects retraces

namespace State

theorem traceUpdate_map (s : State β) : (s.map f).traceUpdate step ctx = s.traceUpdate step ctx := by
  have behavior : (s.map f).behavior.elim [] (trace step ctx) =
      s.behavior.elim [] (trace step ctx) := by
    show (s.behavior.map f).elim [] (trace step ctx) = _
    cases s.behavior with
    | none => rfl
    | some b => exact retraces step ctx b
  simp only [traceUpdate, behavior, s.update_map respects]
  rfl

omit step in
theorem traceLeave_map (s : State β) : (s.map f).traceLeave ctx = s.traceLeave ctx := by
  have exit : (s.map f).exit = s.exit.map f := rfl
  simp only [traceLeave, s.deactivate_map respects, exit]
  cases s.exit with
  | none => rfl
  | some b =>
    simp only [Option.map_some, Option.elim_some, traceComplete, respects.enter]
    exact retraces _ _ _

end State

theorem Sequence.traceRun_map (started : Bool) (l : List β) :
    traceRun started step ctx (l.map f) = traceRun started step ctx l := by
  induction l generalizing started step ctx with
  | nil => rfl
  | cons b rest ih =>
    simp only [List.map_cons, traceRun, ready_map respects, respects.update, respects.canStop,
      respects.deactivate, ih, retraces step _ _]

theorem Parallel.traceRun_map (l : List (Lane β)) :
    traceRun step ctx (l.map (Lane.map f)) = traceRun step ctx l := by
  induction l generalizing ctx with
  | nil => rfl
  | cons lane rest ih =>
    obtain ⟨child, finished⟩ := lane
    simp only [List.map_cons, traceRun, Lane.map, respects.update, respects.canStop,
      respects.deactivate, ih, retraces step _ _]

namespace Machine

theorem traceTick_map (m : Machine β) (s : State β) :
    (m.map f).traceTick step ctx (s.map f) = m.traceTick step ctx s := by
  have index : (m.map f).index = m.index := rfl
  simp only [traceTick, tick_map respects, State.traceUpdate_map respects retraces,
    State.traceLeave_map respects retraces, index]

theorem traceUpdate_map (m : Machine β) :
    (m.map f).traceUpdate step ctx = m.traceUpdate step ctx := by
  have current (m : Machine β) : (m.map f).currentState? = m.currentState?.map (State.map f) := by
    obtain ⟨states, index, initial, current, switches⟩ := m
    cases current with
    | none => rfl
    | some i => exact List.getElem?_map
  simp only [traceUpdate, m.ready_map respects, current]
  cases (m.ready ctx).1.currentState? with
  | none => rfl
  | some s => exact traceTick_map respects retraces step _ _ s

end Machine

theorem Logic.traceUpdate_map (l : Logic β) :
    (l.map f).traceUpdate step ctx = l.traceUpdate step ctx := by
  cases l with
  | task t => rfl
  | sequence s =>
    simp only [map, traceUpdate, Sequence.map, ← List.map_drop]
    exact Sequence.traceRun_map respects retraces step ctx _ _
  | parallel p =>
    simp only [map, traceUpdate, p.ready_map respects]
    exact Parallel.traceRun_map respects retraces step _ _
  | machine m => exact m.traceUpdate_map respects retraces step ctx

end Images

theorem Node.retraces_map [Behaves β] [Behaves γ] [Tracing β] [Tracing γ] {f : β → γ}
    (respects : Behaves.Respects f) (retraces : Retraces f) : Retraces (Node.map f) := by
  intro step ctx n
  obtain ⟨active, begun, logic⟩ := n
  have traced := Logic.traceUpdate_map respects retraces
  cases active with
  | false => rfl
  | true =>
    cases begun with
    | true => exact traced _ _ logic
    | false =>
      have begin : (logic.map f).traceBegin ctx = logic.traceBegin ctx := by
        cases logic <;> rfl
      show (logic.map f).traceBegin ctx ++
          ((logic.map f).onBegin ctx).1.traceUpdate _ ((logic.map f).onBegin ctx).2 =
        logic.traceBegin ctx ++ (logic.onBegin ctx).1.traceUpdate _ (logic.onBegin ctx).2
      rw [begin, logic.onBegin_map ctx, traced]

theorem Behavior.retraces_raise (height : Nat) :
    Retraces (Behavior.raise : Behavior height → Behavior (height + 1)) := by
  induction height with
  | zero => exact fun _ _ b => Empty.elim b
  | succ height ih => exact Node.retraces_map (respects_raise height) ih

end SkillScript
