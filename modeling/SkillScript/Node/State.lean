import SkillScript.Node.Behaves
import SkillScript.Node.Transition
/-!
# States

A state runs a behavior. Once that has nothing left to do, or at once if there is
none, the logic of the state has ended: its end event is published, and from then
on its transitions are checked. When the state is left, its exit behavior is run
to completion.
-/
set_option autoImplicit false
namespace SkillScript

structure State (β : Type) where
  active : Bool := false
  id : String
  /-- The event published when the logic ends. -/
  endEvent : Option String := none
  behavior : Option β := none
  exit : Option β := none
  transitions : List Transition := []
  /-- Whether the logic has ended since the last reset. -/
  ended : Bool := false
deriving Repr

def actOn {α : Type} (f : Context → α → α × Context) (ctx : Context) :
    Option α → Option α × Context
  | none => (none, ctx)
  | some a =>
    let (a, ctx) := f ctx a
    (some a, ctx)

namespace State

variable {β : Type} [Behaves β]

def activate (ctx : Context) (s : State β) : State β × Context :=
  if s.active then (s, ctx)
  else
    let (behavior, ctx) := actOn Behaves.activate ctx s.behavior
    let (transitions, ctx) := actAll Transition.activate ctx s.transitions
    ({ s with active := true, behavior := behavior, transitions := transitions }, ctx)

def deactivate (ctx : Context) (s : State β) : State β × Context :=
  if s.active then
    let (behavior, ctx) := actOn Behaves.deactivate ctx s.behavior
    let (transitions, ctx) := actAll Transition.deactivate ctx s.transitions
    ({ s with active := false, behavior := behavior, transitions := transitions }, ctx)
  else (s, ctx)

def reset (ctx : Context) (s : State β) : State β × Context :=
  let (behavior, ctx) := actOn Behaves.reset ctx s.behavior
  ({ s with
      behavior := behavior
      transitions := s.transitions.map (Transition.reset ctx.toScope)
      ended := false },
    ctx)

def enter (ctx : Context) (s : State β) : State β × Context :=
  let (s, ctx) := s.reset ctx
  s.activate ctx

/-- Updates the behavior. The answer tells whether it has nothing left to do. -/
def runBehavior (step : Float32) (ctx : Context) : Option β → Bool × Option β × Context
  | none => (true, none, ctx)
  | some b =>
    let (_, b, ctx) := Behaves.update step ctx b
    (canStop b, some b, ctx)

def update (step : Float32) (ctx : Context) (s : State β) : State β × Context :=
  if s.active then
    let (finished, behavior, ctx) := runBehavior step ctx s.behavior
    let s := { s with behavior := behavior }
    if finished && !s.ended then
      let ctx :=
        match s.endEvent with
        | some event => ctx.publish event ∅
        | none => ctx
      ({ s with ended := true }, ctx)
    else (s, ctx)
  else (s, ctx.refuse)

/-- The state to go to, if the logic has ended and a transition names one. -/
def checkTransitions (step : Float32) (ctx : Context) (s : State β) :
    Option String × State β × Context :=
  if s.ended then
    let (target, transitions, ctx) := Transition.checkFirst step ctx s.transitions
    (target, { s with transitions := transitions }, ctx)
  else (none, s, ctx)

def complete (ctx : Context) (b : β) : β × Context :=
  let (b, ctx) := Behaves.enter ctx b
  let (_, b, ctx) := Behaves.update ctx.settings.exitStep ctx b
  Behaves.deactivate ctx b

/-- Puts the state to rest and runs its exit behavior. -/
def leave (ctx : Context) (s : State β) : State β × Context :=
  let (s, ctx) := s.deactivate ctx
  let (exit, ctx) := actOn complete ctx s.exit
  ({ s with exit := exit }, ctx)

def onTrigger (tag : String) (s : State β) : State β :=
  if s.active then
    { s with
      behavior := s.behavior.map (Behaves.onTrigger tag)
      transitions := s.transitions.map (Transition.onTrigger tag) }
  else s

def destroy (ctx : Context) (s : State β) : Context :=
  let ctx := s.behavior.toList.foldl Behaves.release ctx
  let ctx := s.exit.toList.foldl Behaves.release ctx
  s.transitions.foldl Transition.release ctx

def release (ctx : Context) (s : State β) : Context :=
  (s.destroy ctx).buried

def abandon (bus : Bus) (s : State β) : Bus :=
  let bus := s.behavior.toList.foldl Behaves.abandon bus
  let bus := s.exit.toList.foldl Behaves.abandon bus
  s.transitions.foldl Transition.abandon bus

end State

end SkillScript
