import SkillScript.Node.State
/-!
# State machines

A machine runs exactly one of its states. In one update it updates that state and
takes at most one transition; the state that is entered runs from the next update
on. A machine has nothing left to do when its state has ended and has no
transitions.
-/
set_option autoImplicit false
namespace SkillScript

structure Machine (β : Type) where
  states : List (State β)
  /-- The positions of the states by id. -/
  index : Table String Nat
  initial : String
  /-- The position of the running state. -/
  current : Option Nat := none
  /-- How many transitions were taken. -/
  switches : Nat := 0

namespace Machine

variable {β : Type} [Behaves β]

def actOnCurrent (f : Context → State β → State β × Context) (ctx : Context) (m : Machine β) :
    Machine β × Context :=
  match m.current with
  | none => (m, ctx)
  | some i =>
    let (states, ctx) := actAt f ctx i m.states
    ({ m with states := states }, ctx)

/-- Makes the state at a position the running one and enters it. -/
def enterAt (ctx : Context) (m : Machine β) (i : Nat) : Machine β × Context :=
  actOnCurrent State.enter ctx { m with current := some i }

def enterInitial (ctx : Context) (m : Machine β) : Machine β × Context :=
  match m.index.find? m.initial with
  | none => (m, ctx)
  | some i => m.enterAt ctx i

def onActivate (ctx : Context) (m : Machine β) : Machine β × Context :=
  match m.current with
  | some _ => m.actOnCurrent State.activate ctx
  | none => m.enterInitial ctx

def onDeactivate (ctx : Context) (m : Machine β) : Machine β × Context :=
  m.actOnCurrent State.deactivate ctx

def onReset (ctx : Context) (m : Machine β) : Machine β × Context :=
  let (m, ctx) := m.actOnCurrent State.deactivate ctx
  ({ m with current := none }, ctx)

/-- Leaves the running state for the one with the given id; an unknown id is ignored. -/
def switchTo (ctx : Context) (m : Machine β) (target : String) : Machine β × Context :=
  match m.index.find? target with
  | none => (m, ctx)
  | some next =>
    let (m, ctx) := m.actOnCurrent State.leave ctx
    let (m, ctx) := m.enterAt ctx next
    ({ m with switches := m.switches + 1 }, ctx)

def tick (step : Float32) (ctx : Context) (s : State β) : Option String × State β × Context :=
  let (s, ctx) := s.update step ctx
  s.checkTransitions step ctx

def ready (ctx : Context) (m : Machine β) : Machine β × Context :=
  match m.current with
  | some _ => (m, ctx)
  | none => m.enterInitial ctx

/-- Updates the state at a position and takes the transition that it names. -/
def advance (step : Float32) (ctx : Context) (m : Machine β) (i : Nat) (s : State β) :
    Machine β × Context :=
  let (target, s, ctx) := tick step ctx s
  let m := { m with states := m.states.set i s }
  match target with
  | none => (m, ctx)
  | some id => m.switchTo ctx id

def onUpdate (step : Float32) (ctx : Context) (m : Machine β) :
    Float32 × Machine β × Context :=
  let (m, ctx) := m.ready ctx
  match m.current with
  | none => (step, m, ctx)
  | some i =>
    match m.states[i]? with
    | none => (step, m, ctx)
    | some s =>
      let (m, ctx) := m.advance step ctx i s
      (0, m, ctx)

def currentState? (m : Machine β) : Option (State β) :=
  m.current.bind fun i => m.states[i]?

def canStop (m : Machine β) : Bool :=
  m.currentState?.any fun s => s.ended && s.transitions.isEmpty

def onTrigger (tag : String) (m : Machine β) : Machine β :=
  match m.current with
  | none => m
  | some i => { m with states := m.states.modify i (State.onTrigger tag) }

def onDestroy (ctx : Context) (m : Machine β) : Context :=
  m.states.foldl State.release ctx

def abandon (bus : Bus) (m : Machine β) : Bus :=
  m.states.foldl State.abandon bus

end Machine

end SkillScript
