import SkillScript.Script.Registry
import SkillScript.Node.Timer
/-!
# Tasks

A task is what a behavior without children does. It begins with its first update
after a reset; each update returns the part of the step that it has not used.
Tasks read and change a scope and nothing else.
-/
set_option autoImplicit false
namespace SkillScript

namespace Target

def resolve (t : Target) (s : Scope) : EntityId :=
  match t with
  | owner => s.owner
  | entity id => id.resolve s.vars

def live? (t : Target) (s : Scope) : Option EntityId :=
  let id := t.resolve s
  if s.entities.exists? id then some id else none

end Target

def Scope.adjustHealth (s : Scope) (id : EntityId) (delta : Int32) : Scope :=
  { s with entities := s.entities.adjustHealth id delta }

def Deed.perform (s : Scope) : Deed → Scope
  | .setVar name value => { s with vars := s.vars.insert name value }
  | .modifyHealth target amount =>
    match target.live? s with
    | some id => s.adjustHealth id (amount.resolve s.vars)
    | none => s
  | .publishEvent event names => s.publish event (Vars.only s.vars names)
  | .spawnOwned kind storeAs =>
    let (id?, entities) := s.entities.spawn s.owner kind s.tag
    let s := { s with entities := entities }
    match id?, storeAs with
    | some id, some name => { s with vars := s.vars.insert name (.entity id) }
    | _, _ => s

/-- A flow of health that is under way: whole points are passed on as they come together, the
fraction is pending. -/
structure Flow where
  target : Option EntityId := none
  rate : Float32 := 0
  pending : Float32 := 0
deriving DecidableEq, Repr, Inhabited

def Flow.apply (f : Flow) (whole : Int32) (s : Scope) : Flow × Scope :=
  if whole = 0 then (f, s)
  else
    let s :=
      match f.target with
      | some id => s.adjustHealth id whole
      | none => s
    ({ f with pending := f.pending - Number.ofWhole whole }, s)

/-- A behavior that the host runs: what the markup says about it, and the hooks. -/
structure Delegate where
  attrs : Attrs
  hooks : Hooks

inductive Task where
  | wait (config : WaitConfig) (timer : Timer)
  | healthOverTime (config : HealthOverTimeConfig) (timer : Timer) (flow : Flow)
  | deed (deed : Deed)
  | waitCheck (attrs : Attrs) (predicate : Option WaitPredicate) (elapsed : Float32)
      (satisfied : Bool)
  | delegate (number : Nat) (host : Delegate) (finished : Bool)

def Deed.type : Deed → BehaviorType
  | .setVar _ _ => .setVar
  | .modifyHealth _ _ => .modifyHealth
  | .publishEvent _ _ => .publishEvent
  | .spawnOwned _ _ => .spawnOwned

namespace Delegate

def view (d : Delegate) (finished : Bool) : DelegateView :=
  ⟨d.attrs, finished⟩

def run (d : Delegate) (hook : Option Hook) (finished : Bool) (s : Scope) : Bool × Scope :=
  match hook with
  | none => (finished, s)
  | some hook =>
    let (finish, s) := hook (d.view finished) s
    (finished || finish, s)

end Delegate

namespace Task

def type : Task → BehaviorType
  | wait _ _ => .finiteTime
  | healthOverTime _ _ _ => .healthOverTime
  | deed d => d.type
  | waitCheck _ _ _ _ => .waitCheck
  | delegate _ _ _ => .delegate

def reset (s : Scope) : Task → Task
  | wait c _ => wait c (.start (c.duration.resolve s.vars))
  | healthOverTime c _ f =>
    healthOverTime c (.start (c.duration.resolve s.vars)) { f with target := none, pending := 0 }
  | deed d => deed d
  | waitCheck attrs predicate _ _ => waitCheck attrs predicate 0 false
  | delegate number host _ => delegate number host false

/-- What happens before the first update. A duration is read once more, since a trigger may
have set its variable after the reset. -/
def begin (s : Scope) : Task → Task × Scope
  | wait c _ => (wait c (.start (c.duration.resolve s.vars)), s)
  | healthOverTime c _ _ =>
    (healthOverTime c (.start (c.duration.resolve s.vars))
      { target := c.target.live? s, rate := c.perSecond.resolve s.vars, pending := 0 }, s)
  | deed d => (deed d, d.perform s)
  | waitCheck attrs predicate elapsed satisfied => (waitCheck attrs predicate elapsed satisfied, s)
  | delegate number host finished =>
    let (finished, s) := host.run host.hooks.onBegin finished s
    (delegate number host finished, s)

def update (step : Float32) (s : Scope) : Task → Float32 × Task × Scope
  | wait c timer =>
    if timer.done then (step, wait c timer, s)
    else
      let (taken, timer) := timer.advance s.settings step
      let s :=
        match timer.done, c.endEvent with
        | true, some event => s.publish event ∅
        | _, _ => s
      (Number.atLeastZero (step - taken), wait c timer, s)
  | healthOverTime c timer flow =>
    if timer.done then (step, healthOverTime c timer flow, s)
    else
      let (taken, timer) := timer.advance s.settings step
      let flow := { flow with pending := flow.pending + flow.rate * taken }
      let (flow, s) := flow.apply (Number.truncate flow.pending) s
      let (flow, s) :=
        if timer.done then
          let (flow, s) := flow.apply (Number.roundAway flow.pending) s
          ({ flow with pending := 0 }, s)
        else (flow, s)
      (Number.atLeastZero (step - taken), healthOverTime c timer flow, s)
  | deed d => (step, deed d, s)
  | waitCheck attrs predicate elapsed satisfied =>
    if satisfied then (step, waitCheck attrs predicate elapsed true, s)
    else if predicate.all fun holds => holds ⟨attrs, elapsed⟩ s then
      (step, waitCheck attrs predicate elapsed true, s)
    else (0, waitCheck attrs predicate (elapsed + step) false, s)
  | delegate number host finished =>
    match host.hooks.onUpdate with
    | none => (step, delegate number host finished, s)
    | some hook =>
      let (left, finish, s) := hook step (host.view finished) s
      (left, delegate number host (finished || finish), s)

def canStop : Task → Bool
  | wait _ timer => timer.done
  | healthOverTime _ timer _ => timer.done
  | deed _ => true
  | waitCheck _ _ _ satisfied => satisfied
  | delegate _ host finished => finished || host.hooks.onUpdate.isNone

def destroy (s : Scope) : Task → Scope
  | delegate _ host finished => (host.run host.hooks.onDestroy finished s).2
  | _ => s

def number? : Task → Option Nat
  | delegate number _ _ => some number
  | _ => none

/-- The task that a body describes to a node of the given type, if it fits the type. A behavior
that the host runs gets the number. -/
def create? (number : Nat) (type : BehaviorType) (body : Body) (s : Scope) :
    Option (Task × Scope) :=
  match type, body with
  | .finiteTime, .wait c => some (wait c (.start (c.duration.resolve s.vars)), s)
  | .healthOverTime, .healthOverTime c =>
    some (healthOverTime c (.start (c.duration.resolve s.vars)) {}, s)
  | .waitCheck, .waitCheck attrs predicate => some (waitCheck attrs predicate 0 false, s)
  | .delegate, .delegate attrs hooks =>
    let host : Delegate := ⟨attrs, hooks⟩
    let (finished, s) := host.run hooks.onInitialize false s
    some (delegate number host finished, s)
  | type, .deed d => if d.type = type then some (deed d, s) else none
  | _, _ => none

end Task

end SkillScript
