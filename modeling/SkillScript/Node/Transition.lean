import SkillScript.Node.Condition
import SkillScript.Node.Each
/-!
# Transitions

A transition asks a condition and names the state to go to, one for each answer.
With a positive interval it asks at most once per interval of time; the condition
is updated by every check all the same.
-/
set_option autoImplicit false
namespace SkillScript

structure Transition where
  active : Bool := false
  condition : Condition
  onTrue : Option String
  onFalse : Option String
  interval : Param Float32
  /-- The interval in force since the last reset. -/
  period : Float32
  /-- What is left of the current interval. -/
  cooldown : Float32
  /-- How many times the condition was asked. -/
  evaluations : Nat := 0
deriving Repr

namespace Transition

/-- The interval in force: a negative one counts as zero. -/
def periodOf (interval : Param Float32) (vars : Vars) : Float32 :=
  let seconds := interval.resolve vars
  if seconds < 0 then 0 else seconds

def rearm (t : Transition) (vars : Vars) : Transition :=
  let period := periodOf t.interval vars
  { t with period := period, cooldown := period }

def activate (ctx : Context) (t : Transition) : Transition × Context :=
  if t.active then (t, ctx)
  else
    let (condition, ctx) := t.condition.activate ctx
    ({ t with active := true, condition := condition }, ctx)

def deactivate (ctx : Context) (t : Transition) : Transition × Context :=
  if t.active then
    let (condition, ctx) := t.condition.deactivate ctx
    ({ t with active := false, condition := condition }, ctx)
  else (t, ctx)

def reset (s : Scope) (t : Transition) : Transition :=
  { t with condition := t.condition.reset s.bus }.rearm s.vars

/-- Lets the interval run. The answer tells whether the condition is due. -/
def wait (t : Transition) (settings : Settings) (step : Float32) : Bool × Transition :=
  if 0 < t.period then
    let left := t.cooldown - step
    if 0 < left && !settings.isZero left then (false, { t with cooldown := left })
    else (true, { t with cooldown := t.period })
  else (true, t)

def evaluate (s : Scope) (t : Transition) : Option String × Transition :=
  let (answer, condition) := t.condition.check s
  (if answer then t.onTrue else t.onFalse,
    { t with condition := condition, evaluations := t.evaluations + 1 })

/-- Lets time pass and, when the condition is due, asks it. -/
def check (step : Float32) (ctx : Context) (t : Transition) :
    Option String × Transition × Context :=
  if t.active then
    let step := Number.atLeastZero step
    let (condition, ctx) := t.condition.update step ctx
    match { t with condition := condition }.wait ctx.settings step with
    | (false, t) => (none, t, ctx)
    | (true, t) =>
      let (target, t) := t.evaluate ctx.toScope
      (target, t, ctx)
  else (none, t, ctx.refuse)

/-- A check step by step: the condition is updated, the interval runs, and the condition is asked
when it is due. -/
theorem check_eq (step : Float32) (ctx : Context) (t : Transition) :
    t.check step ctx =
      if t.active then
        let updated := t.condition.update (Number.atLeastZero step) ctx
        let waited := { t with condition := updated.1 }.wait updated.2.settings
          (Number.atLeastZero step)
        if waited.1 then
          let asked := waited.2.evaluate updated.2.toScope
          (asked.1, asked.2, updated.2)
        else (none, waited.2, updated.2)
      else (none, t, ctx.refuse) := by
  unfold check
  split
  · dsimp only
    split <;> simp_all
  · rfl

def onTrigger (tag : String) (t : Transition) : Transition :=
  if t.active then { t with condition := t.condition.onTrigger tag } else t

def destroy (ctx : Context) (t : Transition) : Context :=
  t.condition.release ctx

def release (ctx : Context) (t : Transition) : Context :=
  (t.destroy ctx).buried

def abandon (bus : Bus) (t : Transition) : Bus :=
  t.condition.abandon bus

/-- Checks transitions in order until one of them names a state. -/
def checkFirst (step : Float32) (ctx : Context) :
    List Transition → Option String × List Transition × Context
  | [] => (none, [], ctx)
  | t :: rest =>
    match t.check step ctx with
    | (some target, t, ctx) => (some target, t :: rest, ctx)
    | (none, t, ctx) =>
      let (target, rest, ctx) := checkFirst step ctx rest
      (target, t :: rest, ctx)

def releaseAll (ctx : Context) : List Transition → Context
  | [] => ctx
  | t :: rest => releaseAll (t.release ctx) rest

def abandonAll (bus : Bus) : List Transition → Bus
  | [] => bus
  | t :: rest => abandonAll (t.abandon bus) rest

end Transition

end SkillScript
