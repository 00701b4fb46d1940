import SkillScript.Node.Sensor
/-!
# Conditions

A condition is a sensor or joins other conditions: it is true if not all, all, or
any of them are true. Only an active condition is updated and can be true.
Children are asked in order, and no further than the answer needs.
-/
set_option autoImplicit false
namespace SkillScript

/-- How a condition joins the answers of its children. -/
inductive Gate where
  | not
  | all
  | any
deriving DecidableEq, Repr

def Gate.type : Gate → ConditionType
  | not => .not
  | all => .all
  | any => .any

inductive Condition where
  | sensor (active : Bool) (sensor : Sensor)
  | gate (active : Bool) (gate : Gate) (children : List Condition)
deriving Repr

namespace Condition

def type : Condition → ConditionType
  | sensor _ x => x.type
  | gate _ g _ => g.type

def isActive : Condition → Bool
  | sensor active _ => active
  | gate active _ _ => active

mutual

def activate (ctx : Context) : Condition → Condition × Context
  | sensor true x => (sensor true x, ctx)
  | sensor false x =>
    let (x, bus) := x.activate ctx.bus
    (sensor true x, { ctx with bus := bus })
  | gate true g children => (gate true g children, ctx)
  | gate false g children =>
    let (children, ctx) := activateAll ctx children
    (gate true g children, ctx)

def activateAll (ctx : Context) : List Condition → List Condition × Context
  | [] => ([], ctx)
  | c :: rest =>
    let (c, ctx) := activate ctx c
    let (rest, ctx) := activateAll ctx rest
    (c :: rest, ctx)

end

mutual

def deactivate (ctx : Context) : Condition → Condition × Context
  | sensor false x => (sensor false x, ctx)
  | sensor true x =>
    let (x, bus) := x.deactivate ctx.bus
    (sensor false x, { ctx with bus := bus })
  | gate false g children => (gate false g children, ctx)
  | gate true g children =>
    let (children, ctx) := deactivateAll ctx children
    (gate false g children, ctx)

def deactivateAll (ctx : Context) : List Condition → List Condition × Context
  | [] => ([], ctx)
  | c :: rest =>
    let (c, ctx) := deactivate ctx c
    let (rest, ctx) := deactivateAll ctx rest
    (c :: rest, ctx)

end

mutual

def reset (bus : Bus) : Condition → Condition
  | sensor active x => sensor active (x.reset bus)
  | gate active g children => gate active g (resetAll bus children)

def resetAll (bus : Bus) : List Condition → List Condition
  | [] => []
  | c :: rest => reset bus c :: resetAll bus rest

end

mutual

/-- Lets time pass. A negative step or one that is no number counts as zero. -/
def update (step : Float32) (ctx : Context) : Condition → Condition × Context
  | sensor false x => (sensor false x, ctx.refuse)
  | sensor true x => (sensor true (x.update (Number.atLeastZero step) ctx.toScope), ctx)
  | gate false g children => (gate false g children, ctx.refuse)
  | gate true g children =>
    let (children, ctx) := updateAll (Number.atLeastZero step) ctx children
    (gate true g children, ctx)

def updateAll (step : Float32) (ctx : Context) : List Condition → List Condition × Context
  | [] => ([], ctx)
  | c :: rest =>
    let (c, ctx) := update step ctx c
    let (rest, ctx) := updateAll step ctx rest
    (c :: rest, ctx)

end

mutual

def check (s : Scope) : Condition → Bool × Condition
  | sensor true x =>
    let (answer, x) := x.check s
    (answer, sensor true x)
  | gate true .not children =>
    let (answer, children) := checkAll s children
    (!answer, gate true .not children)
  | gate true .all children =>
    let (answer, children) := checkAll s children
    (answer, gate true .all children)
  | gate true .any children =>
    let (answer, children) := checkAny s children
    (answer, gate true .any children)
  | c => (false, c)

def checkAll (s : Scope) : List Condition → Bool × List Condition
  | [] => (true, [])
  | c :: rest =>
    match check s c with
    | (false, c) => (false, c :: rest)
    | (true, c) =>
      let (answer, rest) := checkAll s rest
      (answer, c :: rest)

def checkAny (s : Scope) : List Condition → Bool × List Condition
  | [] => (false, [])
  | c :: rest =>
    match check s c with
    | (true, c) => (true, c :: rest)
    | (false, c) =>
      let (answer, rest) := checkAny s rest
      (answer, c :: rest)

end

mutual

def onTrigger (tag : String) : Condition → Condition
  | sensor true x => sensor true (x.onTrigger tag)
  | gate true g children => gate true g (onTriggerAll tag children)
  | c => c

def onTriggerAll (tag : String) : List Condition → List Condition
  | [] => []
  | c :: rest => onTrigger tag c :: onTriggerAll tag rest

end

mutual

/-- Ends the receivers of the condition and counts its children out. -/
def destroy (ctx : Context) : Condition → Context
  | sensor _ x => { ctx with bus := (x.deactivate ctx.bus).2 }
  | gate _ _ children => releaseAll ctx children

def releaseAll (ctx : Context) : List Condition → Context
  | [] => ctx
  | c :: rest => releaseAll (destroy ctx c).buried rest

end

def release (ctx : Context) (c : Condition) : Context :=
  (destroy ctx c).buried

mutual

def abandon (bus : Bus) : Condition → Bus
  | sensor _ x => (x.deactivate bus).2
  | gate _ _ children => abandonAll bus children

def abandonAll (bus : Bus) : List Condition → Bus
  | [] => bus
  | c :: rest => abandonAll (abandon bus c) rest

end

end Condition

end SkillScript
