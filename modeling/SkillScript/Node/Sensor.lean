import SkillScript.Script.Registry
import SkillScript.Node.Task
/-!
# Sensors

A sensor is what a condition without children watches. Sensors for events and
triggers latch: they stay true until the next reset. An event sensor listens to
the bus only while it is active, and counts lost events as seen.
-/
set_option autoImplicit false
namespace SkillScript

inductive Sensor where
  | const (value : Param Bool)
  | compareVar (name : String) (op : Comparison) (value : Param Float32)
  | healthBelow (target : Target) (threshold : Param Int32)
  | elapsed (seconds : Param Float32) (elapsed : Float32)
  | event (name : String) (ownerOnly : Bool) (receiver : Option Receiver) (fired : Bool)
  | trigger (tag : String) (fired : Bool)
deriving DecidableEq, Repr

def Probe.type : Probe → ConditionType
  | .const _ => .const
  | .compareVar _ _ _ => .compareVar
  | .healthBelow _ _ => .healthBelow
  | .elapsed _ => .elapsed
  | .event _ _ => .event
  | .trigger _ => .trigger

namespace Sensor

def ofProbe : Probe → Sensor
  | .const value => const value
  | .compareVar name op value => compareVar name op value
  | .healthBelow target threshold => healthBelow target threshold
  | .elapsed seconds => elapsed seconds 0
  | .event name ownerOnly => event name ownerOnly none false
  | .trigger tag => trigger tag false

def probe : Sensor → Probe
  | const value => .const value
  | compareVar name op value => .compareVar name op value
  | healthBelow target threshold => .healthBelow target threshold
  | elapsed seconds _ => .elapsed seconds
  | event name ownerOnly _ _ => .event name ownerOnly
  | trigger tag _ => .trigger tag

def type (x : Sensor) : ConditionType :=
  x.probe.type

def activate (bus : Bus) : Sensor → Sensor × Bus
  | event name ownerOnly none fired =>
    let (receiver, bus) := bus.subscribe name
    (event name ownerOnly (some receiver) fired, bus)
  | x => (x, bus)

def deactivate (bus : Bus) : Sensor → Sensor × Bus
  | event name ownerOnly (some receiver) fired =>
    (event name ownerOnly none fired, bus.unsubscribe receiver)
  | x => (x, bus)

def reset (bus : Bus) : Sensor → Sensor
  | elapsed seconds _ => elapsed seconds 0
  | event name ownerOnly receiver _ => event name ownerOnly (receiver.map bus.skip) false
  | trigger tag _ => trigger tag false
  | x => x

def drain (s : Scope) : Sensor → Sensor
  | event name ownerOnly (some receiver) fired =>
    let (lost, events) := s.bus.backlog receiver
    let seen := events.any fun e => !ownerOnly || e.source = s.owner
    event name ownerOnly (some (s.bus.skip receiver)) (fired || lost || seen)
  | x => x

def update (step : Float32) (s : Scope) : Sensor → Sensor
  | elapsed seconds t => elapsed seconds (t + step)
  | x => x.drain s

/-- Answers the question. Events that are waiting are taken in first. -/
def check (s : Scope) (x : Sensor) : Bool × Sensor :=
  match x.drain s with
  | const value => (value.resolve s.vars, const value)
  | compareVar name op value =>
    let answer :=
      match (s.vars.find? name).bind Value.number? with
      | some n => op.apply n (Number.widen (value.resolve s.vars))
      | none => false
    (answer, compareVar name op value)
  | healthBelow target threshold =>
    let answer :=
      match s.entities.health? (target.resolve s) with
      | some health => decide (health < threshold.resolve s.vars)
      | none => false
    (answer, healthBelow target threshold)
  | elapsed seconds t =>
    let left := seconds.resolve s.vars - t
    (left ≤ 0 || s.settings.isZero left, elapsed seconds t)
  | event name ownerOnly receiver fired => (fired, event name ownerOnly receiver fired)
  | trigger tag fired => (fired, trigger tag fired)

def onTrigger (tag : String) : Sensor → Sensor
  | trigger own fired => trigger own (fired || tag = own)
  | x => x

end Sensor

end SkillScript
