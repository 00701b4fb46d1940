import SkillScript.Text.Ascii
/-!
# Categories of node types

Every registered node type has a category, and every place of a script that
holds a node expects one. The categories decide which node fits which place.
-/
set_option autoImplicit false
namespace SkillScript

inductive Category where
  /-- The category of names that are not registered. -/
  | unknown
  | behavior
  | condition
  /-- Conditions that remember an event or a trigger. -/
  | event
  | fsm
  | state
  | stateTransition
  /-- Fits where a behavior or a condition is expected. -/
  | mixture
deriving DecidableEq, Repr, Inhabited

namespace Category

def all : List Category :=
  [unknown, behavior, condition, event, fsm, state, stateTransition, mixture]

def name : Category → String
  | unknown => "Unknown"
  | behavior => "Behavior"
  | condition => "Condition"
  | event => "Event"
  | fsm => "FSM"
  | state => "State"
  | stateTransition => "StateTransition"
  | mixture => "Mixture"

def ofName? (s : String) : Option Category :=
  all.find? fun c => Text.sameIgnoringCase s c.name

/-- Whether a node of the first category may fill a place that expects the second. A state
machine runs as a behavior and an event is checked as a condition; nothing fits or is fitted
by the unknown category. -/
def satisfies : Category → Category → Bool
  | unknown, _ => false
  | _, unknown => false
  | fsm, behavior => true
  | event, condition => true
  | mixture, behavior => true
  | mixture, condition => true
  | actual, expected => actual = expected

end Category

end SkillScript
