import SkillScript.Script.Registry
/-!
# Building configurations

Configurations of the built-in types written in code instead of markup. Each carries
the name and the category of its type; nothing is checked.
-/
set_option autoImplicit false
namespace SkillScript

structure StateParts where
  id : String
  behavior : Option Config := none
  exit : Option Config := none
  endEvent : Option String := none
  transitions : List Config := []
deriving Inhabited

structure TransitionParts where
  condition : Option Config := none
  onTrue : Option String := none
  onFalse : Option String := none
  interval : Param Float32 := .literal 0
deriving Inhabited

namespace Build

def behavior (type : BehaviorType) (body : Body) : Config :=
  (NodeType.behavior type).config body

def condition (type : ConditionType) (body : Body) : Config :=
  (NodeType.condition type).config body

def waitFor (duration : Param Float32) : Config :=
  behavior .finiteTime (.wait { duration := duration })

def wait (seconds : Float32) : Config :=
  waitFor (.literal seconds)

def waitVar (name : String) (default : Float32) : Config :=
  waitFor (.bound name default)

def sequence (children : List Config) : Config :=
  behavior .sequence (.composite children)

def parallel (children : List Config) : Config :=
  behavior .parallel (.composite children)

def setVar (name : String) (value : Value) : Config :=
  behavior .setVar (.deed (.setVar name value))

def modifyHealth (amount : Int32) : Config :=
  behavior .modifyHealth (.deed (.modifyHealth .owner (.literal amount)))

def healthOverTime (seconds perSecond : Float32) : Config :=
  behavior .healthOverTime (.healthOverTime
    { duration := .literal seconds, perSecond := .literal perSecond, target := .owner })

def publishEvent (event : String) : Config :=
  behavior .publishEvent (.deed (.publishEvent event []))

def constant (value : Bool) : Config :=
  condition .const (.probe (.const (.literal value)))

def negation (c : Option Config) : Config :=
  condition .not (.negation c)

def all (conditions : List Config) : Config :=
  condition .all (.junction conditions)

def any (conditions : List Config) : Config :=
  condition .any (.junction conditions)

def elapsed (seconds : Float32) : Config :=
  condition .elapsed (.probe (.elapsed (.literal seconds)))

def trigger (tag : String) : Config :=
  condition .trigger (.probe (.trigger tag))

/-- True once an event of this name was published, by whomever. -/
def event (name : String) : Config :=
  condition .event (.probe (.event name false))

def transition (t : TransitionParts) : Config :=
  NodeType.transition.config (.transition t.condition t.onTrue t.onFalse t.interval)

def state (s : StateParts) : Config :=
  NodeType.state.config (.state s.id s.endEvent s.behavior s.exit s.transitions)

/-- A state machine over states with keys of their own. -/
def machine (initial : String) (states : List (String × Config)) : Config :=
  behavior .fsm (.fsm initial states)

def fsm (initial : String) (states : List StateParts) : Config :=
  machine initial (states.map fun s => (s.id, state s))

end Build
end SkillScript
