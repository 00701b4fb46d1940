import SkillScript.Script.Config
/-!
# Node types and their registry

The built-in node types, with the body that a configuration of each type starts
from, and the registry that maps the names used in scripts to node types. The
first registration of a name holds for ever.
-/
set_option autoImplicit false
namespace SkillScript

inductive BehaviorType where
  | finiteTime
  | sequence
  | parallel
  | setVar
  | modifyHealth
  | publishEvent
  | healthOverTime
  | spawnOwned
  | fsm
  | waitCheck
  | delegate
deriving DecidableEq, Repr, Inhabited

inductive ConditionType where
  | const
  | not
  | all
  | any
  | compareVar
  | healthBelow
  | elapsed
  | event
  | trigger
deriving DecidableEq, Repr, Inhabited

inductive Slot where
  | behavior
  | condition
  | state
  | transition
deriving DecidableEq, Repr, Inhabited

def Slot.name : Slot → String
  | behavior => "behavior"
  | condition => "condition"
  | state => "state"
  | transition => "transition"

inductive NodeType where
  | behavior (type : BehaviorType)
  | condition (type : ConditionType)
  | state
  | transition
deriving DecidableEq, Repr, Inhabited

def BehaviorType.name : BehaviorType → String
  | finiteTime => "FiniteTimeBhv"
  | sequence => "SequenceBhv"
  | parallel => "ParallelBhv"
  | setVar => "SetVarBhv"
  | modifyHealth => "ModifyHealthBhv"
  | publishEvent => "PublishEventBhv"
  | healthOverTime => "HealthOverTimeBhv"
  | spawnOwned => "SpawnOwnedBhv"
  | fsm => "Fsm"
  | waitCheck => "WaitCheckBhv"
  | delegate => "DelegateBhv"

def ConditionType.name : ConditionType → String
  | const => "ConstCond"
  | not => "NotCond"
  | all => "AllCond"
  | any => "AnyCond"
  | compareVar => "CompareVarCond"
  | healthBelow => "HealthBelowCond"
  | elapsed => "ElapsedCond"
  | event => "EventCond"
  | trigger => "TriggerCond"

namespace NodeType

def name : NodeType → String
  | behavior t => t.name
  | condition t => t.name
  | state => "CustomBhvState"
  | transition => "StateTransition"

def category : NodeType → Category
  | behavior .fsm => .fsm
  | behavior _ => .behavior
  | condition .event => .event
  | condition .trigger => .event
  | condition _ => .condition
  | state => .state
  | transition => .stateTransition

def slot : NodeType → Slot
  | behavior _ => .behavior
  | condition _ => .condition
  | state => .state
  | transition => .transition

/-- The types that every host has. -/
def builtins : List NodeType :=
  [behavior .finiteTime, behavior .sequence, behavior .parallel, behavior .setVar,
    behavior .modifyHealth, behavior .publishEvent, behavior .healthOverTime,
    behavior .spawnOwned, condition .const, condition .not, condition .all, condition .any,
    condition .compareVar, condition .healthBelow, condition .elapsed, condition .event,
    condition .trigger, behavior .fsm, state, transition]

/-- All types: the built-in ones and the two that hosts register under names of their own. -/
def all : List NodeType :=
  builtins ++ [behavior .waitCheck, behavior .delegate]

def ofName? (s : String) : Option NodeType :=
  all.find? fun t => t.name = s

/-- The body that a configuration of this type starts from. -/
def emptyBody : NodeType → Body
  | behavior .finiteTime => .wait { duration := .literal 0 }
  | behavior .sequence => .composite []
  | behavior .parallel => .composite []
  | behavior .setVar => .deed (.setVar "" (.bool false))
  | behavior .modifyHealth => .deed (.modifyHealth .owner (.literal 0))
  | behavior .publishEvent => .deed (.publishEvent "" [])
  | behavior .healthOverTime =>
    .healthOverTime { duration := .literal 0, perSecond := .literal 0, target := .owner }
  | behavior .spawnOwned => .deed (.spawnOwned "" none)
  | behavior .fsm => .fsm "" []
  | behavior .waitCheck => .waitCheck [] none
  | behavior .delegate => .delegate [] {}
  | condition .const => .probe (.const (.literal false))
  | condition .not => .negation none
  | condition .all => .junction []
  | condition .any => .junction []
  | condition .compareVar => .probe (.compareVar "" .eq (.literal 0))
  | condition .healthBelow => .probe (.healthBelow .owner (.literal 0))
  | condition .elapsed => .probe (.elapsed (.literal 0))
  | condition .event => .probe (.event "" false)
  | condition .trigger => .probe (.trigger "")
  | state => .state "" none none none []
  | transition => .transition none none none (.literal 0)

def config (t : NodeType) (body : Body) : Config :=
  ⟨t.name, t.category, body⟩

end NodeType

/-- What a name stands for. Hosts may register built-in types under names of their own, with any
category and any body. Types of nodes and of configurations that a host defines itself are left
out. -/
structure Registration where
  category : Category
  implementation : NodeType
  /-- The body that configurations start from. -/
  template : Body

/-- What implementations are told apart by. Every type has an identity of its own, and hosts may
have others. -/
inductive Identity where
  | type (type : NodeType)
  | foreign (number : Nat)
deriving DecidableEq, Repr

structure RegistryError where
  name : String
deriving DecidableEq, Repr

def RegistryError.message (e : RegistryError) : String :=
  "node type " ++ named e.name ++ " is already registered with a different implementation"

/-- A registration, and the identity that it was made with. -/
structure Registry.Entry where
  registration : Registration
  identity : Identity

structure Registry where
  table : Table String Registry.Entry

namespace Registry

def empty : Registry := ⟨∅⟩

def lookup? (r : Registry) (name : String) : Option Entry :=
  r.table.find? name

def find? (r : Registry) (name : String) : Option Registration :=
  (r.lookup? name).map (·.registration)

/-- The category of a name; a name that is not registered has the unknown category. -/
def category (r : Registry) (name : String) : Category :=
  match r.find? name with
  | some entry => entry.category
  | none => .unknown

def contains (r : Registry) (name : String) : Bool :=
  (r.find? name).isSome

def size (r : Registry) : Nat :=
  r.table.size

def names (r : Registry) : List String :=
  r.table.keys

/-- Registers a name. A name that is taken keeps its registration, and it is an error unless
identity and category are the ones already registered. -/
def registerAs (r : Registry) (name : String) (identity : Identity) (entry : Registration) :
    Except RegistryError Unit × Registry :=
  match r.lookup? name with
  | some existing =>
    if existing.identity = identity && existing.registration.category = entry.category then
      (.ok (), r)
    else (.error ⟨name⟩, r)
  | none => (.ok (), ⟨r.table.insert name ⟨entry, identity⟩⟩)

def register (r : Registry) (name : String) (entry : Registration) :
    Except RegistryError Unit × Registry :=
  r.registerAs name (.type entry.implementation) entry

def registerType (r : Registry) (t : NodeType) : Except RegistryError Unit × Registry :=
  r.register t.name ⟨t.category, t, t.emptyBody⟩

def registerWaitCheck (r : Registry) (name : String) (predicate : WaitPredicate) :
    Except RegistryError Unit × Registry :=
  r.register name ⟨.behavior, .behavior .waitCheck, .waitCheck [] (some predicate)⟩

def registerDelegate (r : Registry) (name : String) (hooks : Hooks) :
    Except RegistryError Unit × Registry :=
  r.register name ⟨.behavior, .behavior .delegate, .delegate [] hooks⟩

def standard : Registry :=
  NodeType.builtins.foldl (fun r t => (r.registerType t).2) empty

end Registry

end SkillScript
