import SkillScript.Markup.Attribute
import SkillScript.Script.Comparison
import SkillScript.World.Context
/-!
# Configurations

A script is kept as a tree of configurations: the name of a registered type, its
category, and a body with the parameters of the node and the configurations of its
children. One configuration can be instantiated any number of times.

Hosts bring their own behaviors as functions in a body: a predicate that ends a
wait, or hooks that run at certain moments of a node's life. They see and change a
scope only, never the nodes.
-/
set_option autoImplicit false
namespace SkillScript

abbrev Attrs := List (String × String)

def Attrs.value? (attrs : Attrs) (name : String) : Option String :=
  (attrs.find? fun a => a.1 = name).map Prod.snd

structure WaitView where
  attrs : Attrs
  /-- The time waited since the last reset. -/
  elapsed : Float32

abbrev WaitPredicate := WaitView → Scope → Bool

/-- A node run by the host, as its hooks see it. -/
structure DelegateView where
  attrs : Attrs
  finished : Bool

/-- A hook says whether the node is finished from now on, and leaves a scope. -/
abbrev Hook := DelegateView → Scope → Bool × Scope

/-- An update hook also says how much of the time step it has left over. -/
abbrev UpdateHook := Float32 → DelegateView → Scope → Float32 × Bool × Scope

structure Hooks where
  onInitialize : Option Hook := none
  onBegin : Option Hook := none
  onUpdate : Option UpdateHook := none
  onDestroy : Option Hook := none
deriving Inhabited

structure WaitConfig where
  duration : Param Float32
  /-- The event published when the time has passed. -/
  endEvent : Option String := none
deriving DecidableEq, Repr

structure HealthOverTimeConfig where
  duration : Param Float32
  perSecond : Param Float32
  target : Target
deriving DecidableEq, Repr

inductive Deed where
  | setVar (name : String) (value : Value)
  | modifyHealth (target : Target) (amount : Param Int32)
  | publishEvent (event : String) (vars : List String)
  | spawnOwned (kind : String) (storeAs : Option String)
deriving DecidableEq, Repr

inductive Probe where
  | const (value : Param Bool)
  | compareVar (name : String) (op : Comparison) (value : Param Float32)
  | healthBelow (target : Target) (threshold : Param Int32)
  | elapsed (seconds : Param Float32)
  | event (name : String) (ownerOnly : Bool)
  | trigger (tag : String)
deriving DecidableEq, Repr

mutual

structure Config where
  typeName : String
  category : Category
  body : Body

inductive Body where
  | wait (config : WaitConfig)
  | healthOverTime (config : HealthOverTimeConfig)
  | deed (deed : Deed)
  | probe (probe : Probe)
  /-- The children of a sequence or of a parallel. -/
  | composite (children : List Config)
  | negation (condition : Option Config)
  /-- The conditions joined by "all" or by "any". -/
  | junction (conditions : List Config)
  | fsm (initial : String) (states : List (String × Config))
  | state (id : String) (endEvent : Option String) (behavior exit : Option Config)
      (transitions : List Config)
  | transition (condition : Option Config) (onTrue onFalse : Option String)
      (interval : Param Float32)
  | waitCheck (attrs : Attrs) (predicate : Option WaitPredicate)
  | delegate (attrs : Attrs) (hooks : Hooks)

end

instance : Inhabited Body := ⟨.composite []⟩
instance : Inhabited Config := ⟨⟨"", .unknown, default⟩⟩

structure Script where
  name : String
  root : Config
deriving Inhabited

end SkillScript
