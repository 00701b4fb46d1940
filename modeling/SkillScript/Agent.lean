import SkillScript.Node.Create
/-!
# Agents

An agent is a script that runs for one entity. It owns the tree of nodes made from
the script, the variables, and the account of its nodes; the world it shares with
all other agents. A disposed agent has no tree any more.
-/
set_option autoImplicit false
namespace SkillScript

structure Tree where
  height : Nat
  root : Behavior height

inductive AgentError where
  | rootNotBehavior (script typeName : String)
  | rootCreation (script typeName : String)
deriving DecidableEq, Repr

def AgentError.message : AgentError → String
  | rootNotBehavior script typeName =>
    "root <" ++ typeName ++ "> of script " ++ named script ++ " is not a behavior"
  | rootCreation script typeName =>
    "root <" ++ typeName ++ "> of script " ++ named script ++ " could not be instantiated"

structure Agent extends Census where
  script : String
  owner : EntityId
  tag : CastTag
  vars : Vars
  refusals : Nat := 0
  /-- The tree, until the agent is disposed. -/
  tree : Option Tree

namespace Agent

def context (a : Agent) (w : World) : Context where
  toWorld := w
  owner := a.owner
  tag := a.tag
  vars := a.vars
  toCensus := a.toCensus
  refusals := a.refusals

def settle (a : Agent) (tree : Option Tree) (ctx : Context) : Agent × World :=
  ({ a with
      toCensus := ctx.toCensus
      vars := ctx.vars
      refusals := ctx.refusals
      tree := tree },
    ctx.toWorld)

/-- Makes the tree of a script and starts it. The root must fit a behavior. -/
def init (r : Registry) (script : Script) (owner : EntityId) (tag : CastTag) (vars : Vars)
    (w : World) : Except AgentError Agent × World :=
  let root := script.root
  if root.category.satisfies .behavior then
    let a : Agent :=
      { script := script.name, owner := owner, tag := tag, vars := vars, tree := none }
    match AnyNode.fit Behavior.ofAny? (create r root.height (a.context w) root) with
    | (none, ctx) => (.error (.rootCreation script.name root.typeName), ctx.toWorld)
    | (some b, ctx) =>
      let (b, ctx) := Behaves.enter ctx b
      let (a, w) := a.settle (some ⟨root.height + 1, b⟩) ctx
      (.ok a, w)
  else (.error (.rootNotBehavior script.name root.typeName), w)

/-- Merges the payload into the variables, where it wins, and then passes the trigger down. -/
def trigger (a : Agent) (tag : String) (payload : Vars) : Agent :=
  match a.tree with
  | none => a
  | some t =>
    { a with
      vars := a.vars.union payload
      tree := some ⟨t.height, Behaves.onTrigger tag t.root⟩ }

def update (a : Agent) (step : Float32) (w : World) : Agent × World :=
  match a.tree with
  | none => (a, w)
  | some t =>
    let (_, root, ctx) := Behaves.update step (a.context w) t.root
    a.settle (some ⟨t.height, root⟩) ctx

def isFinished (a : Agent) : Bool :=
  a.tree.all fun t => canStop t.root

def isDisposed (a : Agent) : Bool :=
  a.tree.isNone

def dispose (a : Agent) (w : World) : Agent × World :=
  match a.tree with
  | none => (a, w)
  | some t =>
    let (root, ctx) := Behaves.deactivate (a.context w) t.root
    a.settle none (Behaves.release ctx root)

end Agent

end SkillScript
