import SkillScript.Node.Behavior
/-!
# Creating node trees

A configuration is instantiated through the registry: the registered type of its
name is created and initialized from its body, children first. A child that cannot
be created, or that does not fit its place, is left out; nodes that need a child
they do not get are not created. Whatever is created and then not used is released
at once. Nodes that come to life are counted in the context.
-/
set_option autoImplicit false
namespace SkillScript

inductive NodeError where
  /-- The body does not belong to the type of the node. -/
  | configType (node found : String)
  | missingChild (node role : String)
deriving DecidableEq, Repr

def NodeError.message : NodeError → String
  | configType node found => node ++ " cannot be initialized from a <" ++ found ++ "> config"
  | missingChild node role =>
    node ++ " could not create its required " ++ named role ++ " child"

inductive AnyNode (β : Type) where
  | behavior (node : Node β)
  | condition (condition : Condition)
  | state (state : State β)
  | transition (transition : Transition)

namespace AnyNode

variable {β : Type} [Behaves β]

omit [Behaves β] in
def type : AnyNode β → NodeType
  | behavior n => .behavior n.logic.type
  | condition c => .condition c.type
  | state _ => .state
  | transition _ => .transition

def release (ctx : Context) : AnyNode β → Context
  | behavior n => Behaves.release ctx n
  | condition c => c.release ctx
  | state s => s.release ctx
  | transition t => t.release ctx

/-- Keeps a node that fits and releases any other. -/
def fit {α : Type} (fits : AnyNode β → Option α) :
    Option (AnyNode β) × Context → Option α × Context
  | (none, ctx) => (none, ctx)
  | (some n, ctx) =>
    match fits n with
    | some a => (some a, ctx)
    | none => (none, n.release ctx)

omit [Behaves β] in
def condition? : AnyNode β → Option Condition
  | condition c => some c
  | _ => none

omit [Behaves β] in
def state? : AnyNode β → Option (State β)
  | state s => some s
  | _ => none

omit [Behaves β] in
def transition? : AnyNode β → Option Transition
  | transition t => some t
  | _ => none

end AnyNode

def Behavior.ofAny? {height : Nat} : AnyNode (Behavior height) → Option (Behavior (height + 1))
  | .behavior n => some n
  | _ => none

def Transition.ofCondition (condition : Condition) (onTrue onFalse : Option String)
    (interval : Param Float32) (vars : Vars) : Transition :=
  let t : Transition :=
    { condition := condition, onTrue := onTrue, onFalse := onFalse, interval := interval
      period := 0, cooldown := 0 }
  t.rearm vars

def leaf {β : Type} (type : NodeType) (typeName : String) (body : Body) (ctx : Context) :
    Except NodeError (AnyNode β) × Context :=
  let unsuited : Except NodeError (AnyNode β) × Context :=
    (.error (.configType type.name typeName), ctx)
  match type, body with
  | .behavior t, body =>
    match Task.create? ctx.started t body ctx.toScope with
    | some (task, s) =>
      (.ok (.behavior { logic := .task task }),
        { ctx with toScope := s, toCensus := ctx.toCensus.opened task.number? })
    | none => unsuited
  | .condition t, .probe p =>
    if p.type = t then (.ok (.condition (.sensor false (.ofProbe p))), ctx) else unsuited
  | _, _ => unsuited

mutual

/-- Instantiates a configuration, if its type is registered and can be initialized. -/
def create (r : Registry) (height : Nat) (ctx : Context) :
    Config → Option (AnyNode (Behavior height)) × Context
  | ⟨typeName, _, body⟩ =>
    match r.find? typeName with
    | none => (none, ctx)
    | some entry =>
      match instantiate r height ctx entry.implementation typeName body with
      | (.ok node, ctx) => (some node, ctx.born)
      | (.error _, ctx) => (none, ctx)

/-- Initializes a node of the given type. The name of the configuration is for the error. -/
def instantiate (r : Registry) (height : Nat) (ctx : Context) (type : NodeType)
    (typeName : String) : Body → Except NodeError (AnyNode (Behavior height)) × Context
  | .composite children =>
    match type with
    | .behavior .sequence =>
      let (children, ctx) := createBehaviors r height ctx children
      (.ok (.behavior { logic := .sequence { children := children } }), ctx)
    | .behavior .parallel =>
      let (children, ctx) := createBehaviors r height ctx children
      (.ok (.behavior { logic := .parallel { lanes := children.map fun c => { child := c } } }),
        ctx)
    | _ => (.error (.configType type.name typeName), ctx)
  | .negation condition =>
    if type = .condition .not then
      match createCondition? r height ctx condition with
      | (some c, ctx) => (.ok (.condition (.gate false .not [c])), ctx)
      | (none, ctx) => (.error (.missingChild type.name Role.condition.tag), ctx)
    else (.error (.configType type.name typeName), ctx)
  | .junction conditions =>
    match type with
    | .condition .all =>
      let (children, ctx) := createConditions r height ctx conditions
      (.ok (.condition (.gate false .all children)), ctx)
    | .condition .any =>
      let (children, ctx) := createConditions r height ctx conditions
      (.ok (.condition (.gate false .any children)), ctx)
    | _ => (.error (.configType type.name typeName), ctx)
  | .fsm initial states =>
    if type = .behavior .fsm then
      let (states, index, ctx) := createStates r height ctx 0 ∅ states
      if index.contains initial then
        let machine := { states := states, index := index, initial := initial }
        (.ok (.behavior { logic := .machine machine }), ctx)
      else (.error (.missingChild type.name "Initial"), states.foldl State.release ctx)
    else (.error (.configType type.name typeName), ctx)
  | .state id endEvent behavior exit transitions =>
    if type = .state then
      let (behavior, ctx) := createBehavior? r height ctx behavior
      let (exit, ctx) := createBehavior? r height ctx exit
      let (transitions, ctx) := createTransitions r height ctx transitions
      (.ok (.state
        { id := id, endEvent := endEvent, behavior := behavior, exit := exit
          transitions := transitions }), ctx)
    else (.error (.configType type.name typeName), ctx)
  | .transition condition onTrue onFalse interval =>
    if type = .transition then
      match createCondition? r height ctx condition with
      | (some c, ctx) =>
        (.ok (.transition (.ofCondition c onTrue onFalse interval ctx.vars)), ctx)
      | (none, ctx) => (.error (.missingChild type.name Role.condition.tag), ctx)
    else (.error (.configType type.name typeName), ctx)
  | body => leaf type typeName body ctx

/-- Creates behaviors in order. There is nothing of height zero. -/
def createBehaviors (r : Registry) : (height : Nat) → Context → List Config →
    List (Behavior height) × Context
  | _, ctx, [] => ([], ctx)
  | 0, ctx, _ :: _ => ([], ctx)
  | height + 1, ctx, c :: rest =>
    let (b?, ctx) := AnyNode.fit Behavior.ofAny? (create r height ctx c)
    let (bs, ctx) := createBehaviors r (height + 1) ctx rest
    (b?.toList ++ bs, ctx)

def createBehavior? (r : Registry) : (height : Nat) → Context → Option Config →
    Option (Behavior height) × Context
  | _, ctx, none => (none, ctx)
  | 0, ctx, some _ => (none, ctx)
  | height + 1, ctx, some c => AnyNode.fit Behavior.ofAny? (create r height ctx c)

def createCondition? (r : Registry) (height : Nat) (ctx : Context) :
    Option Config → Option Condition × Context
  | none => (none, ctx)
  | some c => AnyNode.fit AnyNode.condition? (create r height ctx c)

def createConditions (r : Registry) (height : Nat) (ctx : Context) :
    List Config → List Condition × Context
  | [] => ([], ctx)
  | c :: rest =>
    let (c?, ctx) := AnyNode.fit AnyNode.condition? (create r height ctx c)
    let (cs, ctx) := createConditions r height ctx rest
    (c?.toList ++ cs, ctx)

def createTransitions (r : Registry) (height : Nat) (ctx : Context) :
    List Config → List Transition × Context
  | [] => ([], ctx)
  | c :: rest =>
    let (t?, ctx) := AnyNode.fit AnyNode.transition? (create r height ctx c)
    let (ts, ctx) := createTransitions r height ctx rest
    (t?.toList ++ ts, ctx)

/-- Creates states in order and records their positions, the first of which is `next`. -/
def createStates (r : Registry) (height : Nat) (ctx : Context) (next : Nat)
    (index : Table String Nat) : List (String × Config) →
    List (State (Behavior height)) × Table String Nat × Context
  | [] => ([], index, ctx)
  | (id, c) :: rest =>
    match AnyNode.fit AnyNode.state? (create r height ctx c) with
    | (some s, ctx) =>
      let (ss, index, ctx) := createStates r height ctx (next + 1) (index.insert id next) rest
      (s :: ss, index, ctx)
    | (none, ctx) => createStates r height ctx next index rest

end

mutual

/-- The height that suffices for the nodes of a configuration. -/
def Config.height : Config → Nat
  | ⟨_, _, body⟩ => body.height

def Body.height : Body → Nat
  | .composite children => listHeight children
  | .negation condition => optionHeight condition
  | .junction conditions => listHeight conditions
  | .fsm _ states => statesHeight states
  | .state _ _ behavior exit transitions =>
    max (optionHeight behavior) (max (optionHeight exit) (listHeight transitions))
  | .transition condition _ _ _ => optionHeight condition
  | _ => 0

def listHeight : List Config → Nat
  | [] => 0
  | c :: rest => max (c.height + 1) (listHeight rest)

def optionHeight : Option Config → Nat
  | none => 0
  | some c => c.height + 1

def statesHeight : List (String × Config) → Nat
  | [] => 0
  | (_, c) :: rest => max (c.height + 1) (statesHeight rest)

end

end SkillScript
