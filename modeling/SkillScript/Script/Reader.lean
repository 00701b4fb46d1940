import SkillScript.Markup.Notation
import SkillScript.Script.Registry
/-!
# Reading configurations from markup

An element becomes a configuration of the type that its tag names. The category of
every child is checked against the place that it fills before the child is read. A
child whose tag is not registered is left out, but not where a child is required
and not at the root.
-/
set_option autoImplicit false
namespace SkillScript

/-- A place for a child: the tag of its owner, the name of the place, and the category that
it expects. -/
structure Place where
  owner : String
  role : String
  expected : Category
deriving DecidableEq, Repr

/-- Refuses a registered tag whose category does not fit the place. -/
def Place.check (p : Place) (r : Registry) (tag : String) : Except ScriptError Unit :=
  let actual := r.category tag
  if actual = .unknown || actual.satisfies p.expected then .ok ()
  else .error (.categoryMismatch p.owner p.role p.expected tag actual)

/-- The place of a list entry is named after the category that it expects. -/
def Place.entry (owner : String) (expected : Category) : Place :=
  ⟨owner, expected.name, expected⟩

namespace Element

def readWait (e : Element) : Except ScriptError Body := do
  let duration ← e.requiredParam "Duration"
  return .wait { duration := duration, endEvent := e.attr? "EndEvent" }

def readHealthOverTime (e : Element) : Except ScriptError Body := do
  let duration ← e.requiredParam "Duration"
  let perSecond ← e.requiredParam "PerSecond"
  let target ← e.target "Target"
  return .healthOverTime { duration := duration, perSecond := perSecond, target := target }

def readSetVar (e : Element) : Except ScriptError Deed := do
  let name ← e.requiredName "Var"
  if name = "" then throw (.invalid e.tag "Var must not be empty")
  let kind ← e.requiredWord "Type" "value type" Kind.ofName?
  let text ← e.required "Value"
  match kind.read? text with
  | some value => return .setVar name value
  | none => throw (.invalidLiteral e.tag "Value" text kind.name)

def namesIn (text : String) : List String :=
  ((text.splitOn ",").map Text.trim).filter (· ≠ "")

def readDeed (e : Element) : Deed → Except ScriptError Deed
  | .setVar _ _ => e.readSetVar
  | .modifyHealth _ _ => do
    let target ← e.target "Target"
    return .modifyHealth target (← e.requiredParam "Amount")
  | .publishEvent _ _ => do
    let event ← e.requiredName "Event"
    return .publishEvent event (((e.attr? "Vars").map namesIn).getD [])
  | .spawnOwned _ _ => do
    let kind ← e.requiredName "Kind"
    return .spawnOwned kind (e.attr? "StoreAs")

def flag? (s : String) : Option Bool :=
  if s = "true" then some true else if s = "false" then some false else none

def readProbe (e : Element) : Probe → Except ScriptError Probe
  | .const _ => return .const (← e.requiredParam "Value")
  | .compareVar _ _ _ => do
    let name ← e.requiredName "Var"
    let op ← e.requiredWord "Op" "comparison operator" Comparison.ofText?
    return .compareVar name op (← e.requiredParam "Value")
  | .healthBelow _ _ => do
    let target ← e.target "Target"
    return .healthBelow target (← e.requiredParam "Threshold")
  | .elapsed _ => return .elapsed (← e.requiredParam "Seconds")
  | .event _ _ => do
    let name ← e.requiredName "Event"
    return .event name ((← e.word? "OwnerOnly" "bool" flag?).getD false)
  | .trigger _ => return .trigger (← e.requiredName "Tag")

/-- The state that a transition leads to; a blank name counts as none. -/
def stateName? (e : Element) (name : String) : Option String :=
  ((e.attr? name).map Text.trim).filter (· ≠ "")

/-- The parts of a transition outside its condition. -/
def readTransition (e : Element) :
    Except ScriptError (Option String × Option String × Param Float32) := do
  let onTrue := e.stateName? "TrueStateID"
  let onFalse := e.stateName? "FalseStateID"
  if onTrue.isNone && onFalse.isNone then
    throw (.invalid e.tag "requires TrueStateID or FalseStateID")
  let interval : Param Float32 ← e.param "CheckOnTick" 0
  if !interval.isBound && interval.default < 0 then
    throw (.invalid e.tag "CheckOnTick must not be negative")
  return (onTrue, onFalse, interval)

def readState (e : Element) : Except ScriptError (String × Option String) := do
  let id ← e.requiredName "Id"
  if id = "" then throw (.invalid e.tag "Id must not be empty")
  e.onlyRoles [Role.behavior.tag, Role.exitBehavior.tag]
  return (id, e.attr? "EndEvent")

end Element

namespace Registry

mutual

/-- Reads an element, for a place if one is given. The answer is `none` for a tag that is not
registered. -/
def readElement (r : Registry) (place : Option Place) :
    Element → Except ScriptError (Option Config)
  | ⟨tag, attrs, children⟩ => do
    if let some p := place then p.check r tag
    match r.find? tag with
    | none => return none
    | some entry =>
      let e : Element := ⟨tag, attrs, children⟩
      let body ← match entry.template with
        | .wait _ => e.readWait
        | .healthOverTime _ => e.readHealthOverTime
        | .deed d => .deed <$> e.readDeed d
        | .probe p => .probe <$> e.readProbe p
        | .composite _ => .composite <$> readEntries r (.entry tag .behavior) children
        | .junction _ => .junction <$> readEntries r (.entry tag .condition) children
        | .negation _ => do
          discard (e.inRole? Role.condition.tag)
          match ← readRole r tag .condition .condition children with
          | some c => pure (.negation (some c))
          | none => throw (.missingChild tag Role.condition.tag)
        | .fsm _ _ => do
          let initial ← e.requiredName "Initial"
          let states ← readStates r tag [] children
          if (states.map Prod.fst).contains initial then pure (.fsm initial states)
          else throw (.unknownInitialState tag initial)
        | .state _ _ _ _ _ => do
          let (id, endEvent) ← e.readState
          discard (e.inRole? Role.behavior.tag)
          let behavior ← readRole r tag .behavior .behavior children
          discard (e.inRole? Role.exitBehavior.tag)
          let exit ← readRole r tag .exitBehavior .behavior children
          let transitions ← readEntries r (.entry tag .stateTransition) children
          pure (.state id endEvent behavior exit transitions)
        | .transition _ _ _ _ => do
          let (onTrue, onFalse, interval) ← e.readTransition
          discard (e.inRole? Role.condition.tag)
          match ← readRole r tag .condition .condition children with
          | some c => pure (.transition (some c) onTrue onFalse interval)
          | none => throw (.missingChild tag Role.condition.tag)
        | .waitCheck _ predicate => pure (.waitCheck attrs predicate)
        | .delegate _ hooks => pure (.delegate attrs hooks)
      return some ⟨tag, entry.category, body⟩

def readEntries (r : Registry) (place : Place) : List Element → Except ScriptError (List Config)
  | [] => return []
  | c :: rest => do
    if c.isRole then readEntries r place rest
    else
      match ← readElement r (some place) c with
      | some config => return config :: (← readEntries r place rest)
      | none => readEntries r place rest

def readRole (r : Registry) (owner : String) (role : Role) (expected : Category) :
    List Element → Except ScriptError (Option Config)
  | [] => return none
  | ⟨tag, _, [child]⟩ :: rest =>
    if tag = role.tag then readElement r (some ⟨owner, role.tag, expected⟩) child
    else readRole r owner role expected rest
  | _ :: rest => readRole r owner role expected rest

/-- Reads the states of a state machine. No two may have the same id. -/
def readStates (r : Registry) (owner : String) (seen : List String) :
    List Element → Except ScriptError (List (String × Config))
  | [] => return []
  | c :: rest => do
    if c.isRole then readStates r owner seen rest
    else
      match ← readElement r (some ⟨owner, "State", .state⟩) c with
      | none => readStates r owner seen rest
      | some config =>
        let id ← c.requiredName "Id"
        if seen.contains id then throw (.duplicateStateId owner id)
        return (id, config) :: (← readStates r owner (id :: seen) rest)

end

def read (r : Registry) (e : Element) : Except ScriptError (Option Config) :=
  r.readElement none e

def readScript (r : Registry) (name : String) (root : Element) : Except ScriptError Script := do
  match ← r.read root with
  | some config => return ⟨name, config⟩
  | none => throw (.unknownRoot root.tag)

def readScriptText (r : Registry) (name text : String) : Except ScriptError Script :=
  match Element.ofText? text with
  | none => .error .malformed
  | some root => r.readScript name root

end Registry

end SkillScript
