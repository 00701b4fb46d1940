import SkillScript.Proofs.Instantiation.Sound
/-!
# Well-formed markup

What an element must look like so that it can be read, said without reading it: which
attributes its type requires and which texts they may have, which wrappers the type
reads, which of its children are entries of a list, and of what category the element
in each of these places must be. Elements whose tag is not registered are no concern
of anyone, except where a place has to be filled.
-/
set_option autoImplicit false
namespace SkillScript

/-! ## Texts -/

namespace Markup

/-- `BB#`, followed by an id that is not empty. -/
def IsReference (text : String) : Prop :=
  ∃ id : String, id ≠ "" ∧ Text.trim text = "BB#" ++ id

def IsLiteral (kind : Kind) (text : String) : Prop :=
  (kind.read? text).isSome = true

def IsParam (kind : Kind) (text : String) : Prop :=
  IsReference text ∨ IsLiteral kind text

def IsTarget (text : String) : Prop :=
  Text.trim text = "Owner" ∨ Text.trim text = "Self" ∨ IsParam .entity (Text.trim text)

def IsInterval (text : String) : Prop :=
  IsReference text ∨ ∃ x, Kind.float.read? text = some (.float x) ∧ ¬x < 0

def IsFlag (text : String) : Prop :=
  Text.trim text = "true" ∨ Text.trim text = "false"

def IsOperator (text : String) : Prop :=
  (Comparison.ofText? (Text.trim text)).isSome = true

def Filled (text : String) : Prop :=
  Text.trim text ≠ ""

end Markup

/-- The entries among some children whose tag is registered. -/
def Registry.known (r : Registry) (es : List Element) : List Element :=
  (es.filter fun c => !c.isRole).filter fun c => r.contains c.tag

namespace Element

/-- The element has the attribute, and the text of its first occurrence is accepted. -/
def Has (e : Element) (name : String) (accepted : String → Prop) : Prop :=
  ∃ text, e.attr? name = some text ∧ accepted text

def Allows (e : Element) (name : String) (accepted : String → Prop) : Prop :=
  ∀ text, e.attr? name = some text → accepted text

def Names (e : Element) (name : String) : Prop :=
  e.Has name fun _ => True

/-- The role has one wrapper, which holds just this element. -/
def Holds (e : Element) (role : Role) (child : Element) : Prop :=
  ∃ attrs, e.wrappers role.tag = [⟨role.tag, attrs, [child]⟩]

def WrappedOnce (e : Element) (role : Role) : Prop :=
  e.wrappers role.tag = [] ∨ ∃ child, e.Holds role child

def knownEntries (r : Registry) (e : Element) : List Element :=
  r.known e.children

def stateIds (r : Registry) (e : Element) : List String :=
  (e.knownEntries r).map fun c => Text.trim ((c.attr? "Id").getD "")

end Element

/-! ## Types -/

namespace NodeType

open Markup

/-- What a type asks of the attributes of an element. -/
@[simp] def Attributes (e : Element) : NodeType → Prop
  | behavior .finiteTime => e.Has "Duration" (IsParam .float)
  | behavior .healthOverTime =>
    e.Has "Duration" (IsParam .float) ∧ e.Has "PerSecond" (IsParam .float) ∧
      e.Allows "Target" IsTarget
  | behavior .setVar =>
    e.Has "Var" Filled ∧ ∃ kind,
      e.Has "Type" (fun text => Kind.ofName? (Text.trim text) = some kind) ∧
        e.Has "Value" (IsLiteral kind)
  | behavior .modifyHealth => e.Allows "Target" IsTarget ∧ e.Has "Amount" (IsParam .int)
  | behavior .publishEvent => e.Names "Event"
  | behavior .spawnOwned => e.Names "Kind"
  | behavior .fsm => e.Names "Initial"
  | condition .const => e.Has "Value" (IsParam .bool)
  | condition .compareVar =>
    e.Names "Var" ∧ e.Has "Op" IsOperator ∧ e.Has "Value" (IsParam .float)
  | condition .healthBelow => e.Allows "Target" IsTarget ∧ e.Has "Threshold" (IsParam .int)
  | condition .elapsed => e.Has "Seconds" (IsParam .float)
  | condition .event => e.Names "Event" ∧ e.Allows "OwnerOnly" IsFlag
  | condition .trigger => e.Names "Tag"
  | state => e.Has "Id" Filled
  | transition =>
    (e.Has "TrueStateID" Filled ∨ e.Has "FalseStateID" Filled) ∧
      e.Allows "CheckOnTick" IsInterval
  | _ => True

/-- The roles that a type reads, with the category that it expects there. -/
@[simp] def roles : NodeType → List (Role × Category)
  | condition .not => [(.condition, .condition)]
  | state => [(.behavior, .behavior), (.exitBehavior, .behavior)]
  | transition => [(.condition, .condition)]
  | _ => []

@[simp] def requiredRoles : NodeType → List Role
  | condition .not => [.condition]
  | transition => [.condition]
  | _ => []

@[simp] def refusedRoles : NodeType → List Role
  | state => [.condition]
  | _ => []

/-- The category that a type expects of the entries of its list, if it reads one. -/
@[simp] def lists? : NodeType → Option Category
  | behavior .sequence => some .behavior
  | behavior .parallel => some .behavior
  | behavior .fsm => some .state
  | condition .all => some .condition
  | condition .any => some .condition
  | state => some .stateTransition
  | _ => none

/-- An element of the type reads the child in a place that expects the category. -/
inductive Places (t : NodeType) (e child : Element) (expected : Category) : Prop where
  | role (role : Role) (reads : (role, expected) ∈ t.roles) (holds : e.Holds role child)
  | entry (lists : t.lists? = some expected) (member : child ∈ e.entries)

end NodeType

/-- What a type asks of an element itself, and of the tags of the elements that it places. -/
structure Element.Shaped (r : Registry) (t : NodeType) (e : Element) : Prop where
  attributes : t.Attributes e
  wrapped : ∀ place ∈ t.roles, e.WrappedOnce place.1
  required : ∀ role ∈ t.requiredRoles, ∃ child, e.Holds role child ∧ r.contains child.tag = true
  refused : ∀ role ∈ t.refusedRoles, e.wrappers role.tag = []
  fitting : ∀ child expected, t.Places e child expected → r.contains child.tag = true →
    (r.category child.tag).satisfies expected = true
  /-- A state machine declares every state once, and its initial state among them. -/
  states : t = .behavior .fsm → (e.stateIds r).Nodup ∧
    e.Has "Initial" fun text => Text.trim text ∈ e.stateIds r

inductive Element.WellFormed (r : Registry) : Element → Prop where
  | intro {e : Element} {entry : Registration} (found : r.find? e.tag = some entry)
      (shaped : e.Shaped r entry.implementation)
      (below : ∀ child expected, entry.implementation.Places e child expected →
        r.contains child.tag = true → WellFormed r child) : WellFormed r e

end SkillScript
