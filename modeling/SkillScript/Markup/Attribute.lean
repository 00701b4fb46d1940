import SkillScript.Markup.Element
import SkillScript.Script.Error
import SkillScript.Param
/-!
# Reading attributes and roles

What an element says under a name, as text, as a parameter or as a word of a
small vocabulary, and the element that stands in a role. Every failure is an error
that names the element.
-/
set_option autoImplicit false
namespace SkillScript
namespace Element

variable {α : Type}

def required (e : Element) (name : String) : Except ScriptError String :=
  match e.attr? name with
  | some text => .ok text
  | none => .error (.missingAttribute e.tag name)

def requiredName (e : Element) (name : String) : Except ScriptError String :=
  (e.required name).map Text.trim

/-- An optional attribute read as one word, the blanks around it left out. -/
def word? (e : Element) (name expected : String) (read : String → Option α) :
    Except ScriptError (Option α) :=
  match e.attr? name with
  | none => .ok none
  | some text =>
    match read (Text.trim text) with
    | some a => .ok (some a)
    | none => .error (.invalidLiteral e.tag name text expected)

/-- Like `word?`, for an attribute that must be there. -/
def requiredWord (e : Element) (name expected : String) (read : String → Option α) :
    Except ScriptError α := do
  match ← e.word? name expected read with
  | some a => .ok a
  | none => .error (.missingAttribute e.tag name)

variable [Scalar α]

def readParam (e : Element) (name text : String) (default : α) : Except ScriptError (Param α) :=
  match Param.read? text default with
  | some p => .ok p
  | none => .error (.invalidLiteral e.tag name text (Scalar.kind α).name)

/-- A parameter; without the attribute it is the literal `default`. -/
def param (e : Element) (name : String) (default : α) : Except ScriptError (Param α) :=
  match e.attr? name with
  | none => .ok (.literal default)
  | some text => e.readParam name text default

def requiredParam (e : Element) (name : String) : Except ScriptError (Param α) := do
  e.readParam name (← e.required name) Scalar.zero

/-- The element in the wrapper with the given tag. The wrapper must be the only one of its tag
and hold exactly one element. -/
def inRole? (e : Element) (tag : String) : Except ScriptError (Option Element) :=
  match e.wrappers tag with
  | [] => .ok none
  | [⟨_, _, [child]⟩] => .ok (some child)
  | [wrapper] => .error (.roleArity e.tag tag wrapper.children.length)
  | several => .error (.roleArity e.tag tag several.length)

def onlyRoles (e : Element) (allowed : List String) : Except ScriptError Unit :=
  match e.children.find? fun c => c.isRole && !allowed.contains c.tag with
  | some stray => .error (.invalid e.tag ("unexpected role " ++ named stray.tag))
  | none => .ok ()

end Element

inductive Target where
  | owner
  | entity (id : Param EntityId)
deriving DecidableEq, Repr, Inhabited

/-- Reads a target. Without the attribute, and for the words `Owner` and `Self`, it is the
owner. -/
def Element.target (e : Element) (name : String) : Except ScriptError Target :=
  match (e.attr? name).map Text.trim with
  | none => .ok .owner
  | some text =>
    if text = "Owner" || text = "Self" then .ok .owner
    else (e.readParam name text ⟨0⟩).map .entity

end SkillScript
