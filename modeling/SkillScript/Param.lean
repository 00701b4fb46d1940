import SkillScript.Vars
/-!
# Parameters of nodes

A parameter is a literal or refers to a variable. A reference is written `BB#`
followed by the name of the variable; as long as the variable is not set to a
value of the right kind, the parameter has its default.
-/
set_option autoImplicit false
namespace SkillScript

structure Param (α : Type) where
  default : α
  variableName : Option String := none
deriving DecidableEq, Repr, Inhabited

namespace Param

variable {α : Type}

def literal (a : α) : Param α :=
  ⟨a, none⟩

def bound (name : String) (default : α) : Param α :=
  ⟨default, some name⟩

def isBound (p : Param α) : Bool :=
  p.variableName.isSome

/-- The name after the mark of a reference, if the text is one. -/
def reference? (s : String) : Option (List Char) :=
  match Text.trimChars s.toList with
  | 'B' :: 'B' :: '#' :: name => some name
  | _ => none

variable [Scalar α]

/-- Reads a parameter. A reference without a name and a text that is no literal are refused. -/
def read? (s : String) (default : α) : Option (Param α) :=
  match reference? s with
  | some [] => none
  | some name => some (bound (String.ofList name) default)
  | none => (Scalar.read? α s).map literal

def resolve (p : Param α) (vars : Vars) : α :=
  match p.variableName with
  | none => p.default
  | some name => (Vars.get? vars name).getD p.default

end Param

end SkillScript
