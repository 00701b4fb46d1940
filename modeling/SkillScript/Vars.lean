import SkillScript.Table
import SkillScript.Value.Literal
/-!
# Variables

The named, typed variables of one running script.
-/
set_option autoImplicit false
namespace SkillScript

abbrev Vars := Table String Value

namespace Vars

variable {α : Type} [Scalar α]

def get? (vars : Vars) (name : String) : Option α :=
  (vars.find? name).bind Scalar.ofValue?

def has (vars : Vars) (k : Kind) (name : String) : Bool :=
  (vars.find? name).any fun v => v.kind = k

def set (vars : Vars) (name : String) (a : α) : Vars :=
  vars.insert name (Scalar.toValue a)

def only (vars : Vars) (names : List String) : Vars :=
  Table.ofList (names.filterMap fun name => (vars.find? name).map fun v => (name, v))

/-- Whether both have the same names, with values that compare equal. -/
def same (a b : Vars) : Bool :=
  a.size == b.size && a.entries.all fun e => (b.find? e.1).any (Value.same e.2)

end Vars

end SkillScript
