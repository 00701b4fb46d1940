import SkillScript.Value.Basic
import SkillScript.Number.Decimal
import SkillScript.Text.Blank
/-!
# Literals

How values are written in the attributes of a script. Blanks around a literal do
not count, except in strings, which are taken as they stand. `Scalar` names the
types that a variable can be read as.
-/
set_option autoImplicit false
namespace SkillScript

open SkillScript.Text

def readBool? (s : String) : Option Bool :=
  let word := lower (trim s)
  if word = "true" || word = "1" then some true
  else if word = "false" || word = "0" then some false
  else none

/-- An entity is written as its number, with or without a hash sign. -/
def readEntity? (s : String) : Option EntityId :=
  let digits :=
    match trimChars s.toList with
    | '#' :: rest => rest
    | cs => cs
  (readUInt32? digits).map EntityId.mk

def Kind.read? (k : Kind) (s : String) : Option Value :=
  match k with
  | .bool => (readBool? s).map .bool
  | .int => (readInt32? (trimChars s.toList)).map .int
  | .long => (readInt64? (trimChars s.toList)).map .long
  | .float => (Number.readSingle? (trimChars s.toList)).map .float
  | .str => some (.str s)
  | .entity => (readEntity? s).map .entity

/-- A type of values: its kind and the passage to and from `Value`. -/
class Scalar (α : Type) where
  kind : Kind
  toValue : α → Value
  ofValue? : Value → Option α
  /-- The value that stands in where none is given. -/
  zero : α

namespace Scalar

instance : Scalar Bool where
  kind := .bool
  toValue := .bool
  ofValue?
    | .bool b => some b
    | _ => none
  zero := false

instance : Scalar Int32 where
  kind := .int
  toValue := .int
  ofValue?
    | .int n => some n
    | _ => none
  zero := 0

instance : Scalar Int64 where
  kind := .long
  toValue := .long
  ofValue?
    | .long n => some n
    | _ => none
  zero := 0

instance : Scalar Float32 where
  kind := .float
  toValue := .float
  ofValue?
    | .float x => some x
    | _ => none
  zero := 0

instance : Scalar String where
  kind := .str
  toValue := .str
  ofValue?
    | .str s => some s
    | _ => none
  zero := ""

instance : Scalar EntityId where
  kind := .entity
  toValue := .entity
  ofValue?
    | .entity id => some id
    | _ => none
  zero := ⟨0⟩

def read? (α : Type) [Scalar α] (s : String) : Option α :=
  ((kind α).read? s).bind ofValue?

end Scalar

end SkillScript
