import SkillScript.Entity
import SkillScript.Number.Shortest
import SkillScript.Text.Quoted
import SkillScript.Text.Ascii
/-!
# Values

A variable of a script holds a value of one of six kinds. Values of different
kinds are never confused: a whole number is not visible as a float.
-/
set_option autoImplicit false
namespace SkillScript

inductive Value where
  | bool (b : Bool)
  | int (n : Int32)
  | long (n : Int64)
  | float (x : Float32)
  | str (s : String)
  | entity (id : EntityId)
deriving DecidableEq, Repr, Inhabited

inductive Kind where
  | bool
  | int
  | long
  | float
  | str
  | entity
deriving DecidableEq, Repr, Inhabited

namespace Kind

def all : List Kind :=
  [bool, int, long, float, str, entity]

def name : Kind → String
  | bool => "bool"
  | int => "int"
  | long => "long"
  | float => "float"
  | str => "string"
  | entity => "entity"

def spellings : Kind → List String
  | str => ["string", "str"]
  | k => [k.name]

def ofName? (s : String) : Option Kind :=
  all.find? fun k => k.spellings.any (Text.sameIgnoringCase s)

end Kind

namespace Value

def kind : Value → Kind
  | bool _ => .bool
  | int _ => .int
  | long _ => .long
  | float _ => .float
  | str _ => .str
  | entity _ => .entity

/-- The number compared by conditions. Strings and entities are no numbers. -/
def number? : Value → Option Float
  | bool b => some (if b then 1 else 0)
  | int n => some (Float.ofInt n.toInt)
  | long n => some (Float.ofInt n.toInt)
  | float x => some (Number.widen x)
  | str _ => none
  | entity _ => none

def display : Value → String
  | bool b => if b then "true" else "false"
  | int n => toString n.toInt
  | long n => toString n.toInt
  | float x => Number.display x
  | str s => Text.quote s
  | entity id => id.display

/-- Equality as values are compared in a program: floats by value, so that a NaN differs from
itself and the two zeros agree. -/
def same : Value → Value → Bool
  | float x, float y => x == y
  | a, b => a = b

end Value

end SkillScript
