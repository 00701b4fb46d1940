import SkillScript.World.Bus
import SkillScript.Ron.Decode
/-!
# Variables and events in documents

A value is written as its kind with the content in parentheses, variables as a map
from names to values, and an event as a record. Where a map names a variable twice,
the last value counts.
-/
set_option autoImplicit false
namespace SkillScript

open Ron

def Value.ofDatum? : Datum → Option Value
  | .tuple (some "Bool") [d] => d.bool?.map .bool
  | .tuple (some "Int") [d] => d.int32?.map .int
  | .tuple (some "Long") [d] => d.int64?.map .long
  | .tuple (some "Float") [d] => d.single?.map .float
  | .tuple (some "Str") [d] => d.text?.map .str
  | .tuple (some "Entity") [d] => d.uint32?.map fun n => .entity ⟨n⟩
  | _ => none

namespace Vars

def entryOf? : Datum × Datum → Option (String × Value)
  | (k, d) => do return (← k.text?, ← Value.ofDatum? d)

def ofDatum? : Datum → Option Vars
  | .map entries => (entries.mapM entryOf?).map Table.ofList
  | _ => none

def ofText? (text : String) : Option Vars := do
  ofDatum? (← readDocument? text).datum

end Vars

namespace Event

def ofDatum? (dialect : Dialect) (d : Datum) : Option Event := do
  let fields ← d.fields? dialect "GameEvent" ["name", "source", "payload"]
  return {
    name := ← fields.required? "name" Datum.text?
    source := ⟨← fields.required? "source" Datum.uint32?⟩
    payload := ← fields.withDefault? "payload" Vars.ofDatum? ∅ }

def ofText? (text : String) : Option Event := do
  let doc ← readDocument? text
  ofDatum? doc.dialect doc.datum

end Event
end SkillScript
