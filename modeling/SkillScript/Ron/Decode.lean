import SkillScript.Ron.Datum
/-!
# What data say

Data read as values of given types. A record may omit fields that have a default,
and may have fields that nobody asks for; a field that is asked for must not come
twice.
-/
set_option autoImplicit false
namespace SkillScript.Ron

namespace Datum

def text? : Datum → Option String
  | text s => some s
  | _ => none

def bool? : Datum → Option Bool
  | word "true" => some true
  | word "false" => some false
  | _ => none

def whole? (type : WholeType) : Datum → Option Int
  | number token => readAs? type token.toList
  | byte b => if type = .unsigned 8 then some b.toNat else none
  | _ => none

def int32? (d : Datum) : Option Int32 :=
  (d.whole? (.signed 32)).map Int32.ofInt

def int64? (d : Datum) : Option Int64 :=
  (d.whole? (.signed 64)).map Int64.ofInt

def uint32? (d : Datum) : Option UInt32 :=
  (d.whole? (.unsigned 32)).map fun n => UInt32.ofNat n.toNat

def single? : Datum → Option Float32
  | number token => readSingle? token.toList
  | _ => none

def list? {α : Type} (read : Datum → Option α) : Datum → Option (List α)
  | list items => items.mapM read
  | _ => none

def optional? {α : Type} (dialect : Dialect) (read : Datum → Option α) :
    Datum → Option (Option α)
  | present d => (read d).map some
  | word "None" => some none
  | d => if dialect.implicitSome then (read d).map some else none

end Datum

abbrev Fields := List (String × Datum)

namespace Fields

def required? {α : Type} (fields : Fields) (name : String) (read : Datum → Option α) : Option α :=
  (fields.find? fun f => f.1 = name).bind fun f => read f.2

def withDefault? {α : Type} (fields : Fields) (name : String) (read : Datum → Option α)
    (default : α) : Option α :=
  match fields.find? fun f => f.1 = name with
  | none => some default
  | some f => read f.2

def once (fields : Fields) (names : List String) : Bool :=
  names.all fun name => (fields.map Prod.fst).count name ≤ 1

end Fields

/-- Whether a record may carry the name that it does, or carry none. -/
def Dialect.accepts (dialect : Dialect) (expected : String) : Option String → Bool
  | some name => name = expected
  | none => !dialect.explicitNames

/-- The fields of a record of the given name, of which those in `known` are asked for. -/
def Datum.fields? (dialect : Dialect) (expected : String) (known : List String) :
    Datum → Option Fields
  | .record name fields =>
    if dialect.accepts expected name && Fields.once fields known then some fields else none
  | .tuple name [] => if dialect.accepts expected name then some [] else none
  | _ => none

end SkillScript.Ron
