import SkillScript.Markup.Element
import SkillScript.Ron.Decode
/-!
# Elements in documents

An element is a record with a tag, a list of attributes, which are pairs of
strings, and a list of child elements. Attributes and children may be left out.
-/
set_option autoImplicit false
namespace SkillScript
namespace Element

open Ron

def attrOf? : Datum → Option (String × String)
  | .tuple none [.text name, .text value] => some (name, value)
  | _ => none

mutual

def ofDatum? (dialect : Dialect) : Datum → Option Element
  | .record name fields =>
    if dialect.accepts "ConfigElement" name && Fields.once fields ["tag", "attrs", "children"] then
      do
        let tag ← Fields.required? fields "tag" Datum.text?
        let attrs ← Fields.withDefault? fields "attrs" (Datum.list? attrOf?) []
        return ⟨tag, attrs, ← childrenIn? dialect fields⟩
    else none
  | _ => none

def childrenIn? (dialect : Dialect) : List (String × Datum) → Option (List Element)
  | [] => some []
  | ("children", .list items) :: _ => allOf? dialect items
  | ("children", _) :: _ => none
  | _ :: rest => childrenIn? dialect rest

def allOf? (dialect : Dialect) : List Datum → Option (List Element)
  | [] => some []
  | d :: rest => do
    let e ← ofDatum? dialect d
    return e :: (← allOf? dialect rest)

end

def ofText? (text : String) : Option Element := do
  let doc ← readDocument? text
  ofDatum? doc.dialect doc.datum

end Element
end SkillScript
