import SkillScript.Cast.Skill
import SkillScript.Ron.Decode
/-!
# The skill catalog

A catalog is a document that lists skills. Only number, name and script of a skill
are required, and no two skills have the same number.
-/
set_option autoImplicit false
namespace SkillScript

open Ron

def Skill.fieldNames : List String :=
  ["id", "name", "script", "cooldown", "range", "interruptible", "min_health", "health_cost",
    "lock_movement", "unstoppable"]

def Skill.ofDatum? (dialect : Dialect) (d : Datum) : Option Skill := do
  let fields ← d.fields? dialect "SkillData" fieldNames
  return {
    id := ⟨← fields.required? "id" Datum.uint32?⟩
    name := ← fields.required? "name" Datum.text?
    script := ← fields.required? "script" Datum.text?
    cooldown := ← fields.withDefault? "cooldown" Datum.single? 0
    range := ← fields.withDefault? "range" (Datum.optional? dialect Datum.single?) none
    interruptible := ← fields.withDefault? "interruptible" Datum.bool? false
    minHealth := ← fields.withDefault? "min_health" Datum.int32? 0
    healthCost := ← fields.withDefault? "health_cost" Datum.int32? 0
    lockMovement := ← fields.withDefault? "lock_movement" Datum.bool? false
    unstoppable := ← fields.withDefault? "unstoppable" Datum.bool? false }

inductive CatalogError where
  | malformed
  /-- The first skill whose number was given before. -/
  | duplicate (skill : Skill)
deriving DecidableEq, Repr

def CatalogError.message : CatalogError → String
  | malformed => "Failed to parse skill catalog RON"
  | duplicate skill => "Duplicate " ++ skill.id.display ++ " (" ++ skill.name ++ ") in skill catalog"

namespace Catalog

/-- The first skill whose number is among those seen before. -/
def repeated? (seen : List SkillId) : List Skill → Option Skill
  | [] => none
  | s :: rest => if seen.contains s.id then some s else repeated? (s.id :: seen) rest

def ofText? (text : String) : Option (List Skill) := do
  let doc ← readDocument? text
  let fields ← doc.datum.fields? doc.dialect "SkillCatalog" ["skills"]
  fields.required? "skills" (Datum.list? (Skill.ofDatum? doc.dialect))

def read (text : String) : Except CatalogError (List Skill) :=
  match ofText? text with
  | none => .error .malformed
  | some skills =>
    match repeated? [] skills with
    | some s => .error (.duplicate s)
    | none => .ok skills

end Catalog
end SkillScript
