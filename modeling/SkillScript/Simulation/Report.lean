import SkillScript.Number.Compact
import SkillScript.Number.Fixed
import SkillScript.Simulation.Run
/-!
# Reports

A report is printed as a summary for people, with times to two places, or as one
JSON object.
-/
set_option autoImplicit false
namespace SkillScript
namespace Simulation

def healthText : Option Int32 → String
  | some health => toString health.toInt
  | none => "gone"

namespace Report

def summaryLines (r : Report) : List String :=
  ["Skill:          " ++ r.skill,
    "Simulated:      " ++ toString r.ticks.toNat ++ " ticks (" ++ Number.fixed 2 r.elapsed ++ "s)",
    "Casts:          " ++ toString r.casts.toNat ++ " (" ++ toString r.rejected.toNat ++
      " rejected)",
    "Caster health:  " ++ healthText r.casterHealth,
    "Target health:  " ++ healthText r.targetHealth,
    "Cooldown left:  " ++ Number.fixed 2 r.cooldownRemaining ++ "s"] ++
  if r.casting then ["Still casting when the simulation ended"] else []

def summary (r : Report) : String :=
  String.join (r.summaryLines.map (· ++ "\n"))

end Report

/-- A character inside a JSON string. Only quotes, backslashes and controls are escaped. -/
def jsonChar (c : Char) : List Char :=
  match c with
  | '"' => ['\\', '"']
  | '\\' => ['\\', '\\']
  | '\n' => ['\\', 'n']
  | '\r' => ['\\', 'r']
  | '\t' => ['\\', 't']
  | '\x08' => ['\\', 'b']
  | '\x0c' => ['\\', 'f']
  | c =>
    if c.toNat < 0x20 then
      let digits := Text.hexNumeral c.toNat
      ['\\', 'u'] ++ List.replicate (4 - digits.length) '0' ++ digits
    else [c]

def jsonString (s : String) : String :=
  String.ofList ('"' :: s.toList.flatMap jsonChar ++ ['"'])

def jsonHealth : Option Int32 → String
  | some health => toString health.toInt
  | none => "null"

/-- Numbers that JSON cannot express are null. -/
def jsonSingle (x : Float32) : String :=
  (Number.compact? x).getD "null"

def jsonObject (fields : List (String × String)) : String :=
  let lines := fields.map fun f => "  " ++ jsonString f.1 ++ ": " ++ f.2
  "\x7b\n" ++ String.intercalate ",\n" lines ++ "\n\x7d"

def Report.json (r : Report) : String :=
  jsonObject [
    ("skill", jsonString r.skill),
    ("ticks", toString r.ticks.toNat),
    ("elapsed", jsonSingle r.elapsed),
    ("casts", toString r.casts.toNat),
    ("rejected", toString r.rejected.toNat),
    ("caster_health", jsonHealth r.casterHealth),
    ("target_health", jsonHealth r.targetHealth),
    ("cooldown_remaining", jsonSingle r.cooldownRemaining),
    ("casting", toString r.casting)] ++ "\n"

end Simulation
end SkillScript
