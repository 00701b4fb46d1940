import SkillScript.Number.Rounding
import SkillScript.Settings
import SkillScript.Toml.Document
/-!
# Settings from a file

A settings file may give each of the settings; what it leaves out keeps its
default, and what it gives besides is ignored.
-/
set_option autoImplicit false
namespace SkillScript

namespace Toml.Item

/-- A number as a single. Whole numbers count if they fit 64 bits, with a sign or without. -/
def single? : Item → Option Float32
  | real x => some (Number.narrow x)
  | whole n => if -Int.pow 2 63 ≤ n && n < Int.pow 2 64 then some (Float32.ofInt n) else none
  | _ => none

def count? : Item → Option Nat
  | whole n => if 0 ≤ n && n < Int.pow 2 64 then some n.toNat else none
  | _ => none

end Toml.Item

namespace Settings

/-- An entry read as a value, or the default where there is none. -/
def entry? {α : Type} (es : Toml.Entries) (key : String) (read : Toml.Item → Option α)
    (default : α) : Option α :=
  match es.find? key with
  | none => some default
  | some item => read item

def ofEntries? (es : Toml.Entries) : Option Settings := do
  let defaults : Settings := {}
  return {
    exitStep := ← entry? es "exit_dt" Toml.Item.single? defaults.exitStep
    timeEpsilon := ← entry? es "time_epsilon" Toml.Item.single? defaults.timeEpsilon
    eventCapacity := ← entry? es "event_capacity" Toml.Item.count? defaults.eventCapacity }

def ofText? (text : String) : Option Settings := do
  ofEntries? (← Toml.read? text)

end Settings
end SkillScript
