import SkillScript.Cast.Caster
import SkillScript.Cast.Catalog
import SkillScript.Content.Files
import SkillScript.Content.SettingsFile
import SkillScript.Script.Reader
/-!
# Loading content

Content is a folder with settings, a skill catalog and a folder of scripts, one
file each. Settings may be missing. A script that cannot be loaded is left out; the
other faults are errors.
-/
set_option autoImplicit false
namespace SkillScript

inductive LoadError where
  | unreadable (path : String) (cause : FileError)
  | unreadableFolder (path : String) (cause : FileError)
  | malformedSettings (path : String)
  | catalog (cause : CatalogError)
  | unnamedScript (path : String)
  | script (path : String) (cause : ScriptError)
deriving DecidableEq, Repr

def LoadError.message : LoadError → String
  | unreadable path cause => "Failed to read file " ++ path ++ ": " ++ cause.message
  | unreadableFolder path cause =>
    "Failed to read script directory " ++ path ++ ": " ++ cause.message
  | malformedSettings path =>
    "Failed to parse settings TOML at " ++ path ++ ": " ++ ScriptError.malformed.message
  | catalog cause => cause.message
  | unnamedScript path => "Invalid script file name " ++ path
  | script path cause => "Failed to parse script " ++ path ++ ": " ++ cause.message

/-- A folder of content, and the name under which messages show it. -/
structure ContentFolder where
  shown : String
  tree : FileTree

structure Content where
  settings : Settings
  skills : List Skill
  scripts : Library

def Content.skill? (c : Content) (name : String) : Option Skill :=
  c.skills.find? fun s => s.name = name

namespace ContentFolder

def shownPath (f : ContentFolder) (path : String) : String :=
  f.shown ++ "/" ++ path

def readFile (f : ContentFolder) (path : String) : Except LoadError String :=
  (f.tree.readText path).mapError (.unreadable (f.shownPath path))

def settingsFile (f : ContentFolder) (path : String) : Except LoadError Settings := do
  match Settings.ofText? (← f.readFile path) with
  | some settings => return settings
  | none => throw (.malformedSettings (f.shownPath path))

def settings (f : ContentFolder) : Except LoadError Settings :=
  if f.tree.exists? "settings.toml" then f.settingsFile "settings.toml" else .ok {}

def skillFile (f : ContentFolder) (path : String) : Except LoadError (List Skill) := do
  (Catalog.read (← f.readFile path)).mapError .catalog

def skills (f : ContentFolder) : Except LoadError (List Skill) :=
  f.skillFile "skills.ron"

/-- A script is named after its file, without the extension. -/
def scriptFile (f : ContentFolder) (r : Registry) (path : String) : Except LoadError Script := do
  match fileName? path with
  | none => throw (.unnamedScript (f.shownPath path))
  | some name =>
    let text ← f.readFile path
    (r.readScriptText (splitExtension name).1 text).mapError (.script (f.shownPath path))

def isScriptName (name : String) : Bool :=
  (splitExtension name).2 = some "ron"

def scriptFolder (f : ContentFolder) (r : Registry) (path : String) :
    Except LoadError Library := do
  let names ← (f.tree.names path).mapError (.unreadableFolder (f.shownPath path))
  let paths := (names.filter isScriptName).map fun name => path ++ "/" ++ name
  let scripts := paths.filterMap fun path => (f.scriptFile r path).toOption
  return Table.ofList (scripts.map fun s => (s.name, s))

def scripts (f : ContentFolder) (r : Registry) : Except LoadError Library :=
  f.scriptFolder r "scripts"

/-- Settings read on their own, with the errors of scripts. -/
def plainSettings (f : ContentFolder) (path : String) : Except ScriptError Settings := do
  match Settings.ofText? (← (f.tree.readText path).mapError fun _ => .unreadable path) with
  | some settings => return settings
  | none => throw .malformed

def load (f : ContentFolder) (r : Registry) : Except LoadError Content := do
  let settings ← f.settings
  let skills ← f.skills
  let scripts ← f.scripts r
  return { settings := settings, skills := skills, scripts := scripts }

end ContentFolder
end SkillScript
