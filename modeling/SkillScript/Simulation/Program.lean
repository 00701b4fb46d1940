import SkillScript.Content.Bundled
import SkillScript.Simulation.Arguments
import SkillScript.Simulation.Report
/-!
# The simulator

From arguments to output. How folders are opened is left to the caller, so that the
program itself is a function.
-/
set_option autoImplicit false
namespace SkillScript
namespace Simulation

structure Outcome where
  exit : UInt8
  output : String := ""
  errors : String := ""
deriving DecidableEq, Repr

inductive ProgramError where
  | content (folder : String) (cause : LoadError)
  | noSkill (name : String)
deriving DecidableEq, Repr

/-- The text of an error; a cause is set off, and its further lines are indented like the first. -/
def ProgramError.report : ProgramError → String
  | content folder cause =>
    "Error: loading content from " ++ folder ++ "\n\nCaused by:\n    " ++
      "\n    ".intercalate (cause.message.splitOn "\n")
  | noSkill name => "Error: no skill named " ++ named name

/-- The folder that the options name, or the bundled content. -/
def Options.folder (o : Options) (openFolder : String → FileTree) : ContentFolder :=
  match o.dataDir with
  | some path => { shown := path, tree := openFolder path }
  | none => { shown := "data", tree := Bundled.tree }

def simulate (openFolder : String → FileTree) (o : Options) : Except ProgramError Report := do
  let folder := o.folder openFolder
  let r := Registry.standard
  let content ← (folder.load r).mapError (.content folder.shown)
  match content.skill? o.skill with
  | none => throw (.noSkill o.skill)
  | some skill => return run r content.settings content.scripts o.setup skill

def Report.print (r : Report) : Format → String
  | .summary => r.summary
  | .json => r.json

def helpHeader : List String :=
  ["Headless skill cast simulator", "", "Usage: skill-sim [OPTIONS]", "", "Options:"]

def shortHelp : List String := helpHeader ++
  ["  -d, --data-dir <DIR>       Content directory holding settings.toml, skills.ron and scripts/",
    "  -s, --skill <SKILL>        Name of the skill to cast [default: Fireball]",
    "  -t, --ticks <TICKS>        Number of ticks to simulate [default: 60]",
    "      --dt <DT>              Seconds per tick [default: 0.1]",
    "      --distance <DISTANCE>  Distance between caster and target [default: 4.0]",
    "      --health <HEALTH>      Starting health of both entities [default: 100]",
    "  -r, --repeat               Cast again whenever the skill is ready",
    "  -f, --format <FORMAT>      Output format [default: summary] " ++
      "[possible values: summary, json]",
    "  -h, --help                 Print help (see more with '--help')",
    "  -V, --version              Print version"]

/-- An option with its description and its default, as the long help shows them. -/
def longEntry (option description : String) (default : Option String) : List String :=
  [option, "          " ++ description] ++
    (match default with
      | some text => ["          ", "          [default: " ++ text ++ "]"]
      | none => []) ++ [""]

def longHelp : List String := helpHeader ++
  longEntry "  -d, --data-dir <DIR>"
    "Content directory holding settings.toml, skills.ron and scripts/" none ++
  longEntry "  -s, --skill <SKILL>" "Name of the skill to cast" (some "Fireball") ++
  longEntry "  -t, --ticks <TICKS>" "Number of ticks to simulate" (some "60") ++
  longEntry "      --dt <DT>" "Seconds per tick" (some "0.1") ++
  longEntry "      --distance <DISTANCE>" "Distance between caster and target" (some "4.0") ++
  longEntry "      --health <HEALTH>" "Starting health of both entities" (some "100") ++
  longEntry "  -r, --repeat" "Cast again whenever the skill is ready" none ++
  ["  -f, --format <FORMAT>",
    "          Output format",
    "",
    "          Possible values:",
    "          - summary: Human-readable summary",
    "          - json:    JSON report",
    "          ",
    "          [default: summary]",
    ""] ++
  longEntry "  -h, --help" "Print help (see a summary with '-h')" none ++
  ["  -V, --version", "          Print version"]

def Refusal.outcome : Refusal → Outcome
  | malformed => { exit := 2, errors := "error: invalid arguments\n" }
  | help long =>
    { exit := 0
      output := String.join ((if long then longHelp else shortHelp).map (· ++ "\n")) }
  | version => { exit := 0, output := "skill-sim 0.1.0\n" }

def program (openFolder : String → FileTree) (args : List String) : Outcome :=
  match Options.read args with
  | .error refusal => refusal.outcome
  | .ok o =>
    match simulate openFolder o with
    | .error e => { exit := 1, errors := e.report ++ "\n" }
    | .ok report => { exit := 0, output := report.print o.format }

end Simulation
end SkillScript
