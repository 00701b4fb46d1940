import SkillScript.Number.Decimal
import SkillScript.Simulation.Run
/-!
# Arguments of the simulator

Options have a long name, most of them a short one, and all but the switches take a
value: behind an equals sign, as the next argument, or, for a short name, right
behind it. Short names may be joined. No option may be given twice, and nothing else
may be given.
-/
set_option autoImplicit false
namespace SkillScript
namespace Simulation

inductive Format where
  | summary
  | json
deriving DecidableEq, Repr

inductive Flag where
  | dataDir
  | skill
  | ticks
  | dt
  | distance
  | health
  | again
  | format
  | help
  | version
deriving DecidableEq, Repr

namespace Flag

def all : List Flag :=
  [dataDir, skill, ticks, dt, distance, health, again, format, help, version]

def long : Flag → String
  | dataDir => "data-dir"
  | skill => "skill"
  | ticks => "ticks"
  | dt => "dt"
  | distance => "distance"
  | health => "health"
  | again => "repeat"
  | format => "format"
  | help => "help"
  | version => "version"

def short? : Flag → Option Char
  | dataDir => some 'd'
  | skill => some 's'
  | ticks => some 't'
  | dt => none
  | distance => none
  | health => none
  | again => some 'r'
  | format => some 'f'
  | help => some 'h'
  | version => some 'V'

def takesValue : Flag → Bool
  | again => false
  | help => false
  | version => false
  | _ => true

def ofLong? (name : String) : Option Flag :=
  all.find? fun f => f.long = name

def ofShort? (c : Char) : Option Flag :=
  all.find? fun f => f.short? = some c

end Flag

structure Options where
  /-- The folder with the content; without it the bundled content is used. -/
  dataDir : Option String := none
  skill : String := "Fireball"
  setup : Setup := {}
  format : Format := .summary
deriving DecidableEq, Repr

inductive Refusal where
  | malformed
  /-- Help was asked for, by the long name or by the short one. -/
  | help (long : Bool)
  | version
deriving DecidableEq, Repr

def boundedWhole? (least greatest : Int) (value : String) : Option Int :=
  (Text.readInt64? value.toList).bind fun n =>
    if least ≤ n.toInt && n.toInt ≤ greatest then some n.toInt else none

def Options.set? (o : Options) (flag : Flag) (value : String) : Option Options :=
  match flag with
  | .dataDir => if value = "" then none else some { o with dataDir := some value }
  | .skill => some { o with skill := value }
  | .ticks => do
    let n ← boundedWhole? 0 4294967295 value
    return { o with setup := { o.setup with ticks := UInt32.ofNat n.toNat } }
  | .dt => do
    let x ← Number.readSingle? value.toList
    return { o with setup := { o.setup with step := x } }
  | .distance => do
    let x ← Number.readSingle? value.toList
    return { o with setup := { o.setup with distance := x } }
  | .health => do
    let n ← boundedWhole? (-2147483648) 2147483647 value
    return { o with setup := { o.setup with health := Int32.ofInt n } }
  | .format =>
    match value with
    | "summary" => some { o with format := .summary }
    | "json" => some { o with format := .json }
    | _ => none
  | .again => some { o with setup := { o.setup with again := true } }
  | .help => none
  | .version => none

/-- What was read so far: the options, and the names that are used up. -/
structure Reading where
  options : Options := {}
  used : List Flag := []

namespace Reading

def give (r : Reading) (flag : Flag) (value : String) : Except Refusal Reading :=
  if r.used.contains flag then .error .malformed
  else
    match r.options.set? flag value with
    | some options => .ok { options := options, used := flag :: r.used }
    | none => .error .malformed

def turn (r : Reading) (flag : Flag) (long : Bool) : Except Refusal Reading :=
  match flag with
  | .help => .error (.help long)
  | .version => .error .version
  | flag => r.give flag ""

/-- Short names joined in one argument. The answer also names the option whose value is still
to come. -/
def shorts (r : Reading) : List Char → Except Refusal (Reading × Option Flag)
  | [] => .ok (r, none)
  | c :: rest =>
    match Flag.ofShort? c with
    | none => .error .malformed
    | some flag =>
      if flag.takesValue then
        match rest with
        | [] => .ok (r, some flag)
        | '=' :: value => return (← r.give flag (String.ofList value), none)
        | value => return (← r.give flag (String.ofList value), none)
      else do shorts (← r.turn flag false) rest

/-- A long name, with its value if it has one. -/
def long (r : Reading) (arg : List Char) : Except Refusal (Reading × Option Flag) :=
  match Flag.ofLong? (String.ofList (arg.takeWhile (· ≠ '='))), arg.dropWhile (· ≠ '=') with
  | none, _ => .error .malformed
  | some flag, [] =>
    if flag.takesValue then .ok (r, some flag) else return (← r.turn flag true, none)
  | some flag, _ :: value =>
    if flag.takesValue then return (← r.give flag (String.ofList value), none)
    else .error .malformed

def isValue (arg : String) : Bool :=
  match arg.toList with
  | '-' :: _ :: _ => false
  | _ => true

/-- Reads the arguments in order; `waiting` is the option whose value is still to come. -/
def args (r : Reading) (waiting : Option Flag) : List String → Except Refusal Options
  | [] => if waiting.isSome then .error .malformed else .ok r.options
  | arg :: rest =>
    match waiting with
    | some flag =>
      if isValue arg then do args (← r.give flag arg) none rest else .error .malformed
    | none =>
      match arg.toList with
      | ['-', '-'] => if rest.isEmpty then .ok r.options else .error .malformed
      | '-' :: '-' :: name => do
        let (r, waiting) ← r.long name
        args r waiting rest
      | '-' :: c :: names => do
        let (r, waiting) ← r.shorts (c :: names)
        args r waiting rest
      | _ => .error .malformed

end Reading

def Options.read (args : List String) : Except Refusal Options :=
  Reading.args {} none args

end Simulation
end SkillScript
