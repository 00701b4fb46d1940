import SkillScript.Category
import SkillScript.Text.Quoted
/-!
# Why a script is refused

Each cause carries what its message names.
-/
set_option autoImplicit false
namespace SkillScript

inductive ScriptError where
  | missingAttribute (tag attr : String)
  | invalidLiteral (tag attr value expected : String)
  | categoryMismatch (tag role : String) (expected : Category) (found : String) (actual : Category)
  | missingChild (tag role : String)
  | roleArity (tag role : String) (count : Nat)
  | unknownRoot (tag : String)
  | duplicateStateId (tag id : String)
  | unknownInitialState (tag id : String)
  | invalid (tag message : String)
  /-- The text is not an element tree. -/
  | malformed
  | unreadable (path : String)
deriving DecidableEq, Repr

def backquote : String := "\x60"

def named (s : String) : String :=
  backquote ++ s ++ backquote

namespace ScriptError

def angled (tag : String) : String :=
  "<" ++ tag ++ ">"

def message : ScriptError → String
  | missingAttribute tag attr =>
    angled tag ++ " is missing required attribute " ++ named attr
  | invalidLiteral tag attr value expected =>
    angled tag ++ " attribute " ++ named attr ++ " = " ++ Text.quote value ++
      " is not a valid " ++ expected
  | categoryMismatch tag role expected found actual =>
    angled tag ++ " expects " ++ expected.name ++ " in " ++ named role ++ ", found " ++
      angled found ++ " (" ++ actual.name ++ ")"
  | missingChild tag role =>
    angled tag ++ " is missing required child " ++ named role
  | roleArity tag role count =>
    angled tag ++ " " ++ named role ++ " must hold exactly one element, found " ++ toString count
  | unknownRoot tag =>
    "script root " ++ angled tag ++ " is not a registered node type"
  | duplicateStateId tag id =>
    angled tag ++ " declares state " ++ named id ++ " more than once"
  | unknownInitialState tag id =>
    angled tag ++ " initial state " ++ named id ++ " is not declared"
  | invalid tag message =>
    angled tag ++ " " ++ message
  | malformed => "malformed script markup"
  | unreadable path => "failed to read script " ++ path

end ScriptError

end SkillScript
