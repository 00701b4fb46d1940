import SkillScript.Text.Scan
/-!
# Blanks and comments

Between the tokens of a document there may be blanks, line comments and block
comments. Block comments nest and have to be closed.
-/
set_option autoImplicit false
namespace SkillScript.Ron

def isBlank (c : Char) : Bool :=
  c == ' ' || c == '\t' || c == '\n' || c == '\r' || c == '\x0b' || c == '\x0c' ||
    c == '\u0085' || c == '\u200e' || c == '\u200f' || c == '\u2028' || c == '\u2029'

inductive GapPlace where
  | open
  | line
  /-- Inside a block comment that lies in `outer` other ones. -/
  | block (outer : Nat)
deriving DecidableEq, Repr

def skipFrom : GapPlace → List Char → Option (List Char)
  | .open, '/' :: '/' :: rest => skipFrom .line rest
  | .open, '/' :: '*' :: rest => skipFrom (.block 0) rest
  | .open, '/' :: _ => none
  | .open, c :: rest => if isBlank c then skipFrom .open rest else some (c :: rest)
  | .open, [] => some []
  | .line, '\n' :: rest => skipFrom .open rest
  | .line, _ :: rest => skipFrom .line rest
  | .line, [] => some []
  | .block outer, '/' :: '*' :: rest => skipFrom (.block (outer + 1)) rest
  | .block 0, '*' :: '/' :: rest => skipFrom .open rest
  | .block (outer + 1), '*' :: '/' :: rest => skipFrom (.block outer) rest
  | .block outer, _ :: rest => skipFrom (.block outer) rest
  | .block _, [] => none

def skipGap : Text.Gap :=
  skipFrom .open

end SkillScript.Ron
