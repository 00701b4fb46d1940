/-!
# Comparison operators

An operator is written as a word or as a sign. It is shown by the longer of its
two spellings, and by the sign where both have the same length.
-/
set_option autoImplicit false
namespace SkillScript

inductive Comparison where
  | eq
  | ne
  | lt
  | le
  | gt
  | ge
deriving DecidableEq, Repr, Inhabited

namespace Comparison

def all : List Comparison :=
  [eq, ne, lt, le, gt, ge]

def word : Comparison → String
  | eq => "Eq"
  | ne => "Ne"
  | lt => "Lt"
  | le => "Le"
  | gt => "Gt"
  | ge => "Ge"

def sign : Comparison → String
  | eq => "=="
  | ne => "!="
  | lt => "<"
  | le => "<="
  | gt => ">"
  | ge => ">="

def ofText? (s : String) : Option Comparison :=
  all.find? fun op => s = op.word || s = op.sign

def display (op : Comparison) : String :=
  if op.sign.length < op.word.length then op.word else op.sign

def apply (op : Comparison) (a b : Float) : Bool :=
  match op with
  | eq => a == b
  | ne => a != b
  | lt => a < b
  | le => a ≤ b
  | gt => b < a
  | ge => b ≤ a

end Comparison

end SkillScript
