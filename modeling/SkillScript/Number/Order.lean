/-!
# The smaller and the larger of two singles

A NaN is passed over: the other operand is the answer. Only two NaNs give a NaN.
-/
set_option autoImplicit false
namespace SkillScript.Number

def minNum (a b : Float32) : Float32 :=
  if a.isNaN then b else if b.isNaN then a else if b < a then b else a

def maxNum (a b : Float32) : Float32 :=
  if a.isNaN then b else if b.isNaN then a else if a < b then b else a

/-- Negative numbers and NaN become zero. -/
def atLeastZero (a : Float32) : Float32 :=
  maxNum a 0

end SkillScript.Number
