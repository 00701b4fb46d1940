import SkillScript.Number.Shortest
/-!
# Compact text of singles

The shortest decimal of a single, written with a point where its first digit is not
far from it, and with an exponent elsewhere. Numbers without a fraction still show
one. Infinities and NaN have no such text.
-/
set_option autoImplicit false
namespace SkillScript.Number

/-- Numbers below one show at most this many zeros behind the point, and numbers above one this
many digits before it, without an exponent. -/
structure Positional where
  zeros : Int
  digits : Int
deriving DecidableEq, Repr

def Positional.standard : Positional := ⟨5, 13⟩

def withPoint : List Char → List Char
  | [] => []
  | [d] => [d]
  | d :: rest => d :: '.' :: rest

/-- Writes `digits * 10 ^ j`. -/
def compactDigits (p : Positional) (digits : List Char) (j : Int) : List Char :=
  let before := digits.length + j
  if 0 ≤ j && before ≤ p.digits then positional digits j ++ ['.', '0']
  else if j < 0 && -p.zeros ≤ before && before ≤ p.digits then positional digits j
  else withPoint digits ++ 'e' :: (toString (before - 1)).toList

def compact? (x : Float32) : Option String :=
  match parts x with
  | .notANumber => none
  | .infinity _ => none
  | .zero s => some (String.ofList (signChars s ++ ['0', '.', '0']))
  | .finite s m e _ =>
    let (d, j) := shortest m e
    some (String.ofList (signChars s ++ compactDigits .standard (decimalDigits d) j))

end SkillScript.Number
