import SkillScript.Number.Shortest
/-!
# A fixed number of decimal places

The exact value of a single is rounded to a whole number of hundredths or the
like; a tie goes to the even neighbour. The sign of the number is kept even if
all digits written are zero.
-/
set_option autoImplicit false
namespace SkillScript.Number

/-- The whole number nearest to `num / den`; of two, the even one. -/
def roundEven (num den : Nat) : Nat :=
  let q := num / den
  let twice := 2 * (num % den)
  if twice < den then q
  else if den < twice then q + 1
  else if q % 2 = 0 then q else q + 1

def withPlaces (places n : Nat) : List Char :=
  let digits := decimalDigits n
  let padded := List.replicate (places + 1 - digits.length) '0' ++ digits
  padded.take (padded.length - places) ++ '.' :: padded.drop (padded.length - places)

def fixed (places : Nat) (x : Float32) : String :=
  String.ofList <|
    match parts x with
    | .notANumber => ['N', 'a', 'N']
    | .infinity s => signChars s ++ ['i', 'n', 'f']
    | .zero s => signChars s ++ withPlaces places 0
    | .finite s m e _ =>
      let (num, den) := fraction m e
      signChars s ++ withPlaces places (roundEven (num * Nat.pow 10 places) den)

end SkillScript.Number
