import SkillScript.Text.Ascii
import SkillScript.Text.Whole
/-!
# Numerals with a point and an exponent

A numeral is an optional sign followed by `inf`, `infinity` or `nan` in any
letter case, or by a decimal: digits with at most one point among them, at least
one digit in all, and optionally an `e` with a signed whole exponent. The value
is the single nearest to the decimal, a tie going to the even mantissa.
-/
set_option autoImplicit false
namespace SkillScript.Number

open SkillScript.Text

inductive Numeral where
  | nan
  | infinite (negative : Bool)
  /-- The decimal `± digits * 10 ^ exponent`. -/
  | decimal (negative : Bool) (digits : Nat) (exponent : Int)
deriving DecidableEq, Repr

/-- The exponent after the letter, or zero when the text has ended. -/
def readExponent? : List Char → Option Int
  | [] => some 0
  | c :: rest => if c == 'e' || c == 'E' then readSigned? rest else none

/-- Digits around an optional point, then an optional exponent. -/
def readDecimal? (negative : Bool) (cs : List Char) : Option Numeral :=
  let whole := cs.takeWhile isDigit
  let (tenths, rest) :=
    match cs.dropWhile isDigit with
    | '.' :: more => (more.takeWhile isDigit, more.dropWhile isDigit)
    | more => ([], more)
  if whole.isEmpty && tenths.isEmpty then none
  else (readExponent? rest).map fun e =>
    .decimal negative (digitsValue (whole ++ tenths)) (e - tenths.length)

def readNumeral? (cs : List Char) : Option Numeral :=
  let (negative, rest) := splitSign cs
  let word := lowerChars rest
  if word = ['n', 'a', 'n'] then some .nan
  else if word = ['i', 'n', 'f'] || word = ['i', 'n', 'f', 'i', 'n', 'i', 't', 'y'] then
    some (.infinite negative)
  else readDecimal? negative rest

/-- The sign and size of a power of ten, as the conversions to binary expect it. -/
def scientific {α : Type} (convert : Nat → Bool → Nat → α) (digits : Nat) (exponent : Int) : α :=
  convert digits (decide (exponent < 0)) exponent.natAbs

def Numeral.toSingle : Numeral → Float32
  | .nan => 0 / 0
  | .infinite negative => if negative then -1 / 0 else 1 / 0
  | .decimal negative digits exponent =>
    let magnitude := scientific Float32.ofScientific digits exponent
    if negative then -magnitude else magnitude

def Numeral.toDouble : Numeral → Float
  | .nan => 0 / 0
  | .infinite negative => if negative then -1 / 0 else 1 / 0
  | .decimal negative digits exponent =>
    let magnitude := scientific Float.ofScientific digits exponent
    if negative then -magnitude else magnitude

def readSingle? (cs : List Char) : Option Float32 :=
  (readNumeral? cs).map Numeral.toSingle

end SkillScript.Number
