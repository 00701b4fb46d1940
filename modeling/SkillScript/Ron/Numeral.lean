import SkillScript.Number.Decimal
import SkillScript.Number.Rounding
import SkillScript.Ron.Quoted
/-!
# Numerals in documents

A whole number may have a sign, a base (two, eight or sixteen), underscores
between its digits, and at its end the name of a type, whose range it then has to
keep. A number with a point or an exponent may have underscores too, and the name
of a float type. Infinities and NaN are words with an optional sign.
-/
set_option autoImplicit false
namespace SkillScript.Ron

open SkillScript.Text
open SkillScript.Number

def digitsIn? (base : Nat) (cs : List Char) : Option Nat :=
  cs.foldlM (fun n c => (hexValue? c).bind fun d => if d < base then some (base * n + d) else none) 0

/-- Digits with underscores, which do not come first. -/
def groupedDigits? (base : Nat) : List Char → Option Nat
  | [] => none
  | '_' :: _ => none
  | cs => digitsIn? base (cs.filter (· ≠ '_'))

def magnitude? : List Char → Option Nat
  | '0' :: 'b' :: digits => groupedDigits? 2 digits
  | '0' :: 'o' :: digits => groupedDigits? 8 digits
  | '0' :: 'x' :: digits => groupedDigits? 16 digits
  | digits => groupedDigits? 10 digits

inductive WholeType where
  | signed (bits : Nat)
  | unsigned (bits : Nat)
deriving DecidableEq, Repr

namespace WholeType

def contains (n : Int) : WholeType → Bool
  | signed bits => -Int.pow 2 (bits - 1) ≤ n && n ≤ Int.pow 2 (bits - 1) - 1
  | unsigned bits => 0 ≤ n && n ≤ Int.pow 2 bits - 1

def ofName? (name : List Char) : Option WholeType :=
  match String.ofList name with
  | "i8" => some (signed 8)
  | "i16" => some (signed 16)
  | "i32" => some (signed 32)
  | "i64" => some (signed 64)
  | "u8" => some (unsigned 8)
  | "u16" => some (unsigned 16)
  | "u32" => some (unsigned 32)
  | "u64" => some (unsigned 64)
  | _ => none

end WholeType

def beginsType (c : Char) : Bool :=
  c == 'i' || c == 'u'

/-- Reads a whole number of any size, and the type that it names. -/
def readWhole? (cs : List Char) : Option (Int × Option WholeType) := do
  let (negative, body) := splitSign cs
  let m ← magnitude? (body.takeWhile fun c => !beginsType c)
  let n : Int := if negative then -m else m
  match body.dropWhile fun c => !beginsType c with
  | [] => some (n, none)
  | name =>
    let type ← WholeType.ofName? name
    if type.contains n then some (n, some type) else none

/-- Reads a whole number of the given type. One that names a type must name this one. -/
def readAs? (type : WholeType) (cs : List Char) : Option Int := do
  let (n, named) ← readWhole? cs
  if named.all (· = type) && type.contains n then some n else none

inductive FloatType where
  | single
  | double
deriving DecidableEq, Repr

def FloatType.ofName? (name : List Char) : Option FloatType :=
  match String.ofList name with
  | "f32" => some single
  | "f64" => some double
  | _ => none

/-- What may follow a float: nothing, or the name of a type. -/
def floatEnd? : List Char → Option (Option FloatType)
  | [] => some none
  | name => (FloatType.ofName? name).map some

def special? (negative : Bool) : List Char → Option (Numeral × Option FloatType)
  | 'i' :: 'n' :: 'f' :: rest => (floatEnd? rest).map fun t => (.infinite negative, t)
  | 'N' :: 'a' :: 'N' :: rest => (floatEnd? rest).map fun t => (.nan, t)
  | _ => none

def isFloatChar (c : Char) : Bool :=
  isDigit c || c == 'e' || c == 'E' || c == '.' || c == '+' || c == '-' || c == '_'

/-- Removes underscores. One may stand behind a digit or an exponent letter, with signs not
counted; `allowed` tells whether one may stand here. -/
def dropUnderscores (allowed : Bool) : List Char → Option (List Char)
  | [] => some []
  | '_' :: rest => if allowed then dropUnderscores true rest else none
  | c :: rest =>
    let allowed := if c = '.' then false else allowed || isDigit c || c == 'e' || c == 'E'
    (dropUnderscores allowed rest).map (c :: ·)

def readFloat? (cs : List Char) : Option (Numeral × Option FloatType) :=
  let (negative, body) := splitSign cs
  match special? negative body with
  | some x => some x
  | none => do
    let digits ← dropUnderscores false (cs.takeWhile isFloatChar)
    return (← readNumeral? digits, ← floatEnd? (cs.dropWhile isFloatChar))

/-- Reads the single nearest to a number. One that names a type must be named a single. -/
def readSingle? (cs : List Char) : Option Float32 := do
  let (n, named) ← readFloat? cs
  if named.all (· = .single) then some n.toSingle else none

/-- Whether a token is a number of some type. A whole number too large for 64 bits still counts
as a float. -/
def isNumeral (cs : List Char) : Bool :=
  (readWhole? cs).any (fun n => (WholeType.signed 64).contains n.1 ||
      (WholeType.unsigned 64).contains n.1) ||
    (readFloat? cs).isSome

end SkillScript.Ron
