import SkillScript.Number.Decimal
import SkillScript.Text.Scan
import SkillScript.Toml.Item
import SkillScript.Toml.Quoted
/-!
# Numbers, dates and times of settings

Whole numbers are decimal, with a sign and without leading zeros, or carry a base
and no sign. Floats have digits on both sides of the point. Underscores may stand
between digits only. Dates and times of day are checked against the calendar.
-/
set_option autoImplicit false
namespace SkillScript.Toml

open SkillScript.Text
open SkillScript.Number

/-- The digits of a run in which underscores stand between digits only. -/
def ungroup? (isDigit : Char → Bool) : List Char → Option (List Char)
  | [] => none
  | [c] => if isDigit c then some [c] else none
  | c :: '_' :: rest => if isDigit c then (ungroup? isDigit rest).map (c :: ·) else none
  | c :: rest => if isDigit c then (ungroup? isDigit rest).map (c :: ·) else none

def inBase? (base : Nat) (cs : List Char) : Option Nat := do
  let digits ← ungroup? (fun c => (hexDigit? c).any (· < base)) cs
  digits.foldlM (fun n c => (hexDigit? c).map (base * n + ·)) 0

/-- Digits of a decimal whole number: no zero stands in front of others. -/
def decimal? (cs : List Char) : Option (List Char) := do
  match ← ungroup? isDigit cs with
  | '0' :: _ :: _ => none
  | digits => some digits

/-- Whole numbers are kept within 128 bits. -/
def fitsWhole (n : Int) : Bool :=
  -Int.pow 2 127 ≤ n && n < Int.pow 2 128

def whole? (cs : List Char) : Option Int :=
  let n? : Option Int :=
    match cs with
    | '0' :: 'x' :: digits => (inBase? 16 digits).map Int.ofNat
    | '0' :: 'o' :: digits => (inBase? 8 digits).map Int.ofNat
    | '0' :: 'b' :: digits => (inBase? 2 digits).map Int.ofNat
    | cs =>
      let (negative, body) := splitSign cs
      (decimal? body).map fun digits =>
        if negative then -(digitsValue digits : Int) else digitsValue digits
  n?.filter fitsWhole

def exponentOf? (cs : List Char) : Option Int :=
  let (negative, body) := splitSign cs
  (ungroup? isDigit body).map fun digits =>
    if negative then -(digitsValue digits : Int) else digitsValue digits

/-- A number with a point, an exponent, or both. -/
def fractional? (negative : Bool) (cs : List Char) : Option Numeral := do
  let isMark (c : Char) : Bool := c == 'e' || c == 'E'
  let mantissa := cs.takeWhile fun c => !isMark c
  let exponent ←
    match cs.dropWhile fun c => !isMark c with
    | [] => if mantissa.contains '.' then some 0 else none
    | _ :: rest => exponentOf? rest
  let front ← decimal? (mantissa.takeWhile (· ≠ '.'))
  let tenths ←
    match mantissa.dropWhile (· ≠ '.') with
    | [] => some []
    | _ :: rest => ungroup? isDigit rest
  return .decimal negative (digitsValue (front ++ tenths)) (exponent - tenths.length)

/-- Reads the nearest double. A decimal too large for one is refused. -/
def real? (cs : List Char) : Option Float :=
  let (negative, body) := splitSign cs
  match String.ofList body with
  | "inf" => some (Numeral.infinite negative).toDouble
  | "nan" => some Numeral.nan.toDouble
  | _ => (fractional? negative body).bind fun n =>
    let x := n.toDouble
    if x.isInf then none else some x

def digits? (count : Nat) (cs : List Char) : Option (Nat × List Char) :=
  let digits := cs.take count
  if digits.length = count && digits.all isDigit then some (digitsValue digits, cs.drop count)
  else none

def isLeapYear (year : Nat) : Bool :=
  year % 4 = 0 && (year % 100 ≠ 0 || year % 400 = 0)

def daysIn (year month : Nat) : Nat :=
  if month = 2 then (if isLeapYear year then 29 else 28)
  else if month = 4 || month = 6 || month = 9 || month = 11 then 30
  else 31

def afterChar? (accepted : List Char) : List Char → Option (List Char)
  | c :: rest => if accepted.contains c then some rest else none
  | [] => none

def date? (cs : List Char) : Option (List Char) := do
  let (year, cs) ← digits? 4 cs
  let (month, cs) ← digits? 2 (← afterChar? ['-'] cs)
  let (day, cs) ← digits? 2 (← afterChar? ['-'] cs)
  if 1 ≤ month ∧ month ≤ 12 ∧ 1 ≤ day ∧ day ≤ daysIn year month then some cs else none

def clock? (cs : List Char) : Option (List Char) := do
  let (hour, cs) ← digits? 2 cs
  let (minute, cs) ← digits? 2 (← afterChar? [':'] cs)
  let (second, cs) ← digits? 2 (← afterChar? [':'] cs)
  if 23 < hour ∨ 59 < minute ∨ 60 < second then none
  else
    match cs with
    | '.' :: rest => if (rest.takeWhile isDigit).isEmpty then none else some (rest.dropWhile isDigit)
    | cs => some cs

/-- The text behind the distance from the meridian, if one is given. -/
def offset? : List Char → Option (List Char)
  | [] => some []
  | c :: rest =>
    if c = 'Z' || c = 'z' then some rest
    else if c = '+' || c = '-' then do
      let (hour, cs) ← digits? 2 rest
      let (minute, cs) ← digits? 2 (← afterChar? [':'] cs)
      if 23 < hour ∨ 59 < minute then none else some cs
    else none

/-- Whether a token is a date, a time of day, or both. -/
def isTime (cs : List Char) : Bool :=
  clock? cs = some [] ||
    match date? cs with
    | none => false
    | some [] => true
    | some (c :: rest) =>
      (c = 'T' || c = 't' || c = ' ') && ((clock? rest).bind offset?) = some []

def scalar? (token : List Char) : Option Item :=
  let word := String.ofList token
  if word = "true" then some (.truth true)
  else if word = "false" then some (.truth false)
  else if isTime token then some (.time word)
  else
    match whole? token with
    | some n => some (.whole n)
    | none => (real? token).map .real

end SkillScript.Toml
