import SkillScript.Number.Rounding
/-!
# The shortest decimal of a single

Of the decimals that round to a given single, the shortest has the fewest
digits, and among those it lies nearest to the single. It is found by trying the
powers of ten from the largest down: on each grid only the two multiples next to
the number can round to it.
-/
set_option autoImplicit false
namespace SkillScript.Number

open Float.Model

/-- The numbers that round to one single: the fractions between `low` and `high` over
`denominator`, with the ends exactly when `closed`. The single itself is `middle`. -/
structure Cell where
  low : Nat
  middle : Nat
  high : Nat
  denominator : Nat
  closed : Bool
deriving DecidableEq, Repr

/-- The cell of `m * 2 ^ e`. Below a power of two the neighbour is only half as far away,
unless the exponent is already the least one. -/
def Cell.of (m : Nat) (e : Int) : Cell :=
  let below := if m = Nat.pow 2 23 ∧ -149 < e then 1 else 2
  let (scale, denominator) := fraction 1 (e - 2)
  { low := (4 * m - below) * scale
    middle := 4 * m * scale
    high := (4 * m + 2) * scale
    denominator := denominator
    closed := m % 2 = 0 }

def Cell.inUnits (c : Cell) (j : Int) : Cell :=
  let up := Nat.pow 10 (-j).toNat
  { c with
    low := c.low * up
    middle := c.middle * up
    high := c.high * up
    denominator := c.denominator * Nat.pow 10 j.toNat }

def Cell.contains (c : Cell) (d : Nat) : Bool :=
  let n := d * c.denominator
  if c.closed then c.low ≤ n && n ≤ c.high else c.low < n && n < c.high

/-- The whole number in the cell nearest to its middle, if it holds one. -/
def Cell.nearest? (c : Cell) : Option Nat :=
  let below := c.middle / c.denominator
  let above := below + 1
  match 0 < below && c.contains below, c.contains above with
  | false, false => none
  | true, false => some below
  | false, true => some above
  | true, true =>
    let toBelow := c.middle - below * c.denominator
    let toAbove := above * c.denominator - c.middle
    if toBelow < toAbove then some below
    else if toAbove < toBelow then some above
    else some (if below % 2 = 0 then below else above)

def Cell.search (c : Cell) : Nat → Int → Nat × Int
  | 0, j => (0, j)
  | fuel + 1, j =>
    match (c.inUnits j).nearest? with
    | some d => (d, j)
    | none => c.search fuel (j - 1)

/-- Digits and power of ten of the shortest decimal of `m * 2 ^ e`. A single is less than
`10 ^ 39`, and a grid of `10 ^ -45` meets every cell. -/
def shortest (m : Nat) (e : Int) : Nat × Int :=
  (Cell.of m e).search 90 39

def decimalDigits (n : Nat) : List Char :=
  Nat.toDigits 10 n

/-- Writes `digits * 10 ^ j` with a point where needed and no exponent. -/
def positional (digits : List Char) (j : Int) : List Char :=
  if 0 ≤ j then digits ++ List.replicate j.toNat '0'
  else
    let places := (-j).toNat
    if places < digits.length then
      digits.take (digits.length - places) ++ '.' :: digits.drop (digits.length - places)
    else '0' :: '.' :: List.replicate (places - digits.length) '0' ++ digits

/-- A minus sign for negative numbers, zero included. -/
def signChars : UnpackedFloat.Sign → List Char
  | .positive => []
  | .negative => ['-']

/-- The text of a single: the shortest decimal that reads back, never with an exponent. -/
def display (x : Float32) : String :=
  String.ofList <|
    match parts x with
    | .notANumber => ['N', 'a', 'N']
    | .infinity s => signChars s ++ ['i', 'n', 'f']
    | .zero s => signChars s ++ ['0']
    | .finite s m e _ =>
      let (d, j) := shortest m e
      signChars s ++ positional (decimalDigits d) j

end SkillScript.Number
