/-!
# Whole numbers in decimal

A numeral is an optional sign and at least one ASCII digit. Leading zeros are
allowed, blanks and underscores are not. Signed numbers take either sign,
unsigned numbers only a plus.
-/
set_option autoImplicit false
namespace SkillScript.Text

def isDigit (c : Char) : Bool :=
  '0' ≤ c && c ≤ '9'

def digitValue (c : Char) : Nat :=
  c.toNat - '0'.toNat

def digitsValue (cs : List Char) : Nat :=
  cs.foldl (fun n c => 10 * n + digitValue c) 0

def readDigits? (cs : List Char) : Option Nat :=
  if !cs.isEmpty && cs.all isDigit then some (digitsValue cs) else none

/-- Splits off a leading sign; the first component tells whether it was a minus. -/
def splitSign : List Char → Bool × List Char
  | '+' :: rest => (false, rest)
  | '-' :: rest => (true, rest)
  | cs => (false, cs)

def readSigned? (cs : List Char) : Option Int :=
  let (negative, rest) := splitSign cs
  (readDigits? rest).map fun n => if negative then -(n : Int) else n

def readUnsigned? : List Char → Option Nat
  | '+' :: rest => readDigits? rest
  | cs => readDigits? cs

def readInt32? (cs : List Char) : Option Int32 :=
  (readSigned? cs).bind fun n =>
    if -2147483648 ≤ n ∧ n ≤ 2147483647 then some (Int32.ofInt n) else none

def readInt64? (cs : List Char) : Option Int64 :=
  (readSigned? cs).bind fun n =>
    if -9223372036854775808 ≤ n ∧ n ≤ 9223372036854775807 then some (Int64.ofInt n) else none

def readUInt32? (cs : List Char) : Option UInt32 :=
  (readUnsigned? cs).bind fun n =>
    if n < 4294967296 then some (UInt32.ofNat n) else none

end SkillScript.Text
