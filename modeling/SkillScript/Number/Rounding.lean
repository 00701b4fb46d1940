/-!
# Rounding between number formats

A single precision number is read as a sign, a mantissa and a power of two.
From these parts it is widened to double precision without loss, a double is
narrowed to the nearest single, and a single is turned into a 32-bit whole
number: cut off toward zero, or rounded with halves going away from zero. Whole
numbers outside the 32-bit range stop at its ends, and a NaN counts as zero.
-/
set_option autoImplicit false
namespace SkillScript.Number

open Float.Model

def parts (x : Float32) : UnpackedFloat :=
  UnpackedFloat.unpack Format.binary32 x.toBits.toBitVec

/-- The same number in double precision. Every single is also a double, so nothing is rounded. -/
def widen (x : Float32) : Float :=
  match parts x with
  | .finite s m e _ => Float.ofModel (Float.Model.pack (UnpackedFloat.round Format.binary64 s m e))
  | special => Float.ofModel (Float.Model.pack special)

/-- The single nearest to a double; a tie goes to the even mantissa. -/
def narrow (x : Float) : Float32 :=
  match UnpackedFloat.unpack Format.binary64 x.toBits.toBitVec with
  | .finite s m e _ =>
    Float32.ofModel (Float32.Model.pack (UnpackedFloat.round Format.binary32 s m e))
  | special => Float32.ofModel (Float32.Model.pack special)

/-- The least and the greatest 32-bit whole number. -/
def least32 : Int := -2147483648

@[inherit_doc least32]
def greatest32 : Int := 2147483647

/-- The 32-bit whole number closest to `n`. -/
def saturate (n : Int) : Int32 :=
  if n < least32 then Int32.ofInt least32
  else if greatest32 < n then Int32.ofInt greatest32
  else Int32.ofInt n

/-- `m * 2 ^ e` as a fraction: numerator and denominator. -/
def fraction (m : Nat) (e : Int) : Nat × Nat :=
  (m * Nat.pow 2 e.toNat, Nat.pow 2 (-e).toNat)

def signed (s : UnpackedFloat.Sign) (n : Nat) : Int :=
  match s with
  | .positive => n
  | .negative => -n

/-- The whole number obtained from a single by rounding its magnitude with `round`. -/
def wholeBy (round : Nat → Nat → Nat) (x : Float32) : Int32 :=
  match parts x with
  | .notANumber => 0
  | .zero _ => 0
  | .infinity .positive => saturate (greatest32 + 1)
  | .infinity .negative => saturate (least32 - 1)
  | .finite s m e _ =>
    let (num, den) := fraction m e
    saturate (signed s (round num den))

def truncate : Float32 → Int32 :=
  wholeBy fun num den => num / den

/-- Rounds to the nearest whole number, halves away from zero. -/
def roundAway : Float32 → Int32 :=
  wholeBy fun num den => (2 * num + den) / (2 * den)

/-- The single nearest to a whole number. -/
def ofWhole (n : Int32) : Float32 :=
  Float32.ofInt n.toInt

end SkillScript.Number
