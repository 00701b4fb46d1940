import Mathlib
import SkillScript.Number.Order
/-!
# What is not positive stays so

Taking something that is not negative from a single that is not positive leaves one
that is not positive, whatever is rounded: zeros, infinities and NaNs included. A
single counts as positive if it is more than zero, and a NaN is neither positive nor
negative.
-/
set_option autoImplicit false
namespace SkillScript.Number

open Float.Model Float.Model.UnpackedFloat

/-! ## Unpacked numbers -/

def Signed (s : Sign) : UnpackedFloat → Prop
  | .infinity t => t = s
  | .finite t _ _ _ => t = s
  | _ => False

/-- The sign of what was packed. -/
theorem sign_of_signed {spec : Format} {s : Sign} {b : BitVec spec.numBits}
    (signed : Signed s (UnpackedFloat.unpack spec b)) : Sign.ofBitVec (unpackSign b) = s := by
  simp only [UnpackedFloat.unpack] at signed
  split at signed
  · split at signed
    · exact signed
    · exact signed.elim
  · split at signed
    · split at signed
      · exact signed.elim
      · exact signed
    · exact signed

theorem sign_packComponents {spec : Format} {s t : Sign} {e : BitVec spec.exponentBits}
    {m : BitVec spec.mantissaBitsWithoutImplicit}
    (signed : Signed s (UnpackedFloat.unpack spec (packComponents spec t e m))) : t = s := by
  have same := sign_of_signed signed
  rwa [unpackSign_packComponents, Sign.ofBitVec_toBitVec] at same

/-- Packing does not make a number positive. -/
theorem signed_of_pack {s : Sign} {f : UnpackedFloat}
    (signed : Signed s (UnpackedFloat.unpack .binary32 (UnpackedFloat.pack .binary32 f))) :
    Signed s f := by
  cases f with
  | notANumber => exact signed
  | zero t => cases t <;> exact signed
  | infinity t => exact sign_packComponents signed
  | finite t m e positive =>
    simp only [UnpackedFloat.pack] at signed
    split at signed
    · exact sign_packComponents signed
    · split at signed
      · exact sign_packComponents signed
      · exact sign_packComponents signed

theorem zero_compare {s : Sign} {f : UnpackedFloat} :
    (UnpackedFloat.zero s).lt f = true ↔ Signed .positive f := by
  cases f with
  | notANumber => simp [UnpackedFloat.lt, UnpackedFloat.compare, Signed]
  | zero t => simp [UnpackedFloat.lt, UnpackedFloat.compare, Signed]
  | infinity t => cases t <;> simp [UnpackedFloat.lt, UnpackedFloat.compare, Signed]
  | finite t m e positive =>
    cases t <;> simp [UnpackedFloat.lt, UnpackedFloat.compare, Signed]

theorem lt_zero_compare {s : Sign} {f : UnpackedFloat} :
    f.lt (UnpackedFloat.zero s) = true ↔ Signed .negative f := by
  cases f with
  | notANumber => simp [UnpackedFloat.lt, UnpackedFloat.compare, Signed]
  | zero t => simp [UnpackedFloat.lt, UnpackedFloat.compare, Signed]
  | infinity t => cases t <;> simp [UnpackedFloat.lt, UnpackedFloat.compare, Signed]
  | finite t m e positive =>
    cases t <;> simp [UnpackedFloat.lt, UnpackedFloat.compare, Signed]

/-- What has no sign is zero, unless it is no number. -/
theorem beq_zero_of_unsigned {s : Sign} {f : UnpackedFloat} (number : f.isNaN = false)
    (nonpos : ¬ Signed .positive f) (nonneg : ¬ Signed .negative f) :
    f.beq (UnpackedFloat.zero s) = true := by
  cases f with
  | notANumber => cases number
  | zero t => rfl
  | infinity t => cases t <;> simp [Signed] at nonpos nonneg
  | finite t m e positive => cases t <;> simp [Signed] at nonpos nonneg

/-! ## Differences -/

theorem sign_round {spec : Format} {s t : Sign} {mantissa : Nat} {exponent : Int}
    (signed : Signed s (UnpackedFloat.round spec t mantissa exponent)) : t = s := by
  simp only [UnpackedFloat.round, roundWithAccuracy] at signed
  split at signed
  · exact signed.elim
  · exact signed

theorem normalize_of_nonpos (spec : Format) {mantissa : Int} (nonpos : mantissa ≤ 0)
    (exponent : Int) (s : Sign) :
    ¬ Signed .positive (UnpackedFloat.normalize spec mantissa exponent s) := by
  intro signed
  simp only [UnpackedFloat.normalize] at signed
  split at signed
  · have signs : Sign.negative = Sign.positive := sign_round signed
    cases signs
  · exact signed
  · rename_i more
    have more : 0 < mantissa := Int.compare_eq_gt.mp more
    omega

/-- What is not positive less what is not negative is not positive. -/
theorem sub_of_nonpos (spec : Format) {x y : UnpackedFloat} (nonpos : ¬ Signed .positive x)
    (nonneg : ¬ Signed .negative y) : ¬ Signed .positive (x.sub spec y) := by
  intro signed
  cases x with
  | notANumber => exact signed
  | infinity s =>
    cases s with
    | positive => exact nonpos rfl
    | negative =>
      cases y with
      | notANumber => exact signed
      | infinity t => cases t <;> cases signed
      | zero t => cases signed
      | finite t m e positive => cases signed
  | zero s =>
    cases y with
    | notANumber => exact signed
    | infinity t =>
      cases t with
      | positive => cases signed
      | negative => exact nonneg rfl
    | zero t => cases s <;> cases t <;> exact signed
    | finite t m e positive =>
      cases t with
      | positive => cases signed
      | negative => exact nonneg rfl
  | finite s m e positive =>
    cases s with
    | positive => exact nonpos rfl
    | negative =>
      cases y with
      | notANumber => exact signed
      | infinity t =>
        cases t with
        | positive => cases signed
        | negative => exact nonneg rfl
      | zero t => cases signed
      | finite t m' e' positive' =>
        cases t with
        | negative => exact nonneg rfl
        | positive =>
          -- Both mantissas count down, so that of the difference is negative before it is rounded.
          refine normalize_of_nonpos spec ?_ _ _ signed
          have left := Int.natCast_nonneg (decreaseExponent m e (min e e')).1
          have right := Int.natCast_nonneg (decreaseExponent m' e' (min e e')).1
          exact Int.sub_nonpos_of_le (Int.le_trans (Int.neg_nonpos_of_nonneg left) right)

/-! ## Singles -/

theorem unpack_zero : (0 : Float32).toModel.unpack = .zero .positive :=
  rfl

theorem zero_lt_iff (x : Float32) : 0 < x ↔ Signed .positive x.toModel.unpack := by
  have compared : 0 < x ↔ (0 : Float32).toModel.unpack.lt x.toModel.unpack = true :=
    decide_eq_true_iff
  rw [compared, unpack_zero, zero_compare]

theorem lt_zero_iff (x : Float32) : x < 0 ↔ Signed .negative x.toModel.unpack := by
  have compared : x < 0 ↔ x.toModel.unpack.lt (0 : Float32).toModel.unpack = true :=
    decide_eq_true_iff
  rw [compared, unpack_zero, lt_zero_compare]

theorem unpack_sub (x y : Float32) :
    (x - y).toModel.unpack =
      UnpackedFloat.unpack .binary32
        (UnpackedFloat.pack .binary32 (x.toModel.unpack.sub .binary32 y.toModel.unpack)) :=
  rfl

theorem not_zero_lt_sub {x y : Float32} (nonpos : ¬ 0 < x) (nonneg : ¬ y < 0) :
    ¬ 0 < x - y := by
  rw [zero_lt_iff] at nonpos ⊢
  rw [lt_zero_iff] at nonneg
  rw [unpack_sub]
  intro signed
  exact sub_of_nonpos .binary32 nonpos nonneg (signed_of_pack signed)

/-! ## Negative numbers counted as zero -/

theorem atLeastZero_cases (x : Float32) :
    atLeastZero x = 0 ∨ atLeastZero x = x ∧ ¬ x < 0 := by
  rw [atLeastZero, maxNum]
  by_cases nan : x.isNaN = true
  · left
    rw [if_pos nan]
  · have zero : ¬ (0 : Float32).isNaN = true := by decide
    rw [if_neg nan, if_neg zero]
    by_cases less : x < 0
    · left
      rw [if_pos less]
    · right
      rw [if_neg less]
      exact ⟨rfl, less⟩

theorem not_atLeastZero_lt (x : Float32) : ¬ atLeastZero x < 0 := by
  rcases atLeastZero_cases x with zero | ⟨same, nonneg⟩
  · rw [zero]
    decide
  · rw [same]
    exact nonneg

theorem not_zero_lt_atLeastZero {x : Float32} (nonpos : ¬ 0 < x) : ¬ 0 < atLeastZero x := by
  rcases atLeastZero_cases x with zero | ⟨same, -⟩
  · rw [zero]
    decide
  · rw [same]
    exact nonpos

structure Proper (x : Float32) : Prop where
  number : x.isNaN = false
  nonneg : ¬ x < 0

theorem proper_zero : Proper 0 where
  number := by decide
  nonneg := by decide

theorem proper_atLeastZero (x : Float32) : Proper (atLeastZero x) := by
  refine ⟨?_, not_atLeastZero_lt x⟩
  by_cases nan : x.isNaN = true
  · have zero : atLeastZero x = 0 := by rw [atLeastZero, maxNum, if_pos nan]
    rw [zero]
    exact proper_zero.number
  · rcases atLeastZero_cases x with zero | ⟨same, -⟩
    · rw [zero]
      exact proper_zero.number
    · rw [same]
      exact Bool.eq_false_iff.mpr nan

/-- A proper single that is not positive is a zero. -/
theorem Proper.beq_zero {x : Float32} (proper : Proper x) (nonpos : ¬ 0 < x) :
    (x == 0) = true := by
  have nonneg := proper.nonneg
  rw [zero_lt_iff] at nonpos
  rw [lt_zero_iff] at nonneg
  exact beq_zero_of_unsigned proper.number nonpos nonneg

end SkillScript.Number
