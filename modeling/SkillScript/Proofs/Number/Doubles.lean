import SkillScript.Proofs.Number.Nearest
/-!
# Whole numbers as doubles

A double has room for 53 binary digits. So a whole number that has no more of them is
turned into a double without loss, every single is also a double, and the doubles of
whole numbers are compared as the numbers are.
-/
set_option autoImplicit false
namespace SkillScript.Number

open Float.Model Float.Model.UnpackedFloat

/-- The unpacked doubles that stand for a whole number of at most 53 binary digits: behind the
digits of the number stand zeros up to the last one there is room for. -/
inductive StandsFor : Int → UnpackedFloat → Prop where
  | zero (s : Sign) : StandsFor 0 (.zero s)
  | whole (s : Sign) {w : Nat} (some : 0 < w) (small : w < 2 ^ 53)
      (pos : 0 < w * 2 ^ (52 - w.log2)) :
      StandsFor (signed s w) (.finite s (w * 2 ^ (52 - w.log2)) ((w.log2 : Int) - 52) pos)

/-! ## Order -/

theorem lt_of_log2_lt {w w' : Nat} (some : 0 < w) (some' : 0 < w') (less : w.log2 < w'.log2) :
    w < w' := by
  have digits := (Nat.log2_eq_iff some.ne').mp rfl
  have digits' := (Nat.log2_eq_iff some'.ne').mp rfl
  exact digits.2.trans_le ((Nat.pow_le_pow_right (by decide) less).trans digits'.1)

/-- The exponents tell which number has more digits, the mantissas which is the greater of two
with as many. -/
theorem compare_digits {w w' : Nat} (some : 0 < w) (some' : 0 < w') :
    (compare ((w.log2 : Int) - 52) ((w'.log2 : Int) - 52)).then
      (compare (w * 2 ^ (52 - w.log2)) (w' * 2 ^ (52 - w'.log2))) = compare w w' := by
  rcases Nat.lt_trichotomy w.log2 w'.log2 with less | same | more
  · rw [compare_lt_iff_lt.mpr (by omega : (w.log2 : Int) - 52 < (w'.log2 : Int) - 52),
      compare_lt_iff_lt.mpr (lt_of_log2_lt some some' less)]
    rfl
  · rw [same, compare_eq_iff_eq.mpr rfl, compare_mul_right (Nat.two_pow_pos _)]
    rfl
  · rw [compare_gt_iff_gt.mpr (by omega : (w'.log2 : Int) - 52 < (w.log2 : Int) - 52),
      compare_gt_iff_gt.mpr (lt_of_log2_lt some' some more)]
    rfl

theorem compare_neg (a b : Int) : compare (-a) (-b) = (compare a b).swap := by
  have anti : StrictAnti (Neg.neg : Int → Int) := fun _ _ less => Int.neg_lt_neg less
  rw [← cmp_eq_compare, ← cmp_eq_compare, cmp_swap, anti.cmp_map_eq]

theorem StandsFor.compare_eq {a b : Int} {f g : UnpackedFloat} (left : StandsFor a f)
    (right : StandsFor b g) : f.compare g = some (compare a b) := by
  cases left with
  | zero s =>
    cases right with
    | zero t => rfl
    | whole t some' small' pos' =>
      cases t with
      | positive => rw [compare_lt_iff_lt.mpr (by simpa [signed] using some')]; rfl
      | negative => rw [compare_gt_iff_gt.mpr (by simpa [signed] using some')]; rfl
  | @whole s w some small pos =>
    cases right with
    | zero t =>
      cases s with
      | positive => rw [compare_gt_iff_gt.mpr (by simpa [signed] using some)]; rfl
      | negative => rw [compare_lt_iff_lt.mpr (by simpa [signed] using some)]; rfl
    | @whole t w' some' small' pos' =>
      have digits := compare_digits some some'
      cases s with
      | positive =>
        cases t with
        | positive =>
          rw [signed, signed, compare_map Nat.strictMono_cast, ← digits]
          rfl
        | negative =>
          rw [compare_gt_iff_gt.mpr (by simp only [signed]; omega)]
          rfl
      | negative =>
        cases t with
        | positive =>
          rw [compare_lt_iff_lt.mpr (by simp only [signed]; omega)]
          rfl
        | negative =>
          rw [signed, signed, compare_neg, compare_map Nat.strictMono_cast, ← digits]
          rfl

section Compared

variable {x y : Float} {a b : Int} (left : StandsFor a x.toModel.unpack)
  (right : StandsFor b y.toModel.unpack)
include left right

theorem float_lt_iff : x < y ↔ a < b := by
  have compared : x < y ↔ x.toModel.unpack.lt y.toModel.unpack = true := decide_eq_true_iff
  rw [compared, UnpackedFloat.lt, left.compare_eq right]
  simp [compare_lt_iff_lt]

theorem float_le_iff : x ≤ y ↔ a ≤ b := by
  have compared : x ≤ y ↔ x.toModel.unpack.le y.toModel.unpack = true := decide_eq_true_iff
  rw [compared, UnpackedFloat.le, left.compare_eq right]
  simp [Ordering.isLE_iff_ne_gt, compare_le_iff_le]

theorem float_beq_iff : (x == y) = true ↔ a = b := by
  have compared : (x == y) = x.toModel.unpack.beq y.toModel.unpack := rfl
  rw [compared, UnpackedFloat.beq, left.compare_eq right]
  simp

end Compared

/-! ## Packing and rounding -/

section Normal

variable {m : Nat} {e : Int} (full : 2 ^ 52 ≤ m) (small : m < 2 ^ 53)
include full small

theorem log2_of_full : m.log2 = 52 :=
  (Nat.log2_eq_iff (by omega)).mpr ⟨full, small⟩

/-- A double with all its digits is packed as it is, if its exponent is neither too small nor too
large. -/
theorem unpack_pack_double (least : -1074 ≤ e) (most : e ≤ 971) (pos : 0 < m) (s : Sign) :
    UnpackedFloat.unpack .binary64 (UnpackedFloat.pack .binary64 (.finite s m e pos)) =
      .finite s m e pos := by
  have bias : ((Format.binary64.exponentBias : Nat) : Int) = 1023 := rfl
  have digits : ((Format.binary64.mantissaBitsWithoutImplicit : Nat) : Int) = 52 := rfl
  have width : Format.binary64.mantissaBits = 53 := rfl
  have logarithm := log2_of_full full small
  obtain ⟨k, biased⟩ := Int.eq_ofNat_of_zero_le (show 0 ≤ e + 1023 + 52 by omega)
  have finite : ¬ 2 ^ 11 ≤ k + 1 := by omega
  have exponent : (BitVec.ofNat 11 k).toNat = k := by
    rw [BitVec.toNat_ofNat]
    omega
  have mantissa : 2 ^ 52 + (BitVec.ofNat 52 m).toNat = m := by
    rw [BitVec.toNat_ofNat]
    omega
  have number : BitVec.ofNat 11 k ≠ -1#11 := by
    intro same
    have last : (-1#11).toNat = 2047 := rfl
    rw [← same] at last
    omega
  have normal : BitVec.ofNat 11 k ≠ 0#11 := by
    intro same
    have first : (0#11).toNat = 0 := rfl
    rw [← same] at first
    omega
  have implicit := toNat_append_implicit (BitVec.ofNat 52 m)
  simp only [UnpackedFloat.pack, bias, digits, width, biased, Int.toNat_natCast, if_neg finite,
    logarithm, if_true]
  simp only [UnpackedFloat.unpack, unpackExponent_packComponents, unpackMantissa_packComponents,
    unpackSign_packComponents, Sign.ofBitVec_toBitVec, bias, digits]
  rw [if_neg number, if_neg normal, UnpackedFloat.finite.injEq]
  exact ⟨rfl, implicit.trans mantissa, by omega⟩

theorem roundWithAccuracy_double {a : Nat} (least : -1074 ≤ e + a) (pos : 0 < m) (s : Sign) :
    roundWithAccuracy .binary64 s (m * 2 ^ a) e .exact = .finite s m (e + a) pos := by
  have digits : ((Format.binary64.mantissaBits : Nat) : Int) = 53 := rfl
  have lowest : Format.binary64.minExponent = -1074 := rfl
  have logarithm := log2_of_full full small
  have target (c : Nat) (f : Int) (same : f + c = e + a) :
      Format.binary64.targetExponent (totalExponent (m * 2 ^ c) f) = e + a := by
    simp only [Format.targetExponent, totalExponent, digits, lowest, log2_mul_two_pow pos.ne',
      logarithm]
    omega
  have shift (c : Nat) (f : Int) (same : f + c = e + a) :
      shiftToTargetExponent .binary64 (m * 2 ^ c) f .exact = (⟨m, false, false⟩, e + a) := by
    have amount : (e + a - f).toNat = c := by omega
    simp only [shiftToTargetExponent, target c f same, shiftToExponent, amount, same,
      ExtendedMantissa.ofMantissaAndAccuracy, shiftRight_mul_two_pow]
  have again := shift 0 (e + a) (by simp)
  rw [pow_zero, Nat.mul_one] at again
  simp only [roundWithAccuracy, shift a e rfl, ExtendedMantissa.roundedMantissa,
    ExtendedMantissa.accuracy, Accuracy.roundToNearestEven, again]
  rw [dif_neg pos.ne']

end Normal

section Whole

variable {n : Nat} (some : 0 < n) (small : n < 2 ^ 53)
include some small

/-- With zeros behind it a number has all the digits that there is room for. -/
theorem filled_bounds : 2 ^ 52 ≤ n * 2 ^ (52 - n.log2) ∧ n * 2 ^ (52 - n.log2) < 2 ^ 53 := by
  have bounds := (Nat.log2_eq_iff some.ne').mp rfl
  have most : n.log2 < 53 := (Nat.log2_lt some.ne').mpr small
  constructor
  · calc 2 ^ 52 = 2 ^ n.log2 * 2 ^ (52 - n.log2) := by rw [← pow_add]; congr 1; omega
      _ ≤ n * 2 ^ (52 - n.log2) := Nat.mul_le_mul_right _ bounds.1
  · calc n * 2 ^ (52 - n.log2) < 2 ^ (n.log2 + 1) * 2 ^ (52 - n.log2) :=
        Nat.mul_lt_mul_of_pos_right bounds.2 (Nat.two_pow_pos _)
      _ = 2 ^ 53 := by rw [← pow_add]; congr 1; omega

/-- A number with no more digits than there is room for is not changed by rounding. -/
theorem round_double {e : Int} (least : -1022 ≤ (n.log2 : Int) + e)
    (pos : 0 < n * 2 ^ (52 - n.log2)) (s : Sign) :
    UnpackedFloat.round .binary64 s n e =
      .finite s (n * 2 ^ (52 - n.log2)) ((n.log2 : Int) + e - 52) pos := by
  have digits : ((Format.binary64.mantissaBits : Nat) : Int) = 53 := rfl
  have lowest : Format.binary64.minExponent = -1074 := rfl
  have most : n.log2 < 53 := (Nat.log2_lt some.ne').mpr small
  obtain ⟨full, short⟩ := filled_bounds some small
  have target : Format.binary64.targetExponent (totalExponent n e) = (n.log2 : Int) + e - 52 := by
    simp only [Format.targetExponent, totalExponent, digits, lowest]
    omega
  have lowered : decreaseExponent n e ((n.log2 : Int) + e - 52) =
      (n * 2 ^ (52 - n.log2), (n.log2 : Int) + e - 52) := by
    have amount : (e - ((n.log2 : Int) + e - 52)).toNat = 52 - n.log2 := by omega
    simp only [decreaseExponent, amount, Nat.shiftLeft_eq, Prod.mk.injEq, true_and]
    omega
  have rounded := roundWithAccuracy_double (a := 0) (e := (n.log2 : Int) + e - 52) full short
    (by omega) pos s
  rw [pow_zero, Nat.mul_one, Nat.cast_zero, Int.add_zero] at rounded
  simp only [UnpackedFloat.round, target, lowered]
  exact rounded

end Whole

/-! ## Turning whole numbers into doubles -/

theorem unpack_toFloat {n : Nat} (some : 0 < n) (small : n < 2 ^ 53)
    (pos : 0 < n * 2 ^ (52 - n.log2)) :
    n.toUInt64.toFloat.toModel.unpack =
      .finite .positive (n * 2 ^ (52 - n.log2)) ((n.log2 : Int) - 52) pos := by
  have unpacked : n.toUInt64.toFloat.toModel.unpack = UnpackedFloat.unpack .binary64
      (UnpackedFloat.pack .binary64
        (UnpackedFloat.normalize .binary64 n.toUInt64.toNat 0 .positive)) := rfl
  have whole : n.toUInt64.toNat = n := Nat.mod_eq_of_lt (by omega)
  have most : n.log2 < 53 := (Nat.log2_lt some.ne').mpr small
  obtain ⟨full, short⟩ := filled_bounds some small
  rw [unpacked, whole, normalize_of_pos some, round_double some small (by omega) pos, Int.add_zero,
    unpack_pack_double full short (by omega) (by omega)]

theorem standsFor_ofNat {n : Nat} (small : n < 2 ^ 53) :
    StandsFor n (Float.ofNat n).toModel.unpack := by
  rcases Nat.eq_zero_or_pos n with rfl | some
  · exact .zero .positive
  · have most : n.log2 < 53 := (Nat.log2_lt some.ne').mpr small
    obtain ⟨full, short⟩ := filled_bounds some small
    have pos : 0 < n * 2 ^ (52 - n.log2) := by omega
    have form : Float.ofNat n = n.toUInt64.toFloat * Float.ofBits 0x3FF0000000000000 :=
      dif_pos ⟨small, by decide⟩
    have unit : (Float.ofBits 0x3FF0000000000000).toModel.unpack =
        .finite .positive (2 ^ 52) (-52) (by decide) := rfl
    have unpacked : (n.toUInt64.toFloat * Float.ofBits 0x3FF0000000000000).toModel.unpack =
        UnpackedFloat.unpack .binary64 (UnpackedFloat.pack .binary64
          (n.toUInt64.toFloat.toModel.unpack.mul .binary64
            (Float.ofBits 0x3FF0000000000000).toModel.unpack)) := rfl
    have exponent : (n.log2 : Int) - 52 + -52 + ((52 : Nat) : Int) = (n.log2 : Int) - 52 := by omega
    have product := roundWithAccuracy_double (a := 52) (e := (n.log2 : Int) - 52 + -52) full short
      (by omega) pos (.positive * .positive)
    have both : (n.toUInt64.toFloat.toModel.unpack.mul .binary64
        (Float.ofBits 0x3FF0000000000000).toModel.unpack) =
          .finite .positive (n * 2 ^ (52 - n.log2)) ((n.log2 : Int) - 52) pos := by
      rw [unit, unpack_toFloat some small pos]
      refine product.trans ?_
      rw [exponent]
      rfl
    rw [form, unpacked, both, unpack_pack_double full short (by omega) (by omega)]
    exact .whole .positive some small pos

/-- What stands for a whole number is packed as it is. -/
theorem StandsFor.unpack_pack {a : Int} {f : UnpackedFloat} (stands : StandsFor a f) :
    UnpackedFloat.unpack .binary64 (UnpackedFloat.pack .binary64 f) = f := by
  cases stands with
  | zero s => exact unpack_packedZero
  | whole s some small pos =>
    have most := (Nat.log2_lt some.ne').mpr small
    obtain ⟨full, short⟩ := filled_bounds some small
    exact unpack_pack_double full short (by omega) (by omega) pos s

theorem StandsFor.neg {a : Int} {f : UnpackedFloat} (stands : StandsFor a f) :
    StandsFor (-a) f.neg := by
  cases stands with
  | zero s => exact .zero _
  | @whole s w some small pos =>
    cases s with
    | positive => exact .whole .negative some small pos
    | negative =>
      have twice : -signed .negative w = signed .positive w := by simp [signed]
      rw [twice]
      exact .whole .positive some small pos

/-- A whole number that is not too large is turned into a double without loss. -/
theorem standsFor_ofInt {v : Int} (small : v.natAbs < 2 ^ 53) :
    StandsFor v (Float.ofInt v).toModel.unpack := by
  cases v with
  | ofNat n => exact standsFor_ofNat small
  | negSucc n =>
    have negated := (standsFor_ofNat (n := n + 1) (by omega)).neg
    have unpacked : (Float.ofInt (.negSucc n)).toModel.unpack = UnpackedFloat.unpack .binary64
        (UnpackedFloat.pack .binary64 (Float.ofNat (n + 1)).toModel.unpack.neg) := rfl
    rw [unpacked, negated.unpack_pack]
    exact negated

/-! ## Singles as doubles -/

/-- A single that is a whole number stands for it also as a double. -/
theorem standsFor_widen {x : Float32} {s : Sign} {m k w : Nat} {pos : 0 < m}
    (form : x.toModel.unpack = .finite s m ((k : Int) - 149) pos) (short : m < 2 ^ 24)
    (same : m * 2 ^ k = w * one) (small : w < 2 ^ 53) :
    StandsFor (signed s w) (widen x).toModel.unpack := by
  have some : 0 < w := by
    rcases Nat.eq_zero_or_pos w with rfl | some
    · rw [Nat.zero_mul] at same
      exact absurd same (by positivity)
    · exact some
  have digits : m.log2 + k = w.log2 + 149 := by
    rw [← log2_mul_two_pow pos.ne', same, one, log2_mul_two_pow some.ne']
  have few : m.log2 < 24 := (Nat.log2_lt pos.ne').mpr short
  have most : w.log2 < 53 := (Nat.log2_lt some.ne').mpr small
  -- Both mantissas are filled up to the last digit, so they are the same.
  have filled : m * 2 ^ (52 - m.log2) = w * 2 ^ (52 - w.log2) := by
    refine Nat.eq_of_mul_eq_mul_right (Nat.two_pow_pos k) ?_
    have exponents : 149 + (52 - m.log2) = 52 - w.log2 + k := by omega
    calc m * 2 ^ (52 - m.log2) * 2 ^ k = m * 2 ^ k * 2 ^ (52 - m.log2) := by ring
      _ = w * 2 ^ (149 + (52 - m.log2)) := by rw [same, one, Nat.mul_assoc, ← pow_add]
      _ = w * 2 ^ (52 - w.log2) * 2 ^ k := by rw [exponents, pow_add, Nat.mul_assoc]
  obtain ⟨full, small'⟩ := filled_bounds some small
  have rounded := round_double (n := m) (e := (k : Int) - 149) pos (by omega) (by omega)
    (by positivity) s
  have exponent : (m.log2 : Int) + ((k : Int) - 149) - 52 = (w.log2 : Int) - 52 := by omega
  have unpacked : (widen x).toModel.unpack = UnpackedFloat.unpack .binary64
      (UnpackedFloat.pack .binary64 (UnpackedFloat.round .binary64 s m ((k : Int) - 149))) := by
    have parted : parts x = .finite s m ((k : Int) - 149) pos := form
    rw [widen, parted]
    rfl
  have stands : StandsFor (signed s w)
      (UnpackedFloat.round .binary64 s m ((k : Int) - 149)) := by
    rw [rounded]
    simp only [filled, exponent]
    exact .whole s some small (by omega)
  rw [unpacked, stands.unpack_pack]
  exact stands

theorem standsFor_widen_zero {x : Float32} {s : Sign} (form : x.toModel.unpack = .zero s) :
    StandsFor 0 (widen x).toModel.unpack := by
  have parted : parts x = .zero s := form
  have unpacked : (widen x).toModel.unpack = UnpackedFloat.unpack .binary64
      (UnpackedFloat.pack .binary64 (.zero s)) := by
    rw [widen, parted]
    rfl
  rw [unpacked, (StandsFor.zero s).unpack_pack]
  exact .zero s

end SkillScript.Number
