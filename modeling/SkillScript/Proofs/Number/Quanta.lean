import Mathlib
import SkillScript.Settings
import SkillScript.Number.Order
/-!
# Singles as whole numbers of quanta

The least single above zero is the 149th power of one half, and every finite single is
a multiple of it. So the singles that are not negative are natural numbers of such
quanta or infinite, in the same order, and the difference of two of them is exact
whenever it is a single at all. Whole numbers of at most 24 bits are singles.
-/
set_option autoImplicit false
namespace SkillScript.Number

open Float.Model Float.Model.UnpackedFloat

/-- The mantissa and the exponent, counted from the least one, of a number in its one form as a
single. -/
structure Canonical (m k : Nat) : Prop where
  small : m < 2 ^ 24
  normal : m < 2 ^ 23 → k = 0

/-! ## Unpacking -/

theorem toNat_append_implicit {width : Nat} (m : BitVec width) :
    (1#1 ++ m).toNat = 2 ^ width + m.toNat := by
  have small := m.isLt
  rw [BitVec.toNat_append, ← Nat.shiftLeft_add_eq_or_of_lt small, Nat.shiftLeft_eq]
  simp

theorem canonical_of_unpack {b : BitVec 32} {s : Sign} {m : Nat} {e : Int} {pos : 0 < m}
    (unpacked : UnpackedFloat.unpack .binary32 b = .finite s m e pos) :
    ∃ k : Nat, e = k - 149 ∧ Canonical m k := by
  have few : (@unpackExponent .binary32 b).toNat < 2 ^ 8 := BitVec.isLt _
  have small : (@unpackMantissa .binary32 b).toNat < 2 ^ 23 := BitVec.isLt _
  have bias : ((Format.binary32.exponentBias : Nat) : Int) = 127 := rfl
  simp only [UnpackedFloat.unpack, bias] at unpacked
  split at unpacked
  · split at unpacked <;> cases unpacked
  · split at unpacked
    · rename_i least
      split at unpacked
      · cases unpacked
      · cases unpacked
        rw [least]
        exact ⟨0, rfl, by omega, fun _ => rfl⟩
    · rename_i normal
      cases unpacked
      have first : (@unpackExponent .binary32 b).toNat ≠ 0 :=
        fun same => normal (BitVec.eq_of_toNat_eq same)
      have implicit : (1#1 ++ @unpackMantissa .binary32 b).toNat =
          2 ^ 23 + (@unpackMantissa .binary32 b).toNat := toNat_append_implicit _
      refine ⟨(@unpackExponent .binary32 b).toNat - 1, ?_, ?_, ?_⟩
      · push_cast [Nat.one_le_iff_ne_zero.mpr first]
        omega
      · omega
      · omega

/-! ## Rounding -/

theorem log2_mul_two_pow {n : Nat} (pos : n ≠ 0) (j : Nat) :
    (n * 2 ^ j).log2 = n.log2 + j := by
  have bounds := (Nat.log2_eq_iff pos).mp rfl
  rw [Nat.log2_eq_iff (by positivity)]
  constructor
  · rw [pow_add]
    exact Nat.mul_le_mul_right _ bounds.1
  · rw [show n.log2 + j + 1 = n.log2 + 1 + j by ring, pow_add]
    exact Nat.mul_lt_mul_of_pos_right bounds.2 (by positivity)

/-- A number in its one form has the exponent that the format asks for. -/
theorem targetExponent_eq {m k n j : Nat} (canonical : Canonical m k) (pos : m ≠ 0)
    (same : n * 2 ^ j = m * 2 ^ k) :
    Format.binary32.targetExponent (totalExponent n ((j : Int) - 149)) = (k : Int) - 149 := by
  have nonzero : n ≠ 0 := by
    rintro rfl
    have left : m * 2 ^ k ≠ 0 := by positivity
    simp at same
    omega
  have logs : n.log2 + j = m.log2 + k := by
    rw [← log2_mul_two_pow nonzero, ← log2_mul_two_pow pos, same]
  have most : m.log2 < 24 := (Nat.log2_lt pos).mpr canonical.small
  have least : Format.binary32.minExponent = -149 := rfl
  have bits : ((Format.binary32.mantissaBits : Nat) : Int) = 24 := rfl
  simp only [Format.targetExponent, totalExponent, least, bits]
  by_cases full : m < 2 ^ 23
  · have zero := canonical.normal full
    have fewer : m.log2 < 23 := (Nat.log2_lt pos).mpr full
    omega
  · have exactly : 23 ≤ m.log2 := (Nat.le_log2 pos).mpr (by omega)
    omega

/-- Zeros are shifted out without a trace. -/
theorem shiftRight_mul_two_pow (m k : Nat) :
    (⟨m * 2 ^ k, false, false⟩ : ExtendedMantissa) >>> k = ⟨m, false, false⟩ := by
  show k.repeat ExtendedMantissa.shiftRightOne _ = _
  induction k generalizing m with
  | zero => simp [Nat.repeat]
  | succ k ih =>
    have even : m * 2 ^ (k + 1) = m * 2 * 2 ^ k := by ring
    rw [Nat.repeat, even, ih]
    simp [ExtendedMantissa.shiftRightOne]

theorem shiftToTargetExponent_eq {m k j : Nat} (canonical : Canonical m k) (pos : 0 < m)
    (less : j ≤ k) :
    shiftToTargetExponent .binary32 (m * 2 ^ (k - j)) ((j : Int) - 149) .exact =
      (⟨m, false, false⟩, (k : Int) - 149) := by
  have same : m * 2 ^ (k - j) * 2 ^ j = m * 2 ^ k := by
    rw [Nat.mul_assoc, ← pow_add, Nat.sub_add_cancel less]
  have amount : ((k : Int) - 149 - ((j : Int) - 149)).toNat = k - j := by omega
  have exponent : (j : Int) - 149 + ((k - j : Nat) : Int) = (k : Int) - 149 := by omega
  simp only [shiftToTargetExponent, targetExponent_eq canonical pos.ne' same, shiftToExponent,
    amount, exponent, ExtendedMantissa.ofMantissaAndAccuracy, shiftRight_mul_two_pow]

theorem roundWithAccuracy_eq {m k j : Nat} (canonical : Canonical m k) (pos : 0 < m)
    (less : j ≤ k) (s : Sign) :
    roundWithAccuracy .binary32 s (m * 2 ^ (k - j)) ((j : Int) - 149) .exact =
      .finite s m ((k : Int) - 149) pos := by
  have first := shiftToTargetExponent_eq canonical pos less
  have second := shiftToTargetExponent_eq canonical pos (Nat.le_refl k)
  rw [Nat.sub_self, pow_zero, Nat.mul_one] at second
  simp only [roundWithAccuracy, first, ExtendedMantissa.roundedMantissa,
    ExtendedMantissa.accuracy, Accuracy.roundToNearestEven, second]
  rw [dif_neg pos.ne']

/-- What is a single already is not changed by rounding. -/
theorem round_eq {m k n j : Nat} (canonical : Canonical m k) (pos : 0 < m)
    (same : n * 2 ^ j = m * 2 ^ k) (s : Sign) :
    UnpackedFloat.round .binary32 s n ((j : Int) - 149) = .finite s m ((k : Int) - 149) pos := by
  -- First the exponent is brought down to the target, if it is above it.
  have lowered : ∃ i, i ≤ k ∧ decreaseExponent n ((j : Int) - 149) ((k : Int) - 149) =
      (m * 2 ^ (k - i), (i : Int) - 149) := by
    rcases Nat.le_total j k with less | more
    · refine ⟨j, less, ?_⟩
      have amount : ((j : Int) - 149 - ((k : Int) - 149)).toNat = 0 := by omega
      have mantissa : n = m * 2 ^ (k - j) := by
        rw [← Nat.sub_add_cancel less, pow_add, ← Nat.mul_assoc] at same
        exact Nat.eq_of_mul_eq_mul_right (by positivity) same
      simp only [decreaseExponent, amount, Nat.shiftLeft_zero, ← mantissa, Nat.cast_zero,
        Int.sub_zero]
    · refine ⟨k, Nat.le_refl k, ?_⟩
      have amount : ((j : Int) - 149 - ((k : Int) - 149)).toNat = j - k := by omega
      have mantissa : n * 2 ^ (j - k) = m := by
        rw [← Nat.sub_add_cancel more, pow_add, ← Nat.mul_assoc] at same
        exact Nat.eq_of_mul_eq_mul_right (by positivity) same
      simp only [decreaseExponent, amount, Nat.shiftLeft_eq, mantissa, Nat.sub_self, pow_zero,
        Nat.mul_one, Prod.mk.injEq, true_and]
      omega
  obtain ⟨i, less, lowered⟩ := lowered
  simp only [UnpackedFloat.round, targetExponent_eq canonical pos.ne' same, lowered]
  exact roundWithAccuracy_eq canonical pos less s

/-! ## Values -/

/-- How many quanta an unpacked number is, if it is not negative. -/
def quantaOf : UnpackedFloat → Option ℕ∞
  | .zero _ => some 0
  | .infinity .positive => some ⊤
  | .finite .positive m e _ => some ((m * 2 ^ (e + 149).toNat : Nat) : ℕ∞)
  | _ => none

def quanta? (x : Float32) : Option ℕ∞ :=
  quantaOf x.toModel.unpack

def IsSingle (n : ℕ∞) : Prop :=
  ∃ x, quanta? x = some n

variable {x y : Float32} {n m : ℕ∞}

theorem quanta_cases (known : quanta? x = some n) :
    (n = 0 ∧ ∃ s, x.toModel.unpack = .zero s) ∨
      (n = ⊤ ∧ x.toModel.unpack = .infinity .positive) ∨
      ∃ m k : Nat, ∃ pos : 0 < m, Canonical m k ∧ n = (m * 2 ^ k : Nat) ∧
        x.toModel.unpack = .finite .positive m ((k : Int) - 149) pos := by
  rw [quanta?] at known
  cases unpacked : x.toModel.unpack with
  | notANumber =>
    rw [unpacked] at known
    cases known
  | infinity s =>
    rw [unpacked] at known
    cases s with
    | negative => cases known
    | positive =>
      cases known
      exact Or.inr (Or.inl ⟨rfl, rfl⟩)
  | zero s =>
    rw [unpacked] at known
    cases known
    exact Or.inl ⟨rfl, s, rfl⟩
  | finite s m e pos =>
    obtain ⟨k, rfl, canonical⟩ := canonical_of_unpack unpacked
    rw [unpacked] at known
    cases s with
    | negative => cases known
    | positive =>
      simp only [quantaOf, Int.sub_add_cancel, Int.toNat_natCast, Option.some.injEq] at known
      exact Or.inr (Or.inr ⟨m, k, pos, canonical, known.symm, rfl⟩)

theorem quanta_zero : quanta? 0 = some 0 :=
  rfl

theorem le_iff_unpack : x ≤ y ↔ x.toModel.unpack.le y.toModel.unpack = true :=
  decide_eq_true_iff

/-- What is not below a single with quanta has quanta. -/
theorem quanta_of_le (known : quanta? x = some n) (less : x ≤ y) : ∃ m, quanta? y = some m := by
  rw [le_iff_unpack] at less
  rw [quanta?]
  generalize y.toModel.unpack = f at less
  rcases quanta_cases known with ⟨-, s, left⟩ | ⟨-, left⟩ | ⟨a, k, pos, -, -, left⟩
  all_goals
    rw [left] at less
    cases f with
    | notANumber => cases less
    | zero s => exact ⟨0, rfl⟩
    | infinity s =>
      cases s with
      | positive => exact ⟨⊤, rfl⟩
      | negative => cases less
    | finite s m e pos =>
      cases s with
      | positive => exact ⟨_, rfl⟩
      | negative => cases less

/-! ## Order -/

theorem Canonical.lt_of_lt {m k m' k' : Nat} (small : Canonical m k) (large : Canonical m' k')
    (less : k < k') : m * 2 ^ k < m' * 2 ^ k' := by
  have full : 2 ^ 23 ≤ m' := by
    by_contra low
    have zero := large.normal (by omega)
    omega
  calc m * 2 ^ k < 2 ^ 24 * 2 ^ k := Nat.mul_lt_mul_of_pos_right small.small (by positivity)
    _ = 2 ^ 23 * 2 ^ (k + 1) := by ring
    _ ≤ m' * 2 ^ k' := Nat.mul_le_mul full (Nat.pow_le_pow_right (by norm_num) less)

theorem compare_map {α γ : Type} [LinearOrder α] [LinearOrder γ] {f : α → γ} (mono : StrictMono f)
    (a b : α) : compare (f a) (f b) = compare a b := by
  rw [← cmp_eq_compare, mono.cmp_map_eq, cmp_eq_compare]

theorem compare_mul_right {c : Nat} (positive : 0 < c) (a b : Nat) :
    compare (a * c) (b * c) = compare a b :=
  compare_map (fun _ _ less => Nat.mul_lt_mul_of_pos_right less positive) a b

/-- Numbers in their one form are ordered by the exponent first. -/
theorem Canonical.compare_eq {m k m' k' : Nat} (left : Canonical m k) (right : Canonical m' k') :
    (compare ((k : Int) - 149) ((k' : Int) - 149)).then (compare m m') =
      compare ((m * 2 ^ k : Nat) : ℕ∞) (m' * 2 ^ k' : Nat) := by
  rw [compare_map Nat.strictMono_cast]
  rcases Nat.lt_trichotomy k k' with less | rfl | more
  · have exponents : compare ((k : Int) - 149) ((k' : Int) - 149) = .lt :=
      compare_lt_iff_lt.mpr (by omega)
    rw [exponents, compare_lt_iff_lt.mpr (left.lt_of_lt right less)]
    rfl
  · have exponents : compare ((k : Int) - 149) ((k : Int) - 149) = .eq := by simp
    rw [exponents, compare_mul_right (Nat.two_pow_pos k)]
    rfl
  · have exponents : compare ((k : Int) - 149) ((k' : Int) - 149) = .gt :=
      compare_gt_iff_gt.mpr (by omega)
    rw [exponents, compare_gt_iff_gt.mpr (right.lt_of_lt left more)]
    rfl

theorem cast_pos_of_pos {a : Nat} (pos : 0 < a) (k : Nat) : (0 : ℕ∞) < (a * 2 ^ k : Nat) :=
  Nat.cast_pos.mpr (by positivity)

/-- The order of singles is that of their quanta. -/
theorem compare_unpack (known : quanta? x = some n) (known' : quanta? y = some m) :
    x.toModel.unpack.compare y.toModel.unpack = some (compare n m) := by
  rcases quanta_cases known with
    ⟨rfl, s, left⟩ | ⟨rfl, left⟩ | ⟨a, k, pos, canonical, rfl, left⟩
  · rcases quanta_cases known' with
      ⟨rfl, t, right⟩ | ⟨rfl, right⟩ | ⟨b, l, pos', canonical', rfl, right⟩
    · rw [left, right, compare_eq_iff_eq.mpr rfl]
      rfl
    · rw [left, right, compare_lt_iff_lt.mpr ENat.top_pos]
      rfl
    · rw [left, right, compare_lt_iff_lt.mpr (cast_pos_of_pos pos' l)]
      rfl
  · rcases quanta_cases known' with
      ⟨rfl, t, right⟩ | ⟨rfl, right⟩ | ⟨b, l, pos', canonical', rfl, right⟩
    · rw [left, right, compare_gt_iff_gt.mpr ENat.top_pos]
      rfl
    · rw [left, right, compare_eq_iff_eq.mpr rfl]
      rfl
    · rw [left, right, compare_gt_iff_gt.mpr (ENat.natCast_lt_top _)]
      rfl
  · rcases quanta_cases known' with
      ⟨rfl, t, right⟩ | ⟨rfl, right⟩ | ⟨b, l, pos', canonical', rfl, right⟩
    · rw [left, right, compare_gt_iff_gt.mpr (cast_pos_of_pos pos k)]
      rfl
    · rw [left, right, compare_lt_iff_lt.mpr (ENat.natCast_lt_top _)]
      rfl
    · rw [left, right, ← canonical.compare_eq canonical']
      rfl

theorem lt_iff (known : quanta? x = some n) (known' : quanta? y = some m) : x < y ↔ n < m := by
  have compared : x < y ↔ x.toModel.unpack.lt y.toModel.unpack = true := decide_eq_true_iff
  rw [compared, UnpackedFloat.lt, compare_unpack known known']
  simp [compare_lt_iff_lt]

theorem le_iff (known : quanta? x = some n) (known' : quanta? y = some m) : x ≤ y ↔ n ≤ m := by
  rw [le_iff_unpack, UnpackedFloat.le, compare_unpack known known']
  simp [Ordering.isLE_iff_ne_gt, compare_le_iff_le]

theorem not_lt_zero (known : quanta? x = some n) : ¬ x < 0 := by
  rw [lt_iff known quanta_zero]
  exact not_lt_bot

theorem beq_zero_iff (known : quanta? x = some n) : (x == 0) = true ↔ n = 0 := by
  have compared : (x == 0) = x.toModel.unpack.beq (0 : Float32).toModel.unpack := rfl
  rw [compared, UnpackedFloat.beq, compare_unpack known quanta_zero]
  simp

theorem isNaN_eq_false (known : quanta? x = some n) : x.isNaN = false := by
  have unpacked : x.isNaN = x.toModel.unpack.isNaN := rfl
  rw [unpacked]
  rcases quanta_cases known with ⟨-, s, form⟩ | ⟨-, form⟩ | ⟨a, k, pos, -, -, form⟩
  all_goals
    rw [form]
    rfl

theorem minNum_eq (known : quanta? x = some n) (known' : quanta? y = some m) :
    minNum x y = if m < n then y else x := by
  simp only [minNum, isNaN_eq_false known, isNaN_eq_false known', lt_iff known' known,
    Bool.false_eq_true, if_false]

theorem quanta_minNum (known : quanta? x = some n) (known' : quanta? y = some m) :
    quanta? (minNum x y) = some (min n m) := by
  rw [minNum_eq known known']
  split
  · rename_i less
    rw [known', min_eq_right less.le]
  · rename_i least
    rw [known, min_eq_left (not_lt.mp least)]

theorem atLeastZero_eq (known : quanta? x = some n) : atLeastZero x = x := by
  simp only [atLeastZero, maxNum, isNaN_eq_false known, isNaN_eq_false quanta_zero,
    not_lt_zero known, Bool.false_eq_true, if_false]

/-! ## Differences -/

theorem eq_of_unpack {f : UnpackedFloat} {z : Float32}
    (same : (x - y).toModel.unpack =
      UnpackedFloat.unpack .binary32 (UnpackedFloat.pack .binary32 f))
    (form : z.toModel.unpack = f) : quanta? (x - y) = quanta? z := by
  have packed : UnpackedFloat.pack .binary32 z.toModel.unpack = z.toModel.toBits.toBitVec :=
    pack_unpack_of_valid z.toModel.valid
  rw [quanta?, same, ← form, packed]
  rfl

theorem fst_decreaseExponent {a k j : Nat} (less : j ≤ k) :
    (decreaseExponent a ((k : Int) - 149) ((j : Int) - 149)).1 = a * 2 ^ (k - j) := by
  have amount : ((k : Int) - 149 - ((j : Int) - 149)).toNat = k - j := by omega
  simp only [decreaseExponent, amount, Nat.shiftLeft_eq]

/-- The difference of two positive numbers, before it is rounded. -/
theorem sub_finite {a k b l : Nat} {pos : 0 < a} {pos' : 0 < b} :
    (UnpackedFloat.finite .positive a ((k : Int) - 149) pos).sub .binary32
        (.finite .positive b ((l : Int) - 149) pos') =
      UnpackedFloat.normalize .binary32
        (((a * 2 ^ (k - min k l) : Nat) : Int) - ((b * 2 ^ (l - min k l) : Nat) : Int))
        (((min k l : Nat) : Int) - 149) .positive := by
  have least : min ((k : Int) - 149) ((l : Int) - 149) = ((min k l : Nat) : Int) - 149 := by omega
  simp only [UnpackedFloat.sub, least, fst_decreaseExponent (Nat.min_le_left k l),
    fst_decreaseExponent (Nat.min_le_right k l), Sign.apply]

theorem normalize_of_eq {s : Int} (zero : s = 0) (e : Int) :
    UnpackedFloat.normalize .binary32 s e .positive = .zero .positive := by
  subst zero
  rfl

theorem normalize_of_pos {spec : Format} {n : Nat} (pos : 0 < n) (e : Int) :
    UnpackedFloat.normalize spec n e .positive = UnpackedFloat.round spec .positive n e := by
  have more : compare (n : Int) 0 = .gt := compare_gt_iff_gt.mpr (by omega)
  simp only [UnpackedFloat.normalize, more, Int.toNat_natCast]

theorem quanta_of_zero {s : Sign}
    (unpacked : (x - y).toModel.unpack = UnpackedFloat.unpack .binary32
      (UnpackedFloat.pack .binary32 (.zero s))) : quanta? (x - y) = some 0 := by
  have zero : UnpackedFloat.unpack .binary32 (UnpackedFloat.pack .binary32 (.zero s)) = .zero s :=
    unpack_packedZero
  rw [quanta?, unpacked, zero]
  rfl

/-- The difference of two positive numbers in quanta, and what is rounded and packed for it. -/
theorem unpack_sub_finite {a k b l : Nat} {pos : 0 < a} {pos' : 0 < b}
    (left : x.toModel.unpack = .finite .positive a ((k : Int) - 149) pos)
    (right : y.toModel.unpack = .finite .positive b ((l : Int) - 149) pos')
    (less : b * 2 ^ l ≤ a * 2 ^ k) :
    ∃ d, a * 2 ^ k - b * 2 ^ l = d * 2 ^ min k l ∧
      (x - y).toModel.unpack = UnpackedFloat.unpack .binary32 (UnpackedFloat.pack .binary32
        (UnpackedFloat.normalize .binary32 d (((min k l : Nat) : Int) - 149) .positive)) := by
  have unpacked : (x - y).toModel.unpack = UnpackedFloat.unpack .binary32
      (UnpackedFloat.pack .binary32 (x.toModel.unpack.sub .binary32 y.toModel.unpack)) := rfl
  have first : a * 2 ^ k = a * 2 ^ (k - min k l) * 2 ^ min k l := by
    rw [Nat.mul_assoc, ← pow_add, Nat.sub_add_cancel (Nat.min_le_left k l)]
  have second : b * 2 ^ l = b * 2 ^ (l - min k l) * 2 ^ min k l := by
    rw [Nat.mul_assoc, ← pow_add, Nat.sub_add_cancel (Nat.min_le_right k l)]
  rw [left, right, sub_finite] at unpacked
  have ordered : b * 2 ^ (l - min k l) ≤ a * 2 ^ (k - min k l) := by
    rw [first, second] at less
    exact Nat.le_of_mul_le_mul_right less (by positivity)
  obtain ⟨d, apart⟩ := Nat.exists_eq_add_of_le ordered
  have mantissa : ((a * 2 ^ (k - min k l) : Nat) : Int) -
      ((b * 2 ^ (l - min k l) : Nat) : Int) = (d : Int) := by omega
  rw [mantissa] at unpacked
  refine ⟨d, ?_, unpacked⟩
  rw [first, second, apart, Nat.add_mul, Nat.add_sub_cancel_left]

/-- The difference of two positive numbers is exact if it is a single. -/
theorem quanta_sub_finite {a k b l : Nat} {pos : 0 < a} {pos' : 0 < b}
    (left : x.toModel.unpack = .finite .positive a ((k : Int) - 149) pos)
    (right : y.toModel.unpack = .finite .positive b ((l : Int) - 149) pos')
    (less : b * 2 ^ l ≤ a * 2 ^ k) (single : IsSingle ((a * 2 ^ k - b * 2 ^ l : Nat) : ℕ∞)) :
    quanta? (x - y) = some ((a * 2 ^ k - b * 2 ^ l : Nat) : ℕ∞) := by
  obtain ⟨d, difference, unpacked⟩ := unpack_sub_finite left right less
  rw [difference] at single ⊢
  rcases Nat.eq_zero_or_pos d with rfl | more
  · rw [normalize_of_eq Nat.cast_zero] at unpacked
    rw [Nat.zero_mul]
    exact quanta_of_zero unpacked
  · obtain ⟨z, known⟩ := single
    rcases quanta_cases known with ⟨zero, -⟩ | ⟨top, -⟩ | ⟨c, j, pos'', canonical, same, form⟩
    · exact absurd zero (cast_pos_of_pos more _).ne'
    · exact absurd top (ENat.natCast_ne_top _)
    · rw [normalize_of_pos more, round_eq canonical pos'' (Nat.cast_injective same)] at unpacked
      rw [← known]
      exact eq_of_unpack unpacked form

/-- A difference is exact if it is a single, unless the infinite is taken away. -/
theorem quanta_sub (known : quanta? x = some n) (known' : quanta? y = some m) (less : m ≤ n)
    (finite : m ≠ ⊤) (single : IsSingle (n - m)) : quanta? (x - y) = some (n - m) := by
  have unpacked : (x - y).toModel.unpack = UnpackedFloat.unpack .binary32
      (UnpackedFloat.pack .binary32 (x.toModel.unpack.sub .binary32 y.toModel.unpack)) := rfl
  rcases quanta_cases known' with
    ⟨rfl, t, right⟩ | ⟨top, -⟩ | ⟨b, l, pos', canonical', rfl, right⟩
  · rw [tsub_zero]
    rcases quanta_cases known with ⟨rfl, s, left⟩ | ⟨rfl, left⟩ | ⟨a, k, pos, -, -, left⟩
    · rw [left, right] at unpacked
      cases s <;> cases t <;> exact quanta_of_zero unpacked
    all_goals
      rw [left, right] at unpacked
      rw [← known]
      exact eq_of_unpack unpacked left
  · exact absurd top finite
  · rcases quanta_cases known with ⟨rfl, -⟩ | ⟨rfl, left⟩ | ⟨a, k, pos, canonical, rfl, left⟩
    · exact absurd less (cast_pos_of_pos pos' l).not_ge
    · rw [left, right] at unpacked
      rw [ENat.top_sub_natCast, ← known]
      exact eq_of_unpack unpacked left
    · rw [← ENat.natCast_sub] at single ⊢
      exact quanta_sub_finite left right (Nat.cast_le.mp less) single

theorem isSingle_zero : IsSingle 0 :=
  ⟨0, quanta_zero⟩

/-- Taking away as much as there is leaves zero. -/
theorem quanta_sub_self (known : quanta? x = some n) (known' : quanta? y = some n)
    (finite : n ≠ ⊤) : quanta? (x - y) = some 0 := by
  rw [← tsub_self n]
  refine quanta_sub known known' le_rfl finite ?_
  rw [tsub_self]
  exact isSingle_zero

/-! ## Finite and infinite numbers -/

theorem sub_sub_of_le {e δ : Nat} {d : ℕ∞} (less : (e : ℕ∞) ≤ d) :
    (δ : ℕ∞) - (d - e) = (e + δ : Nat) - d := by
  cases d with
  | top => simp
  | coe n =>
    norm_cast at *
    omega

theorem add_le_iff {n e : Nat} {m : ℕ∞} (within : n ≤ e) :
    (n : ℕ∞) + m ≤ e ↔ m ≤ (e - n : Nat) := by
  cases m with
  | top => simp
  | coe k =>
    norm_cast
    omega

theorem sub_le_iff {e δ : Nat} {d : ℕ∞} : d - e ≤ δ ↔ d ≤ (e + δ : Nat) := by
  rw [tsub_le_iff_left, Nat.cast_add]

/-! ## Whole numbers -/

def one : Nat :=
  2 ^ 149

theorem quanta_one : quanta? 1 = some (one : ℕ∞) := by
  have unpacked : (1 : Float32).toModel.unpack = .finite .positive (2 ^ 23) (-23) (by decide) := by
    rfl
  rw [quanta?, unpacked, quantaOf]
  rfl

theorem quanta_two : quanta? 2 = some ((2 * one : Nat) : ℕ∞) := by
  have unpacked : (2 : Float32).toModel.unpack = .finite .positive (2 ^ 23) (-22) (by decide) :=
    rfl
  rw [quanta?, unpacked, quantaOf]
  rfl

def ofBits (b : BitVec 32) (valid : Format.binary32.Valid b) : Float32 :=
  ⟨⟨⟨b⟩, valid⟩⟩

theorem quanta_ofBits {b : BitVec 32} (valid : Format.binary32.Valid b) :
    quanta? (ofBits b valid) = quantaOf (UnpackedFloat.unpack .binary32 b) :=
  rfl

theorem unpack_packComponents {s : Sign} {e : BitVec 8} {v : BitVec 23} (finite : e ≠ -1#8)
    (normal : e ≠ 0#8) (pos : 0 < 2 ^ 23 + v.toNat) :
    UnpackedFloat.unpack .binary32 (packComponents .binary32 s e v) =
      .finite s (2 ^ 23 + v.toNat) ((e.toNat : Int) - 150) pos := by
  have bias : ((Format.binary32.exponentBias : Nat) : Int) = 127 := rfl
  have implicit := toNat_append_implicit v
  simp only [UnpackedFloat.unpack, unpackExponent_packComponents, unpackMantissa_packComponents,
    unpackSign_packComponents, Sign.ofBitVec_toBitVec, bias]
  rw [if_neg finite, if_neg normal, UnpackedFloat.finite.injEq]
  exact ⟨rfl, implicit, by omega⟩

theorem unpack_subnormal {s : Sign} {v : BitVec 23} (pos : 0 < v.toNat) :
    UnpackedFloat.unpack .binary32 (packComponents .binary32 s 0#8 v) =
      .finite s v.toNat (-149) pos := by
  have nonzero : v ≠ 0#23 := by
    rintro rfl
    exact absurd pos (Nat.lt_irrefl 0)
  have finite : (0#8 : BitVec 8) ≠ -1#8 := by decide
  have bias : ((Format.binary32.exponentBias : Nat) : Int) = 127 := rfl
  simp only [UnpackedFloat.unpack, unpackExponent_packComponents, unpackMantissa_packComponents,
    unpackSign_packComponents, Sign.ofBitVec_toBitVec, bias]
  rw [if_neg finite]
  simp [nonzero]

/-- A number in its one form is packed as it is, if its exponent is small enough. -/
theorem unpack_pack {m k : Nat} (canonical : Canonical m k) (few : k < 254) (pos : 0 < m)
    (s : Sign) :
    UnpackedFloat.unpack .binary32
        (UnpackedFloat.pack .binary32 (.finite s m ((k : Int) - 149) pos)) =
      .finite s m ((k : Int) - 149) pos := by
  have bias : ((Format.binary32.exponentBias : Nat) : Int) = 127 := rfl
  have digits : ((Format.binary32.mantissaBitsWithoutImplicit : Nat) : Int) = 23 := rfl
  have short : Format.binary32.mantissaBits = 24 := rfl
  have biased : ((k : Int) - 149 + 127 + 23).toNat = k + 1 := by omega
  have finite : ¬ 2 ^ 8 ≤ k + 1 + 1 := by omega
  have small := canonical.small
  simp only [UnpackedFloat.pack, bias, digits, short, biased, if_neg finite]
  by_cases full : 2 ^ 23 ≤ m
  · have most := (Nat.log2_lt pos.ne').mpr small
    have least := (Nat.le_log2 pos.ne').mpr full
    have exponent : (BitVec.ofNat 8 (k + 1)).toNat = k + 1 := by
      rw [BitVec.toNat_ofNat]
      omega
    have mantissa : 2 ^ 23 + (BitVec.ofNat 23 m).toNat = m := by
      rw [BitVec.toNat_ofNat]
      omega
    have finite : BitVec.ofNat 8 (k + 1) ≠ -1#8 := by
      intro same
      have last : (-1#8).toNat = 255 := rfl
      rw [← same] at last
      omega
    have normal : BitVec.ofNat 8 (k + 1) ≠ 0#8 := by
      intro same
      have first : (0#8).toNat = 0 := rfl
      rw [← same] at first
      omega
    rw [if_pos (by omega)]
    refine (unpack_packComponents finite normal (by omega)).trans ?_
    rw [UnpackedFloat.finite.injEq]
    exact ⟨rfl, mantissa, by omega⟩
  · obtain rfl := canonical.normal (Nat.not_le.mp full)
    have most := (Nat.log2_lt pos.ne').mpr (Nat.not_le.mp full)
    have mantissa : (BitVec.ofNat 23 m).toNat = m := by
      rw [BitVec.toNat_ofNat]
      omega
    rw [if_neg (by omega)]
    refine (unpack_subnormal (by omega)).trans ?_
    rw [UnpackedFloat.finite.injEq]
    exact ⟨rfl, mantissa, by omega⟩

/-- Every number in its one form is a single, if its exponent is small enough. -/
theorem Canonical.isSingle {m k : Nat} (canonical : Canonical m k) (few : k < 254) :
    IsSingle (m * 2 ^ k : Nat) := by
  rcases Nat.eq_zero_or_pos m with rfl | pos
  · rw [Nat.zero_mul]
    exact isSingle_zero
  · refine ⟨ofBits (UnpackedFloat.pack .binary32 (.finite .positive m ((k : Int) - 149) pos))
      valid_pack, ?_⟩
    rw [quanta_ofBits, unpack_pack canonical few, quantaOf, Int.sub_add_cancel, Int.toNat_natCast]

/-- Whole numbers of at most 24 bits are singles. -/
theorem isSingle_whole {w : Nat} (small : w < 2 ^ 24) : IsSingle (w * one : Nat) := by
  rcases Nat.eq_zero_or_pos w with rfl | pos
  · rw [Nat.zero_mul]
    exact isSingle_zero
  · have most : w.log2 < 24 := (Nat.log2_lt pos.ne').mpr small
    have bounds := (Nat.log2_eq_iff pos.ne').mp rfl
    have whole : w * one = w * 2 ^ (23 - w.log2) * 2 ^ (126 + w.log2) := by
      rw [one, Nat.mul_assoc, ← pow_add]
      congr 2
      omega
    have full : 2 ^ 23 ≤ w * 2 ^ (23 - w.log2) := by
      calc 2 ^ 23 = 2 ^ w.log2 * 2 ^ (23 - w.log2) := by rw [← pow_add]; congr 1; omega
        _ ≤ w * 2 ^ (23 - w.log2) := Nat.mul_le_mul_right _ bounds.1
    have small : w * 2 ^ (23 - w.log2) < 2 ^ 24 := by
      calc w * 2 ^ (23 - w.log2) < 2 ^ (w.log2 + 1) * 2 ^ (23 - w.log2) :=
          Nat.mul_lt_mul_of_pos_right bounds.2 (by positivity)
        _ = 2 ^ 24 := by rw [← pow_add]; congr 1; omega
    have canonical : Canonical (w * 2 ^ (23 - w.log2)) (126 + w.log2) :=
      ⟨small, fun less => absurd less full.not_gt⟩
    rw [whole]
    exact canonical.isSingle (by omega)

def IsWhole (n : ℕ∞) : Prop :=
  ∃ w : Nat, n = (w * one : Nat)

theorem IsWhole.zero : IsWhole 0 :=
  ⟨0, by simp⟩

theorem IsWhole.add (left : IsWhole n) (right : IsWhole m) : IsWhole (n + m) := by
  obtain ⟨v, rfl⟩ := left
  obtain ⟨w, rfl⟩ := right
  exact ⟨v + w, by rw [Nat.add_mul, Nat.cast_add]⟩

theorem IsWhole.sub (left : IsWhole n) (right : IsWhole m) : IsWhole (n - m) := by
  obtain ⟨v, rfl⟩ := left
  obtain ⟨w, rfl⟩ := right
  exact ⟨v - w, by rw [Nat.sub_mul, ENat.natCast_sub]⟩

def wholes : Nat :=
  2 ^ 24 * one

theorem IsWhole.isSingle (whole : IsWhole n) (small : n < wholes) : IsSingle n := by
  obtain ⟨w, rfl⟩ := whole
  exact isSingle_whole (Nat.lt_of_mul_lt_mul_right (Nat.cast_lt.mp small))

theorem IsWhole.one_le (whole : IsWhole n) (pos : 0 < n) : (one : ℕ∞) ≤ n := by
  obtain ⟨w, rfl⟩ := whole
  have some : 0 < w := Nat.pos_of_mul_pos_right (Nat.cast_pos.mp pos)
  exact Nat.cast_le.mpr (Nat.le_mul_of_pos_left one some)

/-! ## The tolerance for times -/

/-- What is not negative is its own magnitude. -/
theorem quanta_abs (known : quanta? x = some n) : quanta? x.abs = some n := by
  have unpacked : x.abs.toModel.unpack = UnpackedFloat.unpack .binary32
      (UnpackedFloat.pack .binary32 x.toModel.unpack.abs) := rfl
  rcases quanta_cases known with ⟨rfl, s, form⟩ | ⟨-, form⟩ | ⟨a, k, pos, -, -, form⟩
  · have zero : UnpackedFloat.unpack .binary32 (UnpackedFloat.pack .binary32 (.zero .positive)) =
        .zero .positive := unpack_packedZero
    rw [form, UnpackedFloat.abs, zero] at unpacked
    rw [quanta?, unpacked]
    rfl
  all_goals
    have packed : UnpackedFloat.pack .binary32 x.toModel.unpack = x.toModel.toBits.toBitVec :=
      pack_unpack_of_valid x.toModel.valid
    have same : x.toModel.unpack.abs = x.toModel.unpack := by
      rw [form]
      rfl
    rw [same, packed] at unpacked
    rw [← known, quanta?, unpacked]
    rfl

/-- With a tolerance below one, nothing from one on counts as zero. -/
theorem isZero_eq_false {σ : Settings} (small : σ.timeEpsilon < 1) (known : quanta? x = some n)
    (more : (one : ℕ∞) ≤ n) : σ.isZero x = false := by
  rw [Settings.isZero, decide_eq_false_iff_not]
  intro within
  have magnitude := quanta_abs known
  obtain ⟨m, tolerance⟩ := quanta_of_le magnitude within
  have wide := (le_iff magnitude tolerance).mp within
  have narrow := (lt_iff tolerance quanta_one).mp small
  exact absurd (more.trans wide) narrow.not_ge

end SkillScript.Number
