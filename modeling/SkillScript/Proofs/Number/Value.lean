import SkillScript.Number.Rounding
import SkillScript.Proofs.Number.Difference
/-!
# The value of a single

A finite single stands for a rational number. Where the exact result of an operation is
known to be a single, a development over the rational numbers can follow the program.
Cutting a single off and rounding it are exact; so is turning what was cut off back into
a single, since it has no more digits than the single it was cut from.
-/
set_option autoImplicit false
namespace SkillScript.Number

open Float.Model Float.Model.UnpackedFloat

/-- The value of an unpacked number, if it is finite. -/
def valueOf : UnpackedFloat → Option ℚ
  | .zero _ => some 0
  | .finite s m e _ => some (signed s m * 2 ^ e)
  | _ => none

def value? (x : Float32) : Option ℚ :=
  valueOf x.toModel.unpack

variable {x y : Float32} {v w : ℚ}

/-! ## Operations that are exact -/

/-- A single is the exact result of an operation on two others, if these are finite. -/
def IsExact (op : ℚ → ℚ → ℚ) (x y result : Float32) : Prop :=
  ∀ v w, value? x = some v → value? y = some w → value? result = some (op v w)

instance (op : ℚ → ℚ → ℚ) (x y result : Float32) : Decidable (IsExact op x y result) :=
  decidable_of_iff (∀ v ∈ value? x, ∀ w ∈ value? y, value? result = some (op v w))
    ⟨fun exact v w known known' => exact v known w known',
      fun exact v known w known' => exact v w known known'⟩

/-- The sum of two singles is exact. -/
def ExactSum (x y : Float32) : Prop :=
  IsExact (· + ·) x y (x + y)

@[inherit_doc ExactSum]
def ExactDifference (x y : Float32) : Prop :=
  IsExact (· - ·) x y (x - y)

@[inherit_doc ExactSum]
def ExactProduct (x y : Float32) : Prop :=
  IsExact (· * ·) x y (x * y)

instance (x y : Float32) : Decidable (ExactSum x y) :=
  inferInstanceAs (Decidable (IsExact ..))

instance (x y : Float32) : Decidable (ExactDifference x y) :=
  inferInstanceAs (Decidable (IsExact ..))

instance (x y : Float32) : Decidable (ExactProduct x y) :=
  inferInstanceAs (Decidable (IsExact ..))

/-! ## Quanta -/

/-- The value of the least single above zero. -/
def quantum : ℚ :=
  2 ^ (-149 : ℤ)

theorem quantum_pos : 0 < quantum := by
  rw [quantum]
  positivity

theorem value_finite {s : Sign} {m k : Nat} {pos : 0 < m}
    (form : x.toModel.unpack = .finite s m ((k : Int) - 149) pos) :
    value? x = some (signed s (m * 2 ^ k) * quantum) := by
  have power : (2 : ℚ) ^ ((k : ℤ) - 149) = 2 ^ k * quantum := by
    rw [quantum, sub_eq_add_neg, zpow_add₀ two_ne_zero, zpow_natCast]
  rw [value?, form, valueOf, power]
  cases s <;> simp [signed, mul_assoc]

theorem value_of_quanta {n : Nat} (known : quanta? x = some (n : ℕ∞)) :
    value? x = some (n * quantum) := by
  rcases quanta_cases known with ⟨zero, s, form⟩ | ⟨top, -⟩ | ⟨m, k, pos, -, same, form⟩
  · rw [value?, form, valueOf, Nat.cast_eq_zero.mp zero]
    simp
  · exact absurd top (ENat.natCast_ne_top n)
  · rw [value_finite form, Nat.cast_injective same]
    simp [signed]

/-- What a finite single is like. -/
theorem value_cases (known : value? x = some v) :
    (v = 0 ∧ ∃ s, x.toModel.unpack = .zero s) ∨
      ∃ s, ∃ m k : Nat, ∃ pos : 0 < m, Canonical m k ∧ k < 254 ∧
        v = signed s (m * 2 ^ k) * quantum ∧
        x.toModel.unpack = .finite s m ((k : Int) - 149) pos := by
  cases form : x.toModel.unpack with
  | notANumber => simp [value?, form, valueOf] at known
  | infinity s => simp [value?, form, valueOf] at known
  | zero s =>
    rw [value?, form, valueOf] at known
    cases known
    exact Or.inl ⟨rfl, s, rfl⟩
  | finite s m e pos =>
    obtain ⟨k, rfl, canonical⟩ := canonical_of_unpack form
    rw [value_finite form] at known
    cases known
    exact Or.inr ⟨s, m, k, pos, canonical, exponent_lt_of_unpack form, rfl, rfl⟩

/-- A value that is not negative is a number of quanta. -/
theorem quanta_of_value (known : value? x = some v) (nonneg : 0 ≤ v) :
    ∃ n : Nat, quanta? x = some (n : ℕ∞) ∧ v = n * quantum := by
  rcases value_cases known with ⟨rfl, s, form⟩ | ⟨s, m, k, pos, canonical, few, rfl, form⟩
  · exact ⟨0, by rw [quanta?, form, quantaOf]; rfl, by simp⟩
  · cases s with
    | positive =>
      refine ⟨m * 2 ^ k, ?_, by simp [signed]⟩
      rw [quanta?, form, quantaOf, Int.sub_add_cancel, Int.toNat_natCast]
    | negative =>
      have negative : (signed .negative (m * 2 ^ k) : ℚ) * quantum < 0 := by
        have positive : (0 : ℚ) < (m * 2 ^ k : Nat) * quantum :=
          mul_pos (Nat.cast_pos.mpr (by positivity)) quantum_pos
        simpa [signed] using positive
      exact absurd nonneg negative.not_ge

theorem value_zero : value? 0 = some 0 :=
  rfl

theorem beq_zero_iff_value (known : value? x = some v) (nonneg : 0 ≤ v) :
    (x == 0) = true ↔ v = 0 := by
  obtain ⟨n, quanta, rfl⟩ := quanta_of_value known nonneg
  rw [beq_zero_iff quanta, Nat.cast_eq_zero, mul_eq_zero, Nat.cast_eq_zero,
    or_iff_left quantum_pos.ne']

/-! ## Cutting off and rounding -/

def cut (v : ℚ) : ℤ :=
  if 0 ≤ v then ⌊v⌋ else ⌈v⌉

/-- The whole number nearest to a number, with halves away from zero. -/
def nearest (v : ℚ) : ℤ :=
  if 0 ≤ v then ⌊v + 1 / 2⌋ else ⌈v - 1 / 2⌉

theorem cut_of_nonneg (nonneg : 0 ≤ v) : cut v = ⌊v⌋ :=
  if_pos nonneg

theorem nearest_of_nonneg (nonneg : 0 ≤ v) : nearest v = ⌊v + 1 / 2⌋ :=
  if_pos nonneg

theorem cut_neg (v : ℚ) : cut (-v) = -cut v := by
  rcases lt_trichotomy v 0 with less | rfl | more
  · rw [cut, cut, if_pos (by linarith), if_neg (by linarith), Int.floor_neg]
  · simp [cut]
  · rw [cut, cut, if_neg (by linarith), if_pos more.le, Int.ceil_neg]

theorem nearest_neg (v : ℚ) : nearest (-v) = -nearest v := by
  rcases lt_trichotomy v 0 with less | rfl | more
  · rw [nearest, nearest, if_pos (by linarith), if_neg (by linarith), ← Int.floor_neg]
    congr 1
    ring
  · have half : ⌊(2⁻¹ : ℚ)⌋ = 0 := by norm_num
    simp [nearest, half]
  · rw [nearest, nearest, if_neg (by linarith), if_pos more.le, ← Int.ceil_neg]
    congr 1
    ring

theorem cut_zero : cut 0 = 0 := by
  simp [cut]

inductive Onward (v w : ℚ) : Prop where
  | up (nonneg : 0 ≤ v) (more : v ≤ w)
  | down (nonpos : v ≤ 0) (less : w ≤ v)

inductive Alongside (a b : ℤ) : Prop where
  | up (left : 0 ≤ a) (right : 0 ≤ b)
  | down (left : a ≤ 0) (right : b ≤ 0)

theorem Alongside.of_neg {a b : ℤ} (alongside : Alongside (-a) (-b)) : Alongside a b := by
  cases alongside with
  | up left right => exact .down (by omega) (by omega)
  | down left right => exact .up (by omega) (by omega)

theorem abs_cut_le (v : ℚ) : (|cut v| : ℚ) ≤ |v| := by
  rcases le_or_gt 0 v with nonneg | neg
  · have floor : 0 ≤ ⌊v⌋ := Int.floor_nonneg.mpr nonneg
    rw [cut_of_nonneg nonneg, abs_of_nonneg nonneg, abs_of_nonneg (Int.cast_nonneg floor)]
    exact Int.floor_le v
  · have floor : 0 ≤ ⌊-v⌋ := Int.floor_nonneg.mpr (by linarith)
    rw [← neg_neg v, cut_neg, cut_of_nonneg (by linarith), Int.cast_neg, abs_neg, abs_neg,
      abs_of_nonneg (Int.cast_nonneg floor), abs_of_nonneg (by linarith : 0 ≤ -v)]
    exact Int.floor_le (-v)

/-- Cutting off goes on where it has been interrupted. -/
theorem cut_onward (onward : Onward v w) :
    cut v + cut (w - cut v) = cut w ∧ Alongside (cut v) (cut (w - cut v)) ∧
      |w - cut v| ≤ |w| := by
  have upward {v w : ℚ} (nonneg : 0 ≤ v) (more : v ≤ w) :
      cut v + cut (w - cut v) = cut w ∧ Alongside (cut v) (cut (w - cut v)) ∧
        |w - cut v| ≤ |w| := by
    have floor : 0 ≤ ⌊v⌋ := Int.floor_nonneg.mpr nonneg
    have within := Int.floor_le v
    have rest : 0 ≤ w - ⌊v⌋ := by linarith
    have floor' : (0 : ℚ) ≤ ⌊v⌋ := Int.cast_nonneg floor
    rw [cut_of_nonneg nonneg, cut_of_nonneg rest, cut_of_nonneg (nonneg.trans more),
      Int.floor_sub_intCast]
    refine ⟨by omega, .up floor ?_, ?_⟩
    · have monotone := Int.floor_le_floor more
      omega
    · rw [abs_of_nonneg rest, abs_of_nonneg (nonneg.trans more)]
      linarith
  cases onward with
  | up nonneg more => exact upward nonneg more
  | down nonpos less =>
    obtain ⟨sum, alongside, short⟩ := upward (neg_nonneg.mpr nonpos) (neg_le_neg less)
    have rest : -w - cut (-v) = -(w - cut v) := by
      rw [cut_neg]
      push_cast
      ring
    rw [rest, cut_neg, cut_neg, cut_neg] at sum
    rw [rest, cut_neg, cut_neg] at alongside
    rw [rest, abs_neg, abs_neg] at short
    exact ⟨by omega, alongside.of_neg, short⟩

/-- What is left of a number that was cut off is rounded as if it had not been cut off. -/
theorem cut_add_nearest (v : ℚ) :
    cut v + nearest (v - cut v) = nearest v ∧ Alongside (cut v) (nearest (v - cut v)) ∧
      |nearest (v - cut v)| ≤ 1 := by
  have upward {v : ℚ} (nonneg : 0 ≤ v) :
      cut v + nearest (v - cut v) = nearest v ∧ Alongside (cut v) (nearest (v - cut v)) ∧
        |nearest (v - cut v)| ≤ 1 := by
    have rest : 0 ≤ v - ⌊v⌋ := sub_nonneg.mpr (Int.floor_le v)
    have short := Int.lt_floor_add_one v
    have rounded : 0 ≤ ⌊v - ⌊v⌋ + 1 / 2⌋ := Int.floor_nonneg.mpr (by linarith)
    have most : ⌊v - ⌊v⌋ + 1 / 2⌋ < 2 := Int.floor_lt.mpr (by push_cast; linarith)
    rw [cut_of_nonneg nonneg, nearest_of_nonneg rest, nearest_of_nonneg nonneg]
    refine ⟨?_, .up (Int.floor_nonneg.mpr nonneg) rounded, ?_⟩
    · rw [← Int.floor_intCast_add]
      congr 1
      ring
    · rw [abs_of_nonneg rounded]
      omega
  rcases le_total 0 v with nonneg | nonpos
  · exact upward nonneg
  · obtain ⟨sum, alongside, short⟩ := upward (neg_nonneg.mpr nonpos)
    have rest : -v - cut (-v) = -(v - cut v) := by
      rw [cut_neg]
      push_cast
      ring
    rw [rest, cut_neg, nearest_neg, nearest_neg] at sum
    rw [rest, cut_neg, nearest_neg] at alongside
    rw [rest, nearest_neg, abs_neg] at short
    exact ⟨by omega, alongside.of_neg, short⟩

theorem toInt_saturate_eq (n : Int) : (saturate n).toInt = max least32 (min n greatest32) := by
  unfold saturate
  have least : (Int32.ofInt least32).toInt = least32 := rfl
  have greatest : (Int32.ofInt greatest32).toInt = greatest32 := rfl
  split
  · rename_i below
    rw [least]
    omega
  · split
    · rename_i above
      rw [greatest]
      unfold least32 greatest32 at *
      omega
    · rename_i low high
      unfold least32 greatest32 at *
      rw [Int32.toInt_ofInt_of_le (by omega) (by omega)]
      omega

theorem toInt_saturate {n : Int} (small : |n| < 2 ^ 31) : (saturate n).toInt = n := by
  obtain ⟨low, high⟩ := abs_lt.mp small
  rw [toInt_saturate_eq, least32, greatest32]
  omega

/-- The fraction of a magnitude. -/
theorem fraction_eq (m k : Nat) :
    0 < (fraction m ((k : Int) - 149)).2 ∧
      ((fraction m ((k : Int) - 149)).1 : ℚ) / (fraction m ((k : Int) - 149)).2 =
        (m * 2 ^ k : Nat) * quantum := by
  have power : quantum = (2 ^ 149 : ℚ)⁻¹ := by
    rw [quantum, zpow_neg]
    rfl
  refine ⟨Nat.two_pow_pos _, ?_⟩
  rcases Nat.le_total 149 k with more | less
  · have up : ((k : Int) - 149).toNat = k - 149 := by omega
    have down : (-((k : Int) - 149)).toNat = 0 := by omega
    have split : (2 : ℚ) ^ k = 2 ^ (k - 149) * 2 ^ 149 := by
      rw [← pow_add, Nat.sub_add_cancel more]
    simp only [fraction, up, down, Nat.pow_eq, power]
    push_cast
    rw [split]
    field_simp
  · have up : ((k : Int) - 149).toNat = 0 := by omega
    have down : (-((k : Int) - 149)).toNat = 149 - k := by omega
    have split : (2 : ℚ) ^ 149 = 2 ^ (149 - k) * 2 ^ k := by
      rw [← pow_add, Nat.sub_add_cancel less]
    simp only [fraction, up, down, Nat.pow_eq, power]
    push_cast
    rw [split]
    field_simp

/-- Taking the whole number of a single by its magnitude is as good as by its value. -/
theorem toInt_wholeBy {round : Nat → Nat → Nat} {g : ℚ → ℤ} (odd : ∀ v, g (-v) = -g v)
    (rounds : ∀ num den : Nat, 0 < den → g (num / den) = round num den)
    (known : value? x = some v) (small : |g v| < 2 ^ 31) : (wholeBy round x).toInt = g v := by
  have form : parts x = x.toModel.unpack := rfl
  rcases value_cases known with ⟨rfl, s, zero⟩ | ⟨s, m, k, pos, -, -, rfl, finite⟩
  · have same := odd 0
    rw [neg_zero] at same
    rw [wholeBy, form, zero]
    show 0 = g 0
    omega
  · obtain ⟨some, magnitude⟩ := fraction_eq m k
    have whole : g (signed s (m * 2 ^ k) * quantum) =
        signed s (round (fraction m ((k : Int) - 149)).1 (fraction m ((k : Int) - 149)).2) := by
      cases s with
      | positive => rw [signed, signed, ← rounds _ _ some, magnitude, Int.cast_natCast]
      | negative =>
        rw [signed, signed, ← rounds _ _ some, magnitude, ← odd, Int.cast_neg, neg_mul,
          Int.cast_natCast]
    rw [whole] at small ⊢
    rw [wholeBy, form, finite]
    exact toInt_saturate small

theorem toInt_truncate (known : value? x = some v) (small : |cut v| < 2 ^ 31) :
    (truncate x).toInt = cut v := by
  refine toInt_wholeBy cut_neg (fun num den _ => ?_) known small
  rw [cut_of_nonneg (by positivity)]
  exact Rat.floor_natCast_div_natCast num den

theorem toInt_roundAway (known : value? x = some v) (small : |nearest v| < 2 ^ 31) :
    (roundAway x).toInt = nearest v := by
  refine toInt_wholeBy nearest_neg (fun num den some => ?_) known small
  have whole : (num / den + 1 / 2 : ℚ) = (2 * num + den : Nat) / (2 * den : Nat) := by
    have positive : (den : ℚ) ≠ 0 := Nat.cast_ne_zero.mpr some.ne'
    push_cast
    field_simp
  rw [nearest_of_nonneg (by positivity), whole]
  exact Rat.floor_natCast_div_natCast _ _

/-! ## Whole numbers as singles -/

/-- A whole number with many digits is rounded with room for as many again. -/
theorem unpack_ofNat_of_long {n : Nat} (long : 2 ^ 23 ≤ n) :
    (Float32.ofNat n).toModel.unpack = UnpackedFloat.unpack .binary32
      (UnpackedFloat.pack .binary32
        (roundWithAccuracy .binary32 .positive (n * 2 ^ 24) (((125 : Nat) : Int) - 149) .exact)) := by
  have form : Float32.ofNat n = Float32.ofModel (Float32.Model.ofScientific n 0) :=
    dif_neg fun both => Nat.not_lt.mpr long both.1
  have unpacked : (Float32.ofModel (Float32.Model.ofScientific n 0)).toModel.unpack =
      UnpackedFloat.unpack .binary32 (UnpackedFloat.pack .binary32
        (UnpackedFloat.ofScientific .binary32 n 0)) := rfl
  have width : Format.binary32.mantissaBits = 24 := rfl
  have large : ¬ (0 : Int) > 2 ^ Format.binary32.exponentBits := by decide
  have tiny : ¬ (0 : Int) < -((2 ^ Format.binary32.exponentBits : Int) + n.log2) := by
    have positive : (0 : Int) ≤ 2 ^ Format.binary32.exponentBits := by decide
    omega
  have exponent : -((24 : Nat) : Int) + 0 = ((125 : Nat) : Int) - 149 := by decide
  rw [form, unpacked, UnpackedFloat.ofScientific, dif_neg (by omega), if_neg large, if_neg tiny,
    if_pos le_rfl]
  simp only [UnpackedFloat.mul, width, exponent, Nat.shiftLeft_eq, Int.toNat_zero, pow_zero,
    Nat.mul_one]
  rfl

section Whole

variable {n m k : Nat} (canonical : Canonical m k) (few : k < 254) (pos : 0 < m)
  (same : n * 2 ^ 149 = m * 2 ^ k)
include canonical few same

omit few in
theorem exponent_of_whole (some : 0 < n) : 126 ≤ k := by
  by_contra less
  have small := canonical.small
  have short : m * 2 ^ k < 2 ^ 149 := by
    calc m * 2 ^ k ≤ m * 2 ^ 125 := Nat.mul_le_mul_left m (Nat.pow_le_pow_right (by decide) (by omega))
      _ < 2 ^ 24 * 2 ^ 125 := Nat.mul_lt_mul_of_pos_right small (by decide)
      _ = 2 ^ 149 := by decide
  have long : 2 ^ 149 ≤ n * 2 ^ 149 := Nat.le_mul_of_pos_left _ some
  omega

theorem unpack_toFloat32 (short : n < 2 ^ 64) :
    n.toUInt64.toFloat32.toModel.unpack = .finite .positive m ((k : Int) - 149) pos := by
  have unpacked : n.toUInt64.toFloat32.toModel.unpack = UnpackedFloat.unpack .binary32
      (UnpackedFloat.pack .binary32
        (UnpackedFloat.normalize .binary32 n.toUInt64.toNat 0 .positive)) := rfl
  have whole : n.toUInt64.toNat = n := Nat.mod_eq_of_lt short
  have some : 0 < n := by
    rcases Nat.eq_zero_or_pos n with rfl | some
    · rw [Nat.zero_mul] at same
      exact absurd same.symm (by positivity)
    · exact some
  rw [unpacked, whole, normalize_of_pos some]
  have rounded := round_eq canonical pos same .positive
  rw [Nat.cast_ofNat, Int.sub_self] at rounded
  rw [rounded, unpack_pack canonical few]

/-- A whole number that is a single is turned into that single. -/
theorem unpack_ofNat (some : 0 < n) :
    (Float32.ofNat n).toModel.unpack = .finite .positive m ((k : Int) - 149) pos := by
  have least := exponent_of_whole canonical same some
  by_cases short : n < 2 ^ 23
  · have form : Float32.ofNat n = n.toUInt64.toFloat32 * Float32.ofBits 0x3F800000 :=
      dif_pos ⟨short, by decide⟩
    have unit : (Float32.ofBits 0x3F800000).toModel.unpack =
        .finite .positive (2 ^ 23) (-23) (by decide) := rfl
    have unpacked : (n.toUInt64.toFloat32 * Float32.ofBits 0x3F800000).toModel.unpack =
        UnpackedFloat.unpack .binary32 (UnpackedFloat.pack .binary32
          (n.toUInt64.toFloat32.toModel.unpack.mul .binary32
            (Float32.ofBits 0x3F800000).toModel.unpack)) := rfl
    have exponent : (k : Int) - 149 + -23 = ((k - 23 : Nat) : Int) - 149 := by omega
    have shift : 23 = k - (k - 23) := by omega
    have rounded := roundWithAccuracy_eq canonical pos (Nat.sub_le k 23) .positive
    rw [← shift] at rounded
    rw [form, unpacked, unit, unpack_toFloat32 canonical few pos same (by omega)]
    simp only [UnpackedFloat.mul, exponent]
    rw [show Sign.positive * Sign.positive = Sign.positive from rfl, rounded,
      unpack_pack canonical few]
  · have shift : n * 2 ^ 24 = m * 2 ^ (k - 125) := by
      refine Nat.eq_of_mul_eq_mul_right (Nat.two_pow_pos 125) ?_
      rw [Nat.mul_assoc, ← pow_add, same, Nat.mul_assoc, ← pow_add,
        Nat.sub_add_cancel (by omega)]
    have rounded := roundWithAccuracy_eq canonical pos (show 125 ≤ k by omega) .positive
    rw [unpack_ofNat_of_long (Nat.not_lt.mp short), shift, rounded, unpack_pack canonical few]

end Whole

theorem one_quantum : (one : ℚ) * quantum = 1 := by
  rw [one, quantum, zpow_neg]
  push_cast
  exact mul_inv_cancel₀ (by positivity)

/-- A positive whole number that is a single keeps its value. -/
theorem value_ofNat {n : Nat} (some : 0 < n) (single : IsSingle (n * one : Nat)) :
    ∃ m k : Nat, ∃ pos : 0 < m, Canonical m k ∧ k < 254 ∧ ((m * 2 ^ k : Nat) : ℚ) * quantum = n ∧
      (Float32.ofNat n).toModel.unpack = .finite .positive m ((k : Int) - 149) pos := by
  obtain ⟨z, known⟩ := single
  rcases quanta_cases known with ⟨zero, -⟩ | ⟨top, -⟩ | ⟨m, k, pos, canonical, same, form⟩
  · exact absurd zero (cast_pos_of_pos some 149).ne'
  · exact absurd top (ENat.natCast_ne_top _)
  · have same : n * one = m * 2 ^ k := Nat.cast_injective same
    have few := exponent_lt_of_unpack form
    refine ⟨m, k, pos, canonical, few, ?_, unpack_ofNat canonical few pos same some⟩
    rw [← same, Nat.cast_mul, mul_assoc, one_quantum, mul_one]

/-- A whole number that is a single keeps its value. -/
theorem value_ofWhole {n : Int32} (single : IsSingle (n.toInt.natAbs * one : Nat)) :
    value? (ofWhole n) = some (n.toInt : ℚ) := by
  rw [ofWhole]
  cases whole : n.toInt with
  | ofNat a =>
    rcases Nat.eq_zero_or_pos a with rfl | some
    · rfl
    · rw [whole] at single
      obtain ⟨m, k, pos, -, -, value, form⟩ := value_ofNat some single
      rw [Float32.ofInt, value_finite form, signed, Int.cast_natCast, value]
      rfl
  | negSucc a =>
    rw [whole] at single
    obtain ⟨m, k, pos, canonical, few, value, form⟩ := value_ofNat (Nat.succ_pos a) single
    have negated : (Float32.ofNat a.succ).neg.toModel.unpack =
        .finite .negative m ((k : Int) - 149) pos := by
      have unpacked : (Float32.ofNat a.succ).neg.toModel.unpack = UnpackedFloat.unpack .binary32
          (UnpackedFloat.pack .binary32 (Float32.ofNat a.succ).toModel.unpack.neg) := rfl
      rw [unpacked, form]
      exact unpack_pack canonical few pos .negative
    rw [Float32.ofInt, value_finite negated, signed, Int.cast_neg, neg_mul, Int.cast_natCast, value,
      Int.cast_negSucc]

theorem natAbs_cut_signed (s : Sign) (m k : Nat) :
    (cut (signed s (m * 2 ^ k) * quantum)).natAbs =
      (fraction m ((k : Int) - 149)).1 / (fraction m ((k : Int) - 149)).2 := by
  have magnitude : cut ((m * 2 ^ k : Nat) * quantum) =
      ((fraction m ((k : Int) - 149)).1 / (fraction m ((k : Int) - 149)).2 : Nat) := by
    rw [← (fraction_eq m k).2, cut_of_nonneg (by positivity)]
    exact Rat.floor_natCast_div_natCast _ _
  cases s with
  | positive => rw [signed, Int.cast_natCast, magnitude, Int.natAbs_natCast]
  | negative =>
    rw [signed, Int.cast_neg, neg_mul, Int.cast_natCast, cut_neg, magnitude, Int.natAbs_neg,
      Int.natAbs_natCast]

/-- What is cut off a single has no more digits than the single. -/
theorem isSingle_cut (known : value? x = some v) : IsSingle ((cut v).natAbs * one : Nat) := by
  rcases value_cases known with ⟨rfl, -⟩ | ⟨s, m, k, pos, canonical, few, rfl, -⟩
  · rw [cut_zero, Int.natAbs_zero, Nat.zero_mul]
    exact isSingle_zero
  · rw [natAbs_cut_signed]
    rcases Nat.le_total 149 k with more | less
    · have up : ((k : Int) - 149).toNat = k - 149 := by omega
      have down : (-((k : Int) - 149)).toNat = 0 := by omega
      have whole : m * 2 ^ (k - 149) / 2 ^ 0 * one = m * 2 ^ k := by
        rw [pow_zero, Nat.div_one, one, Nat.mul_assoc, ← pow_add, Nat.sub_add_cancel more]
      simp only [fraction, up, down, Nat.pow_eq, whole]
      exact canonical.isSingle few
    · refine isSingle_whole ?_
      have up : ((k : Int) - 149).toNat = 0 := by omega
      simp only [fraction, up, Nat.pow_eq, pow_zero, Nat.mul_one]
      exact (Nat.div_le_self _ _).trans_lt canonical.small

end SkillScript.Number
