import SkillScript.Proofs.Number.Quanta
import SkillScript.Proofs.Number.Sign
/-!
# Differences that are rounded

Taking a proper single from another one that is not less leaves a proper single that is
not more than what there was, also where the exact difference has to be rounded: the
number it was taken from is a single, and rounding does not go past a single. What is
taken from itself leaves zero, unless it is infinite.
-/
set_option autoImplicit false
namespace SkillScript.Number

open Float.Model Float.Model.UnpackedFloat

/-! ## Singles from their canonical form -/

/-- The exponent of a finite single stays below that of the infinite. -/
theorem exponent_lt_of_unpack {b : BitVec 32} {s : Sign} {m k : Nat} {pos : 0 < m}
    (unpacked : UnpackedFloat.unpack .binary32 b = .finite s m ((k : Int) - 149) pos) :
    k < 254 := by
  have few : (@unpackExponent .binary32 b).toNat < 2 ^ 8 := BitVec.isLt _
  have bias : ((Format.binary32.exponentBias : Nat) : Int) = 127 := rfl
  simp only [UnpackedFloat.unpack, bias] at unpacked
  split at unpacked
  · split at unpacked <;> cases unpacked
  · rename_i finite
    have below : (@unpackExponent .binary32 b).toNat ≠ 255 := by
      intro last
      apply finite
      exact BitVec.eq_of_toNat_eq last
    split at unpacked
    · rename_i least
      split at unpacked
      · cases unpacked
      · injection unpacked with _ _ exponent
        rw [least] at exponent
        have none : ((0#8).toNat : Int) = 0 := rfl
        simp at exponent
        omega
    · injection unpacked with _ _ exponent
      simp at exponent
      omega

/-! ## Rounding -/

section Rounding

variable {n c a : Nat}

/-- The quotient of `n` by a power of two, rounded to the nearest; halfway between two, to the even
one. -/
def halfEven (n a : Nat) : Nat :=
  if 2 * (n % 2 ^ a) < 2 ^ a ∨ 2 * (n % 2 ^ a) = 2 ^ a ∧ n / 2 ^ a % 2 = 0 then n / 2 ^ a
  else n / 2 ^ a + 1

theorem halfEven_bounds (n a : Nat) :
    n / 2 ^ a ≤ halfEven n a ∧ halfEven n a ≤ n / 2 ^ a + 1 ∧
      (2 ^ a ∣ n → halfEven n a = n / 2 ^ a) := by
  refine ⟨?_, ?_, fun whole => ?_⟩
  · rw [halfEven]
    split <;> omega
  · rw [halfEven]
    split <;> omega
  · have none := Nat.mod_eq_zero_of_dvd whole
    have positive := Nat.two_pow_pos a
    rw [halfEven, none, if_pos (Or.inl (by omega))]

/-- The first digit that is shifted out is kept apart; of the others it is kept whether there are
any. -/
theorem shiftRight_succ (n a : Nat) :
    (⟨n, false, false⟩ : ExtendedMantissa) >>> (a + 1) =
      ⟨n / 2 ^ (a + 1), n / 2 ^ a % 2 != 0, n % 2 ^ a != 0⟩ := by
  show (a + 1).repeat ExtendedMantissa.shiftRightOne _ = _
  induction a with
  | zero => simp [Nat.repeat, ExtendedMantissa.shiftRightOne, Nat.mod_one]
  | succ a ih =>
    have digits : (n % 2 ^ (a + 1) != 0) = (n / 2 ^ a % 2 != 0 || n % 2 ^ a != 0) := by
      rw [Bool.eq_iff_iff]
      simp only [bne_iff_ne, Bool.or_eq_true, Nat.mod_pow_succ, ne_eq, Nat.add_eq_zero_iff,
        Nat.mul_eq_zero, (Nat.two_pow_pos a).ne', false_or]
      tauto
    rw [Nat.repeat, ih, digits]
    simp [ExtendedMantissa.shiftRightOne, Nat.div_div_eq_div_mul, pow_succ]

/-- The mantissa after a shift, rounded to the nearest. -/
def shifted (n a : Nat) : Nat :=
  ((⟨n, false, false⟩ : ExtendedMantissa) >>> a).roundedMantissa

theorem shifted_eq (n a : Nat) : shifted n a = halfEven n a := by
  cases a with
  | zero =>
    have still : (⟨n, false, false⟩ : ExtendedMantissa) >>> 0 = ⟨n, false, false⟩ := rfl
    simp [shifted, still, halfEven, Nat.mod_one, ExtendedMantissa.roundedMantissa,
      ExtendedMantissa.accuracy, Accuracy.roundToNearestEven]
  | succ a =>
    have parts := Nat.mod_pow_succ (b := 2) (k := a) (x := n)
    have small := Nat.mod_lt n (Nat.two_pow_pos a)
    have double : 2 ^ (a + 1) = 2 * 2 ^ a := by ring
    rw [shifted, shiftRight_succ, halfEven]
    -- The digit that is kept apart decides, and a tie is left if it is the only one.
    rcases Nat.mod_two_eq_zero_or_one (n / 2 ^ a) with low | high
    · rw [low, Nat.mul_zero, Nat.add_zero] at parts
      rw [if_pos (Or.inl (by omega)), low]
      cases n % 2 ^ a != 0 <;> rfl
    · rw [high, Nat.mul_one] at parts
      rw [high]
      by_cases tie : n % 2 ^ a = 0
      · rw [tie] at parts ⊢
        have rounded : n / 2 ^ (a + 1) + n / 2 ^ (a + 1) % 2 = if 2 * (n % 2 ^ (a + 1)) <
            2 ^ (a + 1) ∨ 2 * (n % 2 ^ (a + 1)) = 2 ^ (a + 1) ∧ n / 2 ^ (a + 1) % 2 = 0
            then n / 2 ^ (a + 1) else n / 2 ^ (a + 1) + 1 := by
          split <;> omega
        exact rounded
      · rw [if_neg (by omega), bne_iff_ne.mpr tie]
        rfl

/-- What is below a multiple is not rounded past it. -/
theorem shifted_le (below : n ≤ c * 2 ^ a) : shifted n a ≤ c := by
  have pos : 0 < 2 ^ a := by positivity
  obtain ⟨-, most, exact⟩ := halfEven_bounds n a
  rw [shifted_eq]
  by_cases whole : 2 ^ a ∣ n
  · rw [exact whole]
    exact Nat.div_le_of_le_mul (by rwa [Nat.mul_comm])
  · -- The multiple is not met, so one more is still not past it.
    have rest : n / 2 ^ a * 2 ^ a ≠ n := fun same => whole (Dvd.intro_left _ same)
    have less : n / 2 ^ a * 2 ^ a < c * 2 ^ a := by
      have floor := Nat.div_mul_le_self n (2 ^ a)
      omega
    have quotient : n / 2 ^ a < c := Nat.lt_of_mul_lt_mul_right less
    omega

/-- The least exponent, counted from the least of all, at which a mantissa is short enough. -/
def short (n j : Nat) : Nat :=
  n.log2 + j - 23

theorem targetExponent_short (n j : Nat) :
    Format.binary32.targetExponent (totalExponent n ((j : Int) - 149)) =
      (short n j : Int) - 149 := by
  have digits : (Format.binary32.mantissaBits : Int) = 24 := rfl
  have least : Format.binary32.minExponent = -149 := rfl
  simp only [Format.targetExponent, totalExponent, digits, least, short]
  omega

theorem decreaseExponent_short (n j K : Nat) :
    decreaseExponent n ((j : Int) - 149) ((K : Int) - 149) =
      (n * 2 ^ (j - K), ((min j K : Nat) : Int) - 149) := by
  have amount : ((j : Int) - 149 - ((K : Int) - 149)).toNat = j - K := by omega
  simp only [decreaseExponent, amount, Nat.shiftLeft_eq, Prod.mk.injEq, true_and]
  omega

/-- A mantissa that was shifted until it is short, and rounded, has a canonical form. -/
theorem canonical_shifted {i : Nat} (pos : 0 < n) (low : i ≤ short n i) :
    ∃ m k, Canonical m k ∧ 0 < m ∧ short n i ≤ k ∧
      shifted n (short n i - i) = m * 2 ^ (k - short n i) := by
  obtain ⟨least, -, exact⟩ := halfEven_bounds n (short n i - i)
  rw [← shifted_eq] at least exact
  have bounds := (Nat.log2_eq_iff pos.ne').mp rfl
  have most : shifted n (short n i - i) ≤ 2 ^ 24 := by
    apply shifted_le
    rw [← pow_add]
    have enough : n.log2 + 1 ≤ 24 + (short n i - i) := by
      simp only [short]
      omega
    exact bounds.2.le.trans (Nat.pow_le_pow_right (by decide) enough)
  have full : 0 < short n i → 2 ^ 23 ≤ shifted n (short n i - i) := by
    intro more
    refine Nat.le_trans ?_ least
    rw [Nat.le_div_iff_mul_le (by positivity), ← pow_add]
    have digits : 23 + (short n i - i) ≤ n.log2 := by
      simp only [short] at *
      omega
    exact (Nat.pow_le_pow_right (by decide) digits).trans bounds.1
  have some : 0 < shifted n (short n i - i) := by
    rcases Nat.eq_zero_or_pos (short n i) with none | more
    · have still : short n i - i = 0 := by omega
      rw [still, pow_zero, Nat.div_one] at least
      rw [still]
      omega
    · exact Nat.lt_of_lt_of_le (by positivity) (full more)
  rcases Nat.lt_or_ge (shifted n (short n i - i)) (2 ^ 24) with small | carry
  · refine ⟨_, short n i, ⟨small, fun less => ?_⟩, some, Nat.le_refl _, by simp⟩
    by_contra more
    exact absurd (full (Nat.pos_of_ne_zero more)) (Nat.not_le.mpr less)
  · -- Rounding has carried into a new digit.
    refine ⟨2 ^ 23, short n i + 1, ⟨by decide, fun less => absurd less (Nat.lt_irrefl _)⟩,
      by decide, Nat.le_succ _, ?_⟩
    rw [Nat.add_sub_cancel_left]
    omega

/-- A mantissa that is not too short for its exponent is shifted and rounded. -/
theorem roundWithAccuracy_shifted {i : Nat} (pos : 0 < n) (low : i ≤ short n i) (s : Sign) :
    ∃ m k : Nat, ∃ pos' : 0 < m, Canonical m k ∧
      m * 2 ^ k = shifted n (short n i - i) * 2 ^ short n i ∧
      roundWithAccuracy .binary32 s n ((i : Int) - 149) .exact =
        .finite s m ((k : Int) - 149) pos' := by
  obtain ⟨m, k, canonical, pos', more, rounded⟩ := canonical_shifted pos low
  have same : m * 2 ^ k = shifted n (short n i - i) * 2 ^ short n i := by
    rw [rounded, Nat.mul_assoc, ← pow_add, Nat.sub_add_cancel more]
  refine ⟨m, k, pos', canonical, same, ?_⟩
  have second := shiftToTargetExponent_eq canonical pos' more
  have amount : ((short n i : Int) - 149 - ((i : Int) - 149)).toNat = short n i - i := by omega
  have exponent : (i : Int) - 149 + ((short n i - i : Nat) : Int) = (short n i : Int) - 149 := by
    omega
  have first : shiftToTargetExponent .binary32 n ((i : Int) - 149) .exact =
      ((⟨n, false, false⟩ : ExtendedMantissa) >>> (short n i - i), (short n i : Int) - 149) := by
    simp only [shiftToTargetExponent, targetExponent_short, shiftToExponent, amount, exponent,
      ExtendedMantissa.ofMantissaAndAccuracy]
  have middle : ((⟨n, false, false⟩ : ExtendedMantissa) >>> (short n i - i)).roundedMantissa =
      m * 2 ^ (k - short n i) := rounded
  simp only [roundWithAccuracy, first, middle, second]
  rw [dif_neg pos'.ne']

/-- Rounding does not go past a single. -/
theorem round_le {m k j : Nat} (canonical : Canonical m k) (few : k < 254) (pos : 0 < n)
    (below : n * 2 ^ j ≤ m * 2 ^ k) :
    ∃ m' k' : Nat, ∃ pos' : 0 < m', Canonical m' k' ∧ k' < 254 ∧ m' * 2 ^ k' ≤ m * 2 ^ k ∧
      UnpackedFloat.round .binary32 .positive n ((j : Int) - 149) =
        .finite .positive m' ((k' : Int) - 149) pos' := by
  -- First the exponent is brought down to that at which the mantissa is short.
  generalize lowered : n * 2 ^ (j - short n j) = w
  have positive : 0 < w := by
    rw [← lowered]
    positivity
  have logarithm : w.log2 = n.log2 + (j - short n j) := by
    rw [← lowered, log2_mul_two_pow pos.ne']
  have target : short w (min j (short n j)) = short n j := by
    simp only [short] at *
    omega
  have value : w * 2 ^ min j (short n j) = n * 2 ^ j := by
    rw [← lowered, Nat.mul_assoc, ← pow_add]
    congr 2
    omega
  obtain ⟨m', k', pos', canonical', same, rounded⟩ :=
    roundWithAccuracy_shifted positive (i := min j (short n j)) (by omega) .positive
  rw [target] at same
  have room : short n j ≤ k := by
    have digits := (Nat.log2_eq_iff pos.ne').mp rfl
    have large : 2 ^ (n.log2 + j) < 2 ^ (24 + k) := by
      calc 2 ^ (n.log2 + j) = 2 ^ n.log2 * 2 ^ j := pow_add ..
        _ ≤ n * 2 ^ j := Nat.mul_le_mul_right _ digits.1
        _ ≤ m * 2 ^ k := below
        _ < 2 ^ 24 * 2 ^ k := Nat.mul_lt_mul_of_pos_right canonical.small (by positivity)
        _ = 2 ^ (24 + k) := (pow_add ..).symm
    have order := (Nat.pow_lt_pow_iff_right (by decide)).mp large
    simp only [short]
    omega
  -- The single is a multiple of the unit to which the mantissa is rounded.
  have multiple : m * 2 ^ k = m * 2 ^ (k - short n j) * 2 ^ short n j := by
    rw [Nat.mul_assoc, ← pow_add, Nat.sub_add_cancel room]
  have within : shifted w (short n j - min j (short n j)) * 2 ^ short n j ≤ m * 2 ^ k := by
    rw [multiple]
    apply Nat.mul_le_mul_right
    apply shifted_le
    refine Nat.le_of_mul_le_mul_right (c := 2 ^ min j (short n j)) ?_ (by positivity)
    rw [value, Nat.mul_assoc, ← pow_add, Nat.sub_add_cancel (Nat.min_le_right ..), ← multiple]
    exact below
  have less : k' ≤ k := by
    by_contra larger
    have wrong := canonical.lt_of_lt canonical' (Nat.lt_of_not_le larger)
    omega
  refine ⟨m', k', pos', canonical', by omega, by omega, ?_⟩
  simp only [UnpackedFloat.round, targetExponent_short, decreaseExponent_short, lowered]
  exact rounded

end Rounding

/-! ## Proper singles in order -/

section Order

variable {x y z : Float32}

theorem proper_of_quanta {n : ℕ∞} (known : quanta? x = some n) : Proper x where
  number := isNaN_eq_false known
  nonneg := not_lt_zero known

/-- Proper singles are those that have quanta. -/
theorem Proper.quanta (proper : Proper x) : ∃ n, quanta? x = some n := by
  have number := proper.number
  have nonneg := proper.nonneg
  have unpacked : x.isNaN = x.toModel.unpack.isNaN := rfl
  rw [unpacked] at number
  rw [lt_zero_iff] at nonneg
  rw [quanta?]
  generalize x.toModel.unpack = f at *
  cases f with
  | notANumber => cases number
  | zero s => exact ⟨_, rfl⟩
  | infinity s =>
    cases s with
    | positive => exact ⟨_, rfl⟩
    | negative => exact absurd rfl nonneg
  | finite s m e pos =>
    cases s with
    | positive => exact ⟨_, rfl⟩
    | negative => exact absurd rfl nonneg

theorem Proper.le_refl (proper : Proper x) : x ≤ x := by
  obtain ⟨n, known⟩ := proper.quanta
  rw [le_iff known known]

theorem Proper.zero_le (proper : Proper x) : 0 ≤ x := by
  obtain ⟨n, known⟩ := proper.quanta
  rw [le_iff quanta_zero known]
  exact bot_le

theorem Proper.le_trans (proper : Proper x) (first : x ≤ y) (second : y ≤ z) : x ≤ z := by
  obtain ⟨n, known⟩ := proper.quanta
  obtain ⟨m, known'⟩ := quanta_of_le known first
  obtain ⟨l, known''⟩ := quanta_of_le known' second
  rw [le_iff known known'] at first
  rw [le_iff known' known''] at second
  rw [le_iff known known'']
  exact first.trans second

theorem Proper.of_le (proper : Proper x) (le : x ≤ y) : Proper y := by
  obtain ⟨n, known⟩ := proper.quanta
  obtain ⟨m, known'⟩ := quanta_of_le known le
  exact proper_of_quanta known'

/-- What is not positive is not more than anything that is proper. -/
theorem Proper.le_of_not_zero_lt (proper : Proper x) (nonpos : ¬ 0 < x) (proper' : Proper y) :
    x ≤ y := by
  obtain ⟨n, known⟩ := proper.quanta
  obtain ⟨m, known'⟩ := proper'.quanta
  rw [lt_iff quanta_zero known, not_lt] at nonpos
  rw [le_iff known known']
  exact nonpos.trans bot_le

/-- Nothing is more than the infinite. -/
theorem Proper.le_of_isInf (proper : Proper x) (infinite : y.isInf = true) (pos : 0 < y) :
    x ≤ y := by
  obtain ⟨n, known⟩ := proper.quanta
  have top : quanta? y = some ⊤ := by
    have unpacked : y.isInf = y.toModel.unpack.isInf := rfl
    rw [unpacked] at infinite
    rw [zero_lt_iff] at pos
    rw [quanta?]
    generalize y.toModel.unpack = f at *
    cases f with
    | infinity s =>
      obtain rfl : s = .positive := pos
      rfl
    | _ => cases infinite
  rw [le_iff known top]
  exact le_top

theorem Proper.minNum (proper : Proper x) (proper' : Proper y) : Proper (Number.minNum x y) := by
  obtain ⟨n, known⟩ := proper.quanta
  obtain ⟨m, known'⟩ := proper'.quanta
  exact proper_of_quanta (quanta_minNum known known')

theorem Proper.minNum_le (proper : Proper x) (proper' : Proper y) : Number.minNum x y ≤ x := by
  obtain ⟨n, known⟩ := proper.quanta
  obtain ⟨m, known'⟩ := proper'.quanta
  rw [le_iff (quanta_minNum known known') known]
  exact min_le_left n m

theorem Proper.minNum_zero (proper : Proper x) : Number.minNum 0 x = 0 := by
  obtain ⟨n, known⟩ := proper.quanta
  have more : ¬ n < 0 := not_lt_bot
  rw [minNum_eq quanta_zero known, if_neg more]

theorem Proper.atLeastZero_eq (proper : Proper x) : atLeastZero x = x := by
  obtain ⟨n, known⟩ := proper.quanta
  exact Number.atLeastZero_eq known

end Order

/-! ## Differences -/

section Differences

variable {x y : Float32} {n m : ℕ∞}

/-- Packing keeps the value of a number in canonical form. -/
theorem quanta_of_canonical {a k : Nat} {pos : 0 < a} (canonical : Canonical a k) (few : k < 254)
    (unpacked : (x - y).toModel.unpack = UnpackedFloat.unpack .binary32
      (UnpackedFloat.pack .binary32 (.finite .positive a ((k : Int) - 149) pos))) :
    quanta? (x - y) = some ((a * 2 ^ k : Nat) : ℕ∞) := by
  rw [quanta?, unpacked, unpack_pack canonical few, quantaOf, Int.sub_add_cancel,
    Int.toNat_natCast]

/-- A difference that is rounded is not more than what it was taken from. -/
theorem quanta_sub_le (known : quanta? x = some n) (known' : quanta? y = some m) (less : m ≤ n)
    (finite : m ≠ ⊤) : ∃ d, quanta? (x - y) = some d ∧ d ≤ n := by
  by_cases single : IsSingle (n - m)
  · exact ⟨n - m, quanta_sub known known' less finite single, tsub_le_self⟩
  · -- Zero and the infinite are singles, so both numbers are positive and finite.
    rcases quanta_cases known' with ⟨rfl, -⟩ | ⟨top, -⟩ | ⟨b, l, pos', -, rfl, right⟩
    · rw [tsub_zero] at single
      exact absurd ⟨x, known⟩ single
    · exact absurd top finite
    · rcases quanta_cases known with ⟨rfl, -⟩ | ⟨rfl, -⟩ | ⟨a, k, pos, canonical, rfl, left⟩
      · exact absurd less (cast_pos_of_pos pos' l).not_ge
      · rw [ENat.top_sub_natCast] at single
        exact absurd ⟨x, known⟩ single
      · obtain ⟨d, difference, unpacked⟩ := unpack_sub_finite left right (Nat.cast_le.mp less)
        have more : 0 < d := by
          by_contra none
          obtain rfl : d = 0 := by omega
          rw [Nat.zero_mul] at difference
          rw [← ENat.natCast_sub, difference, Nat.cast_zero] at single
          exact single isSingle_zero
        obtain ⟨c, j, pos'', canonical', few, within, rounded⟩ :=
          round_le canonical (exponent_lt_of_unpack left) more
            (difference.symm.le.trans (Nat.sub_le _ _))
        rw [normalize_of_pos more, rounded] at unpacked
        exact ⟨_, quanta_of_canonical canonical' few unpacked, Nat.cast_le.mpr within⟩

/-! ## No number at all -/

theorem isNaN_iff : x.isNaN = true ↔ x.toModel.unpack = .notANumber := by
  have unpacked : x.isNaN = x.toModel.unpack.isNaN := rfl
  rw [unpacked]
  cases x.toModel.unpack <;> simp [UnpackedFloat.isNaN]

theorem not_lt_zero_of_isNaN (nan : x.isNaN = true) : ¬ x < 0 := by
  rw [lt_zero_iff, isNaN_iff.mp nan]
  exact id

theorem atLeastZero_of_isNaN (nan : x.isNaN = true) : atLeastZero x = 0 := by
  rw [atLeastZero, maxNum, if_pos nan]

theorem isNaN_sub_of_unpack {f g : UnpackedFloat} (left : x.toModel.unpack = f)
    (right : y.toModel.unpack = g) (nan : f.sub .binary32 g = .notANumber) :
    (x - y).isNaN = true := by
  rw [isNaN_iff, unpack_sub, left, right, nan]
  exact unpack_packedNaN

theorem isNaN_sub (nan : x.isNaN = true) (y : Float32) : (x - y).isNaN = true :=
  isNaN_sub_of_unpack (isNaN_iff.mp nan) rfl rfl

/-- What is finite and not negative has finitely many quanta. -/
theorem ne_top_of_isFinite (known : quanta? x = some n) (finite : x.isFinite = true) : n ≠ ⊤ := by
  have unpacked : x.isFinite = x.toModel.unpack.isFinite := rfl
  rw [unpacked] at finite
  rcases quanta_cases known with ⟨rfl, -⟩ | ⟨-, form⟩ | ⟨a, k, pos, -, rfl, -⟩
  · exact ENat.zero_ne_top
  · rw [form] at finite
    cases finite
  · exact ENat.natCast_ne_top _

theorem isNaN_sub_top (known : quanta? x = some ⊤) (known' : quanta? y = some ⊤) :
    (x - y).isNaN = true := by
  have infinite {z : Float32} (top : quanta? z = some ⊤) :
      z.toModel.unpack = .infinity .positive := by
    rcases quanta_cases top with ⟨zero, -⟩ | ⟨-, form⟩ | ⟨a, k, pos, -, finite, -⟩
    · exact absurd zero ENat.top_ne_zero
    · exact form
    · exact absurd finite.symm (ENat.natCast_ne_top _)
  exact isNaN_sub_of_unpack (infinite known) (infinite known') rfl

/-- What is left of a proper single when not more than it is taken away. -/
theorem sub_cases (known : quanta? x = some n) (known' : quanta? y = some m) (less : m ≤ n) :
    (x - y).isNaN = true ∨ ∃ d, quanta? (x - y) = some d ∧ d ≤ n := by
  by_cases finite : m = ⊤
  · subst finite
    obtain rfl : n = ⊤ := top_le_iff.mp less
    exact Or.inl (isNaN_sub_top known known')
  · exact Or.inr (quanta_sub_le known known' less finite)

/-- Taking away as much as there is, or more, leaves nothing positive. -/
theorem not_zero_lt_sub_of_le (known : quanta? x = some n) (known' : quanta? y = some m)
    (less : n ≤ m) : ¬ 0 < x - y := by
  rcases quanta_cases known with ⟨rfl, s, left⟩ | ⟨rfl, left⟩ | ⟨a, k, pos, -, rfl, left⟩
  · have nonpos : ¬ 0 < x := by
      rw [zero_lt_iff, left]
      exact id
    exact not_zero_lt_sub nonpos (not_lt_zero known')
  all_goals
    rw [zero_lt_iff, unpack_sub, left]
    intro signed
    have signed := signed_of_pack signed
    rcases quanta_cases known' with ⟨rfl, -⟩ | ⟨rfl, right⟩ | ⟨b, l, pos', -, rfl, right⟩
  · cases less
  · rw [right] at signed
    exact signed
  · exact absurd less (ENat.natCast_lt_top _).not_ge
  · exact absurd less (cast_pos_of_pos pos k).not_ge
  · rw [right] at signed
    cases signed
  · rw [right, sub_finite] at signed
    refine normalize_of_nonpos .binary32 ?_ _ _ signed
    have first : a * 2 ^ k = a * 2 ^ (k - min k l) * 2 ^ min k l := by
      rw [Nat.mul_assoc, ← pow_add, Nat.sub_add_cancel (Nat.min_le_left k l)]
    have second : b * 2 ^ l = b * 2 ^ (l - min k l) * 2 ^ min k l := by
      rw [Nat.mul_assoc, ← pow_add, Nat.sub_add_cancel (Nat.min_le_right k l)]
    have ordered := Nat.cast_le.mp less
    rw [first, second] at ordered
    have ordered := Nat.le_of_mul_le_mul_right ordered (by positivity)
    omega

/-- Taking away as much as there is, or more, leaves nothing positive when it is counted. -/
theorem not_zero_lt_atLeastZero_sub (proper : Proper x) (less : x ≤ y) :
    ¬ 0 < atLeastZero (x - y) := by
  obtain ⟨n, known⟩ := proper.quanta
  obtain ⟨m, known'⟩ := quanta_of_le known less
  rw [le_iff known known'] at less
  exact not_zero_lt_atLeastZero (not_zero_lt_sub_of_le known known' less)

/-- Taking away never makes more, also where it leaves no number at all. -/
theorem Proper.atLeastZero_sub_le (proper : Proper x) (proper' : Proper y) :
    atLeastZero (x - y) ≤ x := by
  obtain ⟨n, known⟩ := proper.quanta
  obtain ⟨m, known'⟩ := proper'.quanta
  rcases le_total n m with more | less
  · rw [← le_iff known known'] at more
    exact (proper_atLeastZero _).le_of_not_zero_lt (not_zero_lt_atLeastZero_sub proper more) proper
  · rcases sub_cases known known' less with lost | ⟨d, left, within⟩
    · rw [atLeastZero_of_isNaN lost]
      exact proper.zero_le
    · rw [Number.atLeastZero_eq left, le_iff left known]
      exact within

/-! ## What a timer takes -/

variable {step : Float32} {d : ℕ∞}

theorem minNum_of_isNaN (nan : y.isNaN = true) (number : x.isNaN = false) : minNum x y = x := by
  rw [minNum, if_neg (Bool.eq_false_iff.mp number), if_pos nan]

/-- A step that is not negative takes no more than there is, whatever else it is. -/
theorem quanta_minNum_of_forward (known : quanta? x = some n) (forward : ¬ step < 0) :
    ∃ m, quanta? (minNum step x) = some m ∧ m ≤ n := by
  by_cases lost : step.isNaN = true
  · refine ⟨n, ?_, le_rfl⟩
    rw [minNum, if_pos lost]
    exact known
  · obtain ⟨d, known'⟩ := Proper.quanta ⟨Bool.eq_false_iff.mpr lost, forward⟩
    exact ⟨_, quanta_minNum known' known, min_le_right d n⟩

/-- What is left of a time that is not negative is not negative. -/
theorem not_sub_minNum_lt (forward : ¬ step < 0) (owed : ¬ x < 0) :
    ¬ x - minNum step x < 0 := by
  by_cases nan : x.isNaN = true
  · exact not_lt_zero_of_isNaN (isNaN_sub nan _)
  · rw [Bool.not_eq_true] at nan
    obtain ⟨n, known⟩ := Proper.quanta ⟨nan, owed⟩
    obtain ⟨m, known', less⟩ := quanta_minNum_of_forward known forward
    rcases sub_cases known known' less with lost | ⟨r, left, -⟩
    · exact not_lt_zero_of_isNaN lost
    · exact not_lt_zero left

theorem quanta_minNum_le (known : quanta? step = some d) (owed : ¬ x < 0) :
    ∃ m, quanta? (minNum step x) = some m ∧ m ≤ d := by
  by_cases nan : x.isNaN = true
  · rw [minNum_of_isNaN nan (isNaN_eq_false known)]
    exact ⟨d, known, le_rfl⟩
  · obtain ⟨n, known'⟩ := Proper.quanta ⟨Bool.eq_false_iff.mpr nan, owed⟩
    exact ⟨_, quanta_minNum known known', min_le_left d n⟩

/-- What is not taken of a step is proper and not more than the step. -/
theorem atLeastZero_sub_le (known : quanta? step = some d) (owed : ¬ x < 0) :
    Proper (atLeastZero (step - minNum step x)) ∧
      atLeastZero (step - minNum step x) ≤ step := by
  refine ⟨proper_atLeastZero _, ?_⟩
  obtain ⟨m, taken, less⟩ := quanta_minNum_le known owed
  rcases sub_cases known taken less with lost | ⟨r, left, within⟩
  · rw [atLeastZero_of_isNaN lost, le_iff quanta_zero known]
    exact bot_le
  · rw [atLeastZero_eq left, le_iff left known]
    exact within

theorem eq_zero_of_unpack (unpacked : x.toModel.unpack = .zero .positive) : x = 0 := by
  have same : x.toModel.toBits.toBitVec = (0 : Float32).toModel.toBits.toBitVec := by
    rw [← pack_unpack_of_valid x.toModel.valid, ← pack_unpack_of_valid (0 : Float32).toModel.valid]
    exact congrArg (UnpackedFloat.pack .binary32) unpacked
  obtain ⟨⟨bits, valid⟩⟩ := x
  have equal : bits = (0 : Float32).toModel.toBits := UInt32.toBitVec_inj.mp same
  subst equal
  rfl

/-- Nothing is left of a step that was taken whole. -/
theorem atLeastZero_sub_self (known : quanta? x = some n) : atLeastZero (x - x) = 0 := by
  by_cases infinite : n = ⊤
  · subst infinite
    exact atLeastZero_of_isNaN (isNaN_sub_top known known)
  · have unpacked : (x - x).toModel.unpack = UnpackedFloat.unpack .binary32
        (UnpackedFloat.pack .binary32 (.zero .positive)) := by
      rcases quanta_cases known with ⟨-, s, form⟩ | ⟨top, -⟩ | ⟨a, k, pos, -, -, form⟩
      · rw [unpack_sub, form]
        cases s <;> rfl
      · exact absurd top infinite
      · rw [unpack_sub, form, sub_finite, normalize_of_eq (Int.sub_self _)]
    rw [eq_zero_of_unpack (unpacked.trans unpack_packedZero)]
    exact atLeastZero_eq quanta_zero

end Differences

end SkillScript.Number
