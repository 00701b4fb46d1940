import SkillScript.Proofs.Number.Value
/-!
# Whole numbers rounded to singles

A single has room for 24 binary digits. A whole number with more of them is rounded to
the nearest one that fits, and halfway between two of these to the one whose last digit
is even. This is what becomes of the literals of scripts.
-/
set_option autoImplicit false
namespace SkillScript.Number

open Float.Model Float.Model.UnpackedFloat

/-- How many of the last binary digits there is no room for. -/
def excess (n : Nat) : Nat :=
  n.log2 - 23

def roundedSize (n : Nat) : Nat :=
  halfEven n (excess n) * 2 ^ excess n

def rounded (n : Int) : Int :=
  n.sign * roundedSize n.natAbs

/-- Whether a whole number is a single: it has at most 24 binary digits, and zeros behind them. -/
def Fits (n : Int) : Prop :=
  ∃ c j : Nat, c < 2 ^ 24 ∧ n.natAbs = c * 2 ^ j

structure Nearest (n m : Int) : Prop where
  fits : Fits m
  least : ∀ m', Fits m' → (n - m).natAbs ≤ (n - m').natAbs

/-! ## The nearest one -/

/-- No other multiple of a power of two is nearer. -/
theorem halfEven_nearest (n a c : Nat) :
    ((n : Int) - (halfEven n a * 2 ^ a : Nat)).natAbs ≤ ((n : Int) - (c * 2 ^ a : Nat)).natAbs := by
  have parts := Nat.div_add_mod' n (2 ^ a)
  have small := Nat.mod_lt n (Nat.two_pow_pos a)
  have next : (n / 2 ^ a + 1) * 2 ^ a = n / 2 ^ a * 2 ^ a + 2 ^ a := by ring
  have apart : c * 2 ^ a ≤ n / 2 ^ a * 2 ^ a ∨ n / 2 ^ a * 2 ^ a + 2 ^ a ≤ c * 2 ^ a := by
    rcases Nat.lt_or_ge (n / 2 ^ a) c with above | below
    · rw [← next]
      exact Or.inr (Nat.mul_le_mul_right _ above)
    · exact Or.inl (Nat.mul_le_mul_right _ below)
  rw [halfEven]
  split
  · omega
  · rw [next]
    omega

theorem halfEven_le {n a : Nat} (small : n < 2 ^ (24 + a)) : halfEven n a ≤ 2 ^ 24 := by
  have most := (halfEven_bounds n a).2.1
  have quotient : n / 2 ^ a < 2 ^ 24 := by
    rw [Nat.div_lt_iff_lt_mul (Nat.two_pow_pos a), ← pow_add]
    exact small
  omega

theorem lt_two_pow_excess (n : Nat) : n < 2 ^ (24 + excess n) := by
  rcases Nat.eq_zero_or_pos n with rfl | pos
  · exact Nat.two_pow_pos _
  · have digits := (Nat.log2_eq_iff pos.ne').mp rfl
    refine digits.2.trans_le (Nat.pow_le_pow_right (by decide) ?_)
    rw [excess]
    omega

theorem roundedSize_le (n : Nat) : roundedSize n ≤ 2 ^ (24 + excess n) := by
  rw [roundedSize, pow_add]
  exact Nat.mul_le_mul_right _ (halfEven_le (lt_two_pow_excess n))

theorem fits_roundedSize (n : Nat) : ∃ c j : Nat, c < 2 ^ 24 ∧ roundedSize n = c * 2 ^ j := by
  rcases Nat.lt_or_ge (halfEven n (excess n)) (2 ^ 24) with small | carry
  · exact ⟨_, _, small, rfl⟩
  · -- Rounding has carried into a new digit.
    have most := halfEven_le (lt_two_pow_excess n)
    refine ⟨2 ^ 23, excess n + 1, by decide, ?_⟩
    rw [roundedSize, Nat.le_antisymm most carry, pow_succ]
    ring

theorem roundedSize_nearest (n : Nat) {c j : Nat} (short : c < 2 ^ 24) :
    ((n : Int) - roundedSize n).natAbs ≤ ((n : Int) - (c * 2 ^ j : Nat)).natAbs := by
  rcases Nat.lt_or_ge j (excess n) with less | more
  · -- A number with fewer digits is below the greatest power of two that is not above `n`.
    have pos : n ≠ 0 := by
      rintro rfl
      cases less
    have digits : 2 ^ 23 * 2 ^ excess n ≤ n := by
      have least := ((Nat.log2_eq_iff pos).mp rfl).1
      rw [← pow_add]
      refine (Nat.pow_le_pow_right (by decide) ?_).trans least
      rw [excess] at less ⊢
      omega
    have below : c * 2 ^ j ≤ 2 ^ 23 * 2 ^ excess n := by
      calc c * 2 ^ j ≤ 2 ^ 24 * 2 ^ j := Nat.mul_le_mul_right _ short.le
        _ = 2 ^ 23 * 2 ^ (j + 1) := by ring
        _ ≤ 2 ^ 23 * 2 ^ excess n := Nat.mul_le_mul_left _ (Nat.pow_le_pow_right (by decide) less)
    have nearest := halfEven_nearest n (excess n) (2 ^ 23)
    rw [roundedSize]
    omega
  · have multiple : c * 2 ^ j = c * 2 ^ (j - excess n) * 2 ^ excess n := by
      rw [Nat.mul_assoc, ← pow_add, Nat.sub_add_cancel more]
    rw [multiple]
    exact halfEven_nearest n (excess n) _

theorem natAbs_rounded (n : Int) : (rounded n).natAbs = roundedSize n.natAbs := by
  rcases Int.lt_trichotomy n 0 with neg | rfl | pos
  · rw [rounded, Int.sign_eq_neg_one_of_neg neg]
    omega
  · rfl
  · rw [rounded, Int.sign_eq_one_of_pos pos]
    omega

/-- A whole number is rounded to the nearest single. -/
theorem nearest_rounded (n : Int) : Nearest n (rounded n) where
  fits := by
    rw [Fits, natAbs_rounded]
    exact fits_roundedSize n.natAbs
  least m fits := by
    obtain ⟨c, j, short, same⟩ := fits
    have nearest := roundedSize_nearest n.natAbs (j := j) short
    rw [← same] at nearest
    rcases Int.lt_trichotomy n 0 with neg | rfl | pos
    · rw [rounded, Int.sign_eq_neg_one_of_neg neg]
      omega
    · have none : rounded 0 = 0 := rfl
      omega
    · rw [rounded, Int.sign_eq_one_of_pos pos]
      omega

/-- What is a single is not rounded. -/
theorem rounded_of_fits {n : Int} (fits : Fits n) : rounded n = n := by
  have nearest := (nearest_rounded n).least n fits
  omega

theorem fits_of_natAbs_le {n : Int} (small : n.natAbs ≤ 2 ^ 24) : Fits n := by
  rcases Nat.lt_or_ge n.natAbs (2 ^ 24) with less | more
  · exact ⟨n.natAbs, 0, less, (Nat.mul_one _).symm⟩
  · exact ⟨1, 24, by decide, by omega⟩

/-! ## What a literal is turned into -/

/-- Zeros at the end do not change how a mantissa is rounded. -/
theorem halfEven_mul_two_pow (n a b : Nat) : halfEven (n * 2 ^ b) (a + b) = halfEven n a := by
  have positive := Nat.two_pow_pos b
  have rest : n * 2 ^ b % 2 ^ (a + b) = n % 2 ^ a * 2 ^ b := by
    rw [pow_add, Nat.mul_mod_mul_right]
  have quotient : n * 2 ^ b / 2 ^ (a + b) = n / 2 ^ a := by
    rw [pow_add, Nat.mul_div_mul_right _ _ positive]
  have less : 2 * (n % 2 ^ a * 2 ^ b) < 2 ^ (a + b) ↔ 2 * (n % 2 ^ a) < 2 ^ a := by
    rw [pow_add, ← Nat.mul_assoc, Nat.mul_lt_mul_right positive]
  have tie : 2 * (n % 2 ^ a * 2 ^ b) = 2 ^ (a + b) ↔ 2 * (n % 2 ^ a) = 2 ^ a := by
    rw [pow_add, ← Nat.mul_assoc, Nat.mul_left_inj positive.ne']
  simp only [halfEven, rest, quotient, less, tie]

theorem roundedSize_eq_self {n : Nat} (small : n < 2 ^ 24) : roundedSize n = n := by
  have same := rounded_of_fits (n := n) ⟨n, 0, small, (Nat.mul_one _).symm⟩
  have size := natAbs_rounded n
  rw [same] at size
  exact size.symm

/-- A whole number is turned into the single of what it is rounded to. -/
theorem unpack_ofNat_rounded {n : Nat} (pos : 0 < n) (small : n < 2 ^ 32) :
    ∃ m k : Nat, ∃ pos' : 0 < m, Canonical m k ∧ m * 2 ^ k = roundedSize n * one ∧
      (Float32.ofNat n).toModel.unpack = .finite .positive m ((k : Int) - 149) pos' := by
  rcases Nat.lt_or_ge n (2 ^ 23) with short | long
  · obtain ⟨z, known⟩ := isSingle_whole (w := n) (by omega)
    rcases quanta_cases known with ⟨zero, -⟩ | ⟨top, -⟩ | ⟨m, k, pos', canonical, same, form⟩
    · exact absurd zero (cast_pos_of_pos pos 149).ne'
    · exact absurd top (ENat.natCast_ne_top _)
    · have same : n * one = m * 2 ^ k := Nat.cast_injective same
      have few := exponent_lt_of_unpack form
      refine ⟨m, k, pos', canonical, ?_, unpack_ofNat canonical few pos' same pos⟩
      rw [roundedSize_eq_self (by omega), same]
  · have digits : 23 ≤ n.log2 := (Nat.le_log2 pos.ne').mpr long
    have most : n.log2 < 32 := (Nat.log2_lt pos.ne').mpr small
    have logarithm : (n * 2 ^ 24).log2 = n.log2 + 24 := log2_mul_two_pow pos.ne' 24
    have unit : short (n * 2 ^ 24) 125 = excess n + 149 := by
      rw [short, logarithm, excess]
      omega
    obtain ⟨m, k, pos', canonical, same, rounded⟩ :=
      roundWithAccuracy_shifted (n := n * 2 ^ 24) (i := 125) (by omega) (by omega) .positive
    have amount : excess n + 149 - 125 = excess n + 24 := by omega
    rw [unit, amount, shifted_eq, halfEven_mul_two_pow, pow_add, ← Nat.mul_assoc] at same
    have few : k < 254 := by
      have large : 2 ^ k ≤ 2 ^ (24 + excess n) * 2 ^ 149 := by
        calc 2 ^ k ≤ m * 2 ^ k := Nat.le_mul_of_pos_left _ pos'
          _ = roundedSize n * 2 ^ 149 := same
          _ ≤ 2 ^ (24 + excess n) * 2 ^ 149 := Nat.mul_le_mul_right _ (roundedSize_le n)
      rw [← pow_add] at large
      have order := (Nat.pow_le_pow_iff_right (by decide)).mp large
      rw [excess] at order
      omega
    refine ⟨m, k, pos', canonical, same, ?_⟩
    rw [unpack_ofNat_of_long long, rounded, unpack_pack canonical few]

end SkillScript.Number
