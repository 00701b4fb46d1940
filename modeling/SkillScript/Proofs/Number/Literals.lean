import SkillScript.Number.Decimal
import SkillScript.Proofs.Number.Doubles
import SkillScript.Script.Comparison
import SkillScript.Text.Blank
/-!
# Whole numbers written in scripts

A whole number is written with its digits and perhaps a minus in front. Read as a
single it is the single nearest to it, and compared with the double of another whole
number it counts as the whole number that this single is.
-/
set_option autoImplicit false
namespace SkillScript

/-! ## Digits -/

namespace Text

variable {c : Char} {cs : List Char}

theorem isDigit_iff : isDigit c = true ↔ 48 ≤ c.toNat ∧ c.toNat ≤ 57 := by
  simp only [isDigit, Bool.and_eq_true, decide_eq_true_eq]
  exact Iff.rfl

theorem isBlank_of_isDigit (digit : isDigit c = true) : isBlank c = false := by
  have range := isDigit_iff.mp digit
  simp [isBlank]
  omega

theorem toLower_of_isDigit (digit : isDigit c = true) : c.toLower = c := by
  have range := isDigit_iff.mp digit
  have low : ¬ ('A'.val ≤ c.val) := by
    intro large
    have large : 65 ≤ c.toNat := large
    omega
  rw [Char.toLower, dif_neg fun both => low both.1]

theorem isDigit_of_mem_toDigits {n : Nat} (member : c ∈ Nat.toDigits 10 n) : isDigit c = true := by
  have digit := Nat.isDigit_of_mem_toDigits (by decide) (by decide) member
  simp only [Char.isDigit, Bool.and_eq_true, decide_eq_true_eq] at digit
  exact isDigit_iff.mpr digit

theorem digitsValue_toDigits (n : Nat) : digitsValue (Nat.toDigits 10 n) = n :=
  Nat.ofDigitChars_ten_toDigits

theorem toList_toString (n : Int) :
    (toString n).toList = (if n < 0 then ['-'] else []) ++ Nat.toDigits 10 n.natAbs := by
  cases n with
  | ofNat n =>
    have nonneg : ¬ Int.ofNat n < 0 := Int.not_lt.mpr (Int.natCast_nonneg n)
    rw [if_neg nonneg]
    exact Nat.toList_repr
  | negSucc n =>
    rw [if_pos (Int.negSucc_lt_zero n)]
    exact String.toList_append.trans (congrArg _ Nat.toList_repr)

theorem isBlank_of_mem_toString {n : Int} (member : c ∈ (toString n).toList) :
    isBlank c = false := by
  rw [toList_toString, List.mem_append] at member
  rcases member with minus | digit
  · split at minus
    · rw [List.mem_singleton.mp minus]
      decide
    · cases minus
  · exact isBlank_of_isDigit (isDigit_of_mem_toDigits digit)

/-- Blanks are dropped on both sides of a text that has none of its own. -/
theorem trimChars_surrounded {before after : List Char} (first : ∀ c ∈ before, isBlank c = true)
    (last : ∀ c ∈ after, isBlank c = true) (none : ∀ c ∈ cs, isBlank c = false) :
    trimChars (before ++ cs ++ after) = cs := by
  have kept {l rest : List Char} (filled : l ≠ []) (none : ∀ c ∈ l, isBlank c = false) :
      (l ++ rest).dropWhile isBlank = l ++ rest := by
    obtain ⟨c, l, rfl⟩ := List.exists_cons_of_ne_nil filled
    rw [List.cons_append, List.dropWhile_cons, none c (List.mem_cons_self ..)]
    rfl
  rw [trimChars, List.append_assoc, List.dropWhile_append_of_pos first]
  by_cases empty : cs = []
  · rw [empty, List.nil_append, List.dropWhile_eq_nil_iff.mpr last]
    rfl
  · have back : (cs.reverse ++ []).dropWhile isBlank = cs.reverse ++ [] :=
      kept (mt List.reverse_eq_nil_iff.mp empty) fun c member => none c (List.mem_reverse.mp member)
    rw [List.append_nil] at back
    rw [kept empty none, List.reverse_append,
      List.dropWhile_append_of_pos fun c member => last c (List.mem_reverse.mp member), back,
      List.reverse_reverse]

theorem trimChars_of_not_isBlank (none : ∀ c ∈ cs, isBlank c = false) : trimChars cs = cs := by
  have blank : ∀ c ∈ ([] : List Char), isBlank c = true := nofun
  have same := trimChars_surrounded blank blank none
  rwa [List.nil_append, List.append_nil] at same

theorem trimChars_toString (n : Int) : trimChars (toString n).toList = (toString n).toList :=
  trimChars_of_not_isBlank fun _ => isBlank_of_mem_toString

theorem splitSign_digits (digits : ∀ c ∈ cs, isDigit c = true) : splitSign cs = (false, cs) := by
  unfold splitSign
  split
  · cases digits '+' (List.mem_cons_self ..)
  · cases digits '-' (List.mem_cons_self ..)
  · rfl

theorem splitSign_toString (n : Int) :
    splitSign (toString n).toList = (decide (n < 0), Nat.toDigits 10 n.natAbs) := by
  rw [toList_toString]
  by_cases neg : n < 0
  · rw [if_pos neg, decide_eq_true neg]
    rfl
  · rw [if_neg neg, decide_eq_false neg, List.nil_append]
    exact splitSign_digits fun _ => isDigit_of_mem_toDigits

end Text

/-! ## Reading -/

namespace Number

open Text Float.Model Float.Model.UnpackedFloat

theorem readDecimal?_digits (negative : Bool) {cs : List Char} (some : cs ≠ [])
    (digits : ∀ c ∈ cs, isDigit c = true) :
    readDecimal? negative cs = .some (.decimal negative (digitsValue cs) 0) := by
  have taken : cs.takeWhile isDigit = cs := List.takeWhile_eq_self_iff.mpr digits
  have dropped : cs.dropWhile isDigit = [] := List.dropWhile_eq_nil_iff.mpr digits
  have filled : cs.isEmpty = false := List.isEmpty_eq_false_iff.mpr some
  simp [readDecimal?, taken, dropped, filled, readExponent?]

theorem readNumeral?_toString (n : Int) :
    readNumeral? (toString n).toList = some (.decimal (decide (n < 0)) n.natAbs 0) := by
  have digits : ∀ c ∈ Nat.toDigits 10 n.natAbs, isDigit c = true :=
    fun _ => isDigit_of_mem_toDigits
  have lower : lowerChars (Nat.toDigits 10 n.natAbs) = Nat.toDigits 10 n.natAbs :=
    (List.map_congr_left fun c member => toLower_of_isDigit (digits c member)).trans (List.map_id _)
  have noWord (c : Char) (rest : List Char) (letter : isDigit c = false) :
      Nat.toDigits 10 n.natAbs ≠ c :: rest := by
    intro same
    have digit := digits c (same ▸ List.mem_cons_self ..)
    rw [letter] at digit
    cases digit
  simp only [readNumeral?, splitSign_toString, lower, noWord 'n' _ rfl, noWord 'i' _ rfl, if_false,
    decide_false, Bool.or_false, Bool.false_eq_true]
  rw [readDecimal?_digits _ Nat.toDigits_ne_nil digits, digitsValue_toDigits]

def literal (n : Int) : Float32 :=
  (Numeral.decimal (decide (n < 0)) n.natAbs 0).toSingle

theorem readSingle?_toString (n : Int) :
    readSingle? (trimChars (toString n).toList) = some (literal n) := by
  rw [trimChars_toString, readSingle?, readNumeral?_toString]
  rfl

/-! ## The value of a literal -/

theorem standsFor_widen_ofNat {n : Nat} (small : n < 2 ^ 32) :
    StandsFor (roundedSize n) (widen (Float32.ofNat n)).toModel.unpack ∧
      StandsFor (-roundedSize n) (widen (-Float32.ofNat n)).toModel.unpack := by
  rcases Nat.eq_zero_or_pos n with rfl | pos
  · exact ⟨standsFor_widen_zero (s := .positive) rfl, standsFor_widen_zero (s := .negative) rfl⟩
  · obtain ⟨m, k, pos', canonical, same, form⟩ := unpack_ofNat_rounded pos small
    have few := exponent_lt_of_unpack form
    have room : roundedSize n < 2 ^ 53 := by
      have most : n.log2 < 32 := (Nat.log2_lt pos.ne').mpr small
      refine (roundedSize_le n).trans_lt (Nat.pow_lt_pow_right (by decide) ?_)
      rw [excess]
      omega
    have negated : (-Float32.ofNat n).toModel.unpack =
        .finite .negative m ((k : Int) - 149) pos' := by
      have unpacked : (-Float32.ofNat n).toModel.unpack = UnpackedFloat.unpack .binary32
          (UnpackedFloat.pack .binary32 (Float32.ofNat n).toModel.unpack.neg) := rfl
      rw [unpacked, form]
      exact unpack_pack canonical few pos' .negative
    exact ⟨standsFor_widen form canonical.small same room,
      standsFor_widen negated canonical.small same room⟩

/-- A literal counts as the single nearest to what is written. -/
theorem standsFor_literal {n : Int} (small : n.natAbs < 2 ^ 32) :
    StandsFor (rounded n) (widen (literal n)).toModel.unpack := by
  obtain ⟨upward, downward⟩ := standsFor_widen_ofNat small
  by_cases neg : n < 0
  · have form : literal n = -Float32.ofNat n.natAbs := by
      rw [literal, decide_eq_true neg]
      rfl
    have size : rounded n = -roundedSize n.natAbs := by
      rw [rounded, Int.sign_eq_neg_one_of_neg neg]
      omega
    rw [form, size]
    exact downward
  · have form : literal n = Float32.ofNat n.natAbs := by
      rw [literal, decide_eq_false neg]
      rfl
    have size : rounded n = roundedSize n.natAbs := by
      rcases Int.lt_trichotomy n 0 with less | rfl | pos
      · exact absurd less neg
      · rfl
      · rw [rounded, Int.sign_eq_one_of_pos pos]
        omega
    rw [form, size]
    exact upward

end Number

/-! ## Comparing -/

namespace Comparison

def holds (op : Comparison) (a b : Int) : Bool :=
  match op with
  | eq => a = b
  | ne => a ≠ b
  | lt => a < b
  | le => a ≤ b
  | gt => b < a
  | ge => b ≤ a

/-- Doubles of whole numbers are compared as the numbers are. -/
theorem apply_eq_holds {op : Comparison} {x y : Float} {a b : Int}
    (left : Number.StandsFor a x.toModel.unpack) (right : Number.StandsFor b y.toModel.unpack) :
    op.apply x y = op.holds a b := by
  have equal := Number.float_beq_iff left right
  cases op with
  | eq => rw [Bool.eq_iff_iff, apply, holds, equal, decide_eq_true_iff]
  | ne =>
    rw [Bool.eq_iff_iff, apply, holds, bne, Bool.not_eq_true', ← Bool.not_eq_true, equal,
      decide_eq_true_iff]
  | lt => exact decide_eq_decide.mpr (Number.float_lt_iff left right)
  | le => exact decide_eq_decide.mpr (Number.float_le_iff left right)
  | gt => exact decide_eq_decide.mpr (Number.float_lt_iff right left)
  | ge => exact decide_eq_decide.mpr (Number.float_le_iff right left)

end Comparison

end SkillScript
