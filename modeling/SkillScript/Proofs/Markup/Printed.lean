import SkillScript.Param
import SkillScript.Proofs.Number.Literals
/-!
# Printed values read back

A truth value, a whole number or an entity is printed as a literal of its kind, and
blanks around a literal do not count. A whole number may also be written with a plus or
with zeros in front. One that is too large or too small for its kind is no literal of
it: it is refused, and not taken for another number.
-/
set_option autoImplicit false
namespace SkillScript

namespace Text

def Blank (s : String) : Prop :=
  ∀ c ∈ s.toList, isBlank c = true

/-- A whole number in decimal: some digits, with a sign in front or without. -/
inductive Decimal : List Char → Int → Prop where
  | unsigned {ds : List Char} (filled : ds ≠ []) (digits : ∀ c ∈ ds, isDigit c = true) :
    Decimal ds (Nat.ofDigitChars 10 ds 0)
  | plus {ds : List Char} (filled : ds ≠ []) (digits : ∀ c ∈ ds, isDigit c = true) :
    Decimal ('+' :: ds) (Nat.ofDigitChars 10 ds 0)
  | minus {ds : List Char} (filled : ds ≠ []) (digits : ∀ c ∈ ds, isDigit c = true) :
    Decimal ('-' :: ds) (-(Nat.ofDigitChars 10 ds 0))

def IsSolid (c : Char) : Prop :=
  isBlank c = false ∧ c ≠ 'B'

theorem isSolid_of_all {s : String}
    (solid : (s.toList.all fun c => isBlank c == false && c != 'B') = true) :
    ∀ c ∈ s.toList, IsSolid c := by
  simpa [IsSolid] using solid

variable {cs ds : List Char} {n : Int}

theorem readDigits?_digits (filled : ds ≠ []) (digits : ∀ c ∈ ds, isDigit c = true) :
    readDigits? ds = some (Nat.ofDigitChars 10 ds 0) := by
  have some : ds.isEmpty = false := List.isEmpty_eq_false_iff.mpr filled
  rw [readDigits?, some, List.all_eq_true.mpr digits]
  rfl

theorem readUnsigned?_digits (filled : ds ≠ []) (digits : ∀ c ∈ ds, isDigit c = true) :
    readUnsigned? ds = some (Nat.ofDigitChars 10 ds 0) := by
  unfold readUnsigned?
  split
  · cases digits '+' (List.mem_cons_self ..)
  · exact readDigits?_digits filled digits

namespace Decimal

theorem digit_or_sign (written : Decimal cs n) {c : Char} (member : c ∈ cs) :
    isDigit c = true ∨ c = '+' ∨ c = '-' := by
  cases written with
  | unsigned filled digits => exact .inl (digits c member)
  | plus filled digits =>
    rcases List.mem_cons.mp member with sign | member
    · exact .inr (.inl sign)
    · exact .inl (digits c member)
  | minus filled digits =>
    rcases List.mem_cons.mp member with sign | member
    · exact .inr (.inr sign)
    · exact .inl (digits c member)

theorem isSolid (written : Decimal cs n) : ∀ c ∈ cs, IsSolid c := by
  intro c member
  rcases written.digit_or_sign member with digit | rfl | rfl
  · refine ⟨isBlank_of_isDigit digit, ?_⟩
    rintro rfl
    cases digit
  · exact ⟨by decide, by decide⟩
  · exact ⟨by decide, by decide⟩

theorem unhashed (written : Decimal cs n) : '#' ∉ cs := by
  intro member
  rcases written.digit_or_sign member with digit | sign | sign
  · cases digit
  · cases sign
  · cases sign

theorem lowerChars_eq (written : Decimal cs n) : lowerChars cs = cs := by
  have same : ∀ c ∈ cs, c.toLower = c := by
    intro c member
    rcases written.digit_or_sign member with digit | rfl | rfl
    · exact toLower_of_isDigit digit
    · decide
    · decide
  rw [lowerChars, List.map_congr_left same, List.map_id']

/-- Signed numbers are read as what is written. -/
theorem readSigned? (written : Decimal cs n) : readSigned? cs = some n := by
  cases written with
  | unsigned filled digits =>
    simp only [Text.readSigned?, splitSign_digits digits, readDigits?_digits filled digits]
    rfl
  | plus filled digits =>
    simp only [Text.readSigned?, splitSign, readDigits?_digits filled digits]
    rfl
  | minus filled digits =>
    simp only [Text.readSigned?, splitSign, readDigits?_digits filled digits]
    rfl

/-- Unsigned numbers are read as what is written, but never with a minus. -/
theorem readUnsigned? (written : Decimal cs n) {m : Nat} (read : readUnsigned? cs = some m) :
    (m : Int) = n := by
  cases written with
  | unsigned filled digits =>
    rw [readUnsigned?_digits filled digits, Option.some.injEq] at read
    rw [← read]
  | plus filled digits =>
    rw [Text.readUnsigned?, readDigits?_digits filled digits, Option.some.injEq] at read
    rw [← read]
  | minus filled digits => cases read

theorem of_toDigits (n : Nat) : Decimal (Nat.toDigits 10 n) n := by
  have digits : ∀ c ∈ Nat.toDigits 10 n, isDigit c = true := fun _ => isDigit_of_mem_toDigits
  have written := Decimal.unsigned Nat.toDigits_ne_nil digits
  rwa [Nat.ofDigitChars_ten_toDigits] at written

theorem toString (n : Int) : Decimal (toString n).toList n := by
  rw [toList_toString]
  by_cases neg : n < 0
  · rw [if_pos neg]
    have digits : ∀ c ∈ Nat.toDigits 10 n.natAbs, isDigit c = true :=
      fun _ => isDigit_of_mem_toDigits
    have written := Decimal.minus Nat.toDigits_ne_nil digits
    rw [Nat.ofDigitChars_ten_toDigits, Int.ofNat_natAbs_of_nonpos neg.le, Int.neg_neg] at written
    exact written
  · rw [if_neg neg]
    have written := of_toDigits n.natAbs
    rwa [Int.natAbs_of_nonneg (Int.not_lt.mp neg)] at written

end Decimal

end Text

/-! ## Reading -/

open Text

/-- The whole numbers that a kind has values for. Strings and floats take any. -/
def Kind.Holds : Kind → Int → Prop
  | .bool, n => n = 0 ∨ n = 1
  | .int, n => -2 ^ 31 ≤ n ∧ n < 2 ^ 31
  | .long, n => -2 ^ 63 ≤ n ∧ n < 2 ^ 63
  | .entity, n => 0 ≤ n ∧ n < 2 ^ 32
  | .float, _ => True
  | .str, _ => True

/-- How a whole number can be written as a literal. That of an entity may follow a hash sign. -/
def Kind.Writes : Kind → List Char → Int → Prop
  | .entity, cs, n => Decimal cs n ∨ ∃ rest, cs = '#' :: rest ∧ Decimal rest n
  | _, cs, n => Decimal cs n

theorem Kind.Writes.isSolid {k : Kind} {cs : List Char} {n : Int} (written : k.Writes cs n) :
    ∀ c ∈ cs, IsSolid c := by
  cases k with
  | entity =>
    rcases written with written | ⟨rest, rfl, written⟩
    · exact written.isSolid
    · exact List.forall_mem_cons.mpr ⟨⟨by decide, by decide⟩, written.isSolid⟩
  | _ => exact Decimal.isSolid written

theorem readEntity?_eq {s : String} {cs : List Char} {n : Int} (trimmed : trimChars s.toList = cs)
    (written : Kind.entity.Writes cs n) :
    ∃ digits, Decimal digits n ∧ readEntity? s = (readUInt32? digits).map EntityId.mk := by
  unfold readEntity?
  rw [trimmed]
  rcases written with written | ⟨rest, rfl, written⟩
  · refine ⟨cs, written, ?_⟩
    split
    · exact absurd (List.mem_cons_self ..) written.unhashed
    · rfl
  · exact ⟨rest, written, rfl⟩

/-- Of the whole numbers only zero and one are truth values. -/
theorem holds_of_readBool? {s : String} {cs : List Char} {n : Int} {b : Bool}
    (trimmed : trimChars s.toList = cs) (written : Decimal cs n) (read : readBool? s = some b) :
    Kind.bool.Holds n := by
  have word : lower (trim s) = String.ofList cs := by
    rw [lower, trim, trimmed, String.toList_ofList, written.lowerChars_eq]
  have value {w : String} (same : String.ofList cs = w) : readSigned? w.toList = some n := by
    rw [← same, String.toList_ofList, written.readSigned?]
  simp only [readBool?, word, Bool.or_eq_true, decide_eq_true_eq] at read
  split at read
  · rename_i yes
    rcases yes with same | same
    · cases value same
    · exact .inr (Option.some.inj (value same)).symm
  · split at read
    · rename_i no
      rcases no with same | same
      · cases value same
      · exact .inl (Option.some.inj (value same)).symm
    · cases read

/-- A whole number that is out of range is no literal. -/
theorem Kind.read?_of_not_holds {k : Kind} {s : String} {cs : List Char} {n : Int}
    (trimmed : trimChars s.toList = cs) (written : k.Writes cs n) (out : ¬ k.Holds n) :
    k.read? s = none := by
  cases k with
  | bool =>
    rw [read?, Option.map_eq_none_iff, Option.eq_none_iff_forall_ne_some]
    exact fun b read => out (holds_of_readBool? trimmed written read)
  | int =>
    have wide : ¬ (-2147483648 ≤ n ∧ n ≤ 2147483647) := fun range => out ⟨range.1, by omega⟩
    rw [read?, trimmed, readInt32?, Decimal.readSigned? written, Option.bind_some, if_neg wide]
    rfl
  | long =>
    have wide : ¬ (-9223372036854775808 ≤ n ∧ n ≤ 9223372036854775807) :=
      fun range => out ⟨range.1, by omega⟩
    rw [read?, trimmed, readInt64?, Decimal.readSigned? written, Option.bind_some, if_neg wide]
    rfl
  | entity =>
    obtain ⟨digits, written, same⟩ := readEntity?_eq trimmed written
    rw [read?, same, readUInt32?]
    cases read : readUnsigned? digits with
    | none => rfl
    | some m =>
      have value := written.readUnsigned? read
      have wide : ¬ m < 4294967296 := fun small => out ⟨by omega, by omega⟩
      rw [Option.bind_some, if_neg wide]
      rfl
  | float => exact absurd trivial out
  | str => exact absurd trivial out

/-! ## Printing -/

theorem Value.read?_int (n : Int32) {s : String}
    (trimmed : trimChars s.toList = (Value.int n).display.toList) :
    Kind.int.read? s = some (.int n) := by
  have range : -2147483648 ≤ n.toInt ∧ n.toInt ≤ 2147483647 :=
    ⟨n.le_toInt, Int.lt_add_one_iff.mp n.toInt_lt⟩
  rw [Kind.read?, trimmed, Value.display, readInt32?, (Decimal.toString _).readSigned?,
    Option.bind_some, if_pos range, Int32.ofInt_toInt]
  rfl

theorem Value.read?_long (n : Int64) {s : String}
    (trimmed : trimChars s.toList = (Value.long n).display.toList) :
    Kind.long.read? s = some (.long n) := by
  have range : -9223372036854775808 ≤ n.toInt ∧ n.toInt ≤ 9223372036854775807 :=
    ⟨n.le_toInt, Int.lt_add_one_iff.mp n.toInt_lt⟩
  rw [Kind.read?, trimmed, Value.display, readInt64?, (Decimal.toString _).readSigned?,
    Option.bind_some, if_pos range, Int64.ofInt_toInt]
  rfl

theorem EntityId.toList_display (id : EntityId) :
    id.display.toList = '#' :: Nat.toDigits 10 id.index.toNat := by
  rw [display, String.toList_append]
  exact congrArg _ Nat.toList_repr

theorem Value.read?_entity (id : EntityId) {s : String}
    (trimmed : trimChars s.toList = (Value.entity id).display.toList) :
    Kind.entity.read? s = some (.entity id) := by
  have small : id.index.toNat < 4294967296 := id.index.toNat_lt
  have digits : ∀ c ∈ Nat.toDigits 10 id.index.toNat, isDigit c = true :=
    fun _ => isDigit_of_mem_toDigits
  have read := readUnsigned?_digits Nat.toDigits_ne_nil digits
  rw [Nat.ofDigitChars_ten_toDigits] at read
  rw [Value.display, EntityId.toList_display] at trimmed
  rw [Kind.read?, readEntity?, trimmed]
  simp only [readUInt32?, read, Option.bind_some, if_pos small, UInt32.ofNat_toNat]
  rfl

theorem Value.read?_bool (b : Bool) {s : String}
    (trimmed : trimChars s.toList = (Value.bool b).display.toList) :
    Kind.bool.read? s = some (.bool b) := by
  rw [Kind.read?, readBool?, trim, trimmed]
  cases b <;> decide

/-! ## Parameters -/

theorem Param.read?_unmarked {α : Type} [Scalar α] {s : String}
    (unmarked : 'B' ∉ trimChars s.toList) (default : α) :
    read? s default = (Scalar.read? α s).map literal := by
  have none : reference? s = none := by
    unfold reference?
    split
    · rename_i name mark
      rw [mark] at unmarked
      exact absurd (List.mem_cons_self ..) unmarked
    · rfl
  rw [read?, none]

/-- A value that is read when its printed form stands among blanks, as a value of its kind and as a
parameter that refers to no variable. -/
def ReadsBack {α : Type} [Scalar α] (a : α) (before after : String) : Prop :=
  let text := before ++ (Scalar.toValue a).display ++ after
  (Scalar.toValue a).kind.read? text = some (Scalar.toValue a) ∧
    ∀ default : α, Param.read? text default = some (Param.literal a)

section Reading

variable {α : Type} [Scalar α] {before after : String}

theorem trimChars_among (first : Blank before) (last : Blank after) {s : String}
    (solid : ∀ c ∈ s.toList, IsSolid c) :
    trimChars (before ++ s ++ after).toList = s.toList := by
  rw [String.toList_append, String.toList_append]
  exact trimChars_surrounded first last fun c member => (solid c member).1

theorem Param.read?_among (first : Blank before) (last : Blank after) {s : String}
    (solid : ∀ c ∈ s.toList, IsSolid c) (default : α) :
    read? (before ++ s ++ after) default =
      (Scalar.read? α (before ++ s ++ after)).map literal := by
  refine read?_unmarked ?_ default
  rw [trimChars_among first last solid]
  exact fun member => (solid _ member).2 rfl

theorem readsBack_of {a : α} (first : Blank before) (last : Blank after)
    (solid : ∀ c ∈ (Scalar.toValue a).display.toList, IsSolid c)
    (kind : (Scalar.toValue a).kind = Scalar.kind α)
    (lawful : Scalar.ofValue? (Scalar.toValue a) = some a)
    (read : ∀ s, trimChars s.toList = (Scalar.toValue a).display.toList →
      (Scalar.toValue a).kind.read? s = some (Scalar.toValue a)) :
    ReadsBack a before after := by
  have back := read _ (trimChars_among first last solid)
  refine ⟨back, fun default => ?_⟩
  rw [Param.read?_among first last solid, Scalar.read?, ← kind, back, Option.bind_some, lawful]
  rfl

end Reading

/-- A printed truth value, whole number or entity reads back, whatever blanks stand around it; and
a whole number in decimal that its kind has no value for is refused, also as a parameter. -/
theorem printed_values_read_back (before after : String) (first : Blank before)
    (last : Blank after) :
    (∀ b : Bool, ReadsBack b before after) ∧ (∀ n : Int32, ReadsBack n before after) ∧
    (∀ n : Int64, ReadsBack n before after) ∧ (∀ id : EntityId, ReadsBack id before after) ∧
    ∀ (α : Type) [Scalar α] (cs : List Char) (n : Int), (Scalar.kind α).Writes cs n →
      ¬ (Scalar.kind α).Holds n →
      let text := before ++ String.ofList cs ++ after
      (Scalar.kind α).read? text = none ∧ ∀ default : α, Param.read? text default = none := by
  refine ⟨fun b => ?_, fun n => ?_, fun n => ?_, fun id => ?_, ?_⟩
  · refine readsBack_of first last ?_ rfl rfl fun s => Value.read?_bool b
    cases b with
    | false => exact isSolid_of_all (by decide)
    | true => exact isSolid_of_all (by decide)
  · exact readsBack_of first last (Decimal.toString n.toInt).isSolid rfl rfl
      fun s => Value.read?_int n
  · exact readsBack_of first last (Decimal.toString n.toInt).isSolid rfl rfl
      fun s => Value.read?_long n
  · have written : Kind.entity.Writes id.display.toList id.index.toNat :=
      .inr ⟨_, id.toList_display, .of_toDigits _⟩
    exact readsBack_of first last written.isSolid rfl rfl fun s => Value.read?_entity id
  · intro α scalar cs n written out
    have solid : ∀ c ∈ (String.ofList cs).toList, IsSolid c := by
      rw [String.toList_ofList]
      exact written.isSolid
    have trimmed : trimChars (before ++ String.ofList cs ++ after).toList = cs := by
      rw [trimChars_among first last solid, String.toList_ofList]
    have refused := Kind.read?_of_not_holds trimmed written out
    refine ⟨refused, fun default => ?_⟩
    rw [Param.read?_among first last solid, Scalar.read?, refused]
    rfl

def tooLarge : List Char :=
  "+02147483648".toList

theorem printed_values_read_back_of_tooLarge :
    Blank "\u3000\t" ∧ Blank "\u00a0\n" ∧
      Param.read? ("\u3000\t" ++ "-2147483648" ++ "\u00a0\n") (0 : Int32) =
        some (.literal Int32.minValue) ∧
      Kind.int.Writes tooLarge 2147483648 ∧ ¬ Kind.int.Holds 2147483648 ∧
      Param.read? ("\u3000\t" ++ String.ofList tooLarge ++ "\u00a0\n") (0 : Int32) = none := by
  have first : Blank "\u3000\t" := List.all_eq_true.mp (by decide)
  have last : Blank "\u00a0\n" := List.all_eq_true.mp (by decide)
  have digits : ∀ c ∈ "02147483648".toList, isDigit c = true := List.all_eq_true.mp (by decide)
  have written : Kind.int.Writes tooLarge 2147483648 := .plus (by decide) digits
  have out : ¬ Kind.int.Holds 2147483648 := fun range => absurd range.2 (by decide)
  obtain ⟨-, int, -, -, refused⟩ := printed_values_read_back _ _ first last
  exact ⟨first, last, (int Int32.minValue).2 0, written, out, (refused Int32 _ _ written out).2 0⟩

end SkillScript
