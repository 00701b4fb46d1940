import SkillScript.Node.Handle
import SkillScript.Proofs.Markup.Places
import SkillScript.Proofs.Markup.Printed
import SkillScript.Proofs.Number.Literals
import SkillScript.Proofs.Tree.Create
/-!
# Comparing whole numbers

A condition compares a variable with a literal. The literal is a single, whatever was
written: a whole number stands for the single nearest to it. The variable is not rounded.
So the answer is that of the operator for the whole number in the variable and the one
that the literal is rounded to, and these are the numbers that were written unless the
literal has more digits than a single has room for.
-/
set_option autoImplicit false
namespace SkillScript

variable {e : Element} {n : Int}

namespace Param

/-- A whole number is read as the literal that it is. -/
theorem read?_toString (n : Int) (default : Float32) :
    read? (toString n) default = some (literal (Number.literal n)) := by
  have read : Scalar.read? Float32 (toString n) = some (Number.literal n) := by
    rw [Scalar.read?_float, Kind.read?, Number.readSingle?_toString]
    rfl
  have unmarked : 'B' ∉ Text.trimChars (toString n).toList := by
    rw [Text.trimChars_toString]
    exact fun member => ((Text.Decimal.toString n).isSolid _ member).2 rfl
  rw [read?_unmarked unmarked, read]
  rfl

end Param

namespace Element

theorem requiredParam_toString {name : String} (written : e.attr? name = some (toString n)) :
    e.requiredParam name = .ok (Param.literal (Number.literal n)) := by
  rw [requiredParam, required, written]
  show e.readParam name (toString n) Scalar.zero = _
  rw [readParam, Param.read?_toString]

theorem readProbe_compareVar {name sign : String} {op : Comparison} {x : Param Float32}
    (named : e.attr? "Var" = some name) (spelled : e.attr? "Op" = some sign)
    (operator : Comparison.ofText? (Text.trim sign) = some op)
    (value : e.requiredParam "Value" = .ok x) (name' : String) (op' : Comparison)
    (x' : Param Float32) :
    e.readProbe (.compareVar name' op' x') = .ok (.compareVar (Text.trim name) op x) := by
  have first : e.requiredName "Var" = .ok (Text.trim name) :=
    requiredName_eq_ok.mpr ⟨name, named, rfl⟩
  have second : e.requiredWord "Op" "comparison operator" Comparison.ofText? = .ok op :=
    requiredWord_eq_ok.mpr ⟨sign, spelled, operator⟩
  rw [readProbe, first, second, value]
  rfl

end Element

def comparing : Registration :=
  ⟨.condition, .condition .compareVar, (NodeType.condition .compareVar).emptyBody⟩

theorem read_comparing {r : Registry} {p : Probe} (registered : r.find? e.tag = some comparing)
    (read : ∀ name op x, e.readProbe (.compareVar name op x) = .ok p) :
    r.read e = .ok (some ⟨e.tag, .condition, .probe p⟩) := by
  have body : r.readBody e comparing.template = .ok (.probe p) := by
    show Body.probe <$> e.readProbe (.compareVar "" .eq (.literal 0)) = _
    rw [read]
    rfl
  rw [Registry.read, Registry.readElement_eq registered, body]
  rfl

theorem fst_create?_comparing {r : Registry} {tag name : String} {op : Comparison}
    {x : Param Float32} (registered : r.find? tag = some comparing) (ctx : Context) :
    (Handle.create? r ctx (some .condition)
        ⟨tag, .condition, .probe (.compareVar name op x)⟩).1 =
      some (.live 0 (.condition (.sensor false (.compareVar name op x)))) := by
  rw [Handle.create?, AnyNode.fst_fit, fst_create, registered]
  rfl

theorem Sensor.fst_check_compareVar {s : Scope} {name : String} {op : Comparison} {v : Int32}
    (n : Int) (small : n.natAbs < 2 ^ 32) (bound : s.vars.find? name = some (.int v)) :
    ((compareVar name op (.literal (Number.literal n))).check s).1 =
      op.holds v.toInt (Number.rounded n) := by
  have wide : v.toInt.natAbs < 2 ^ 53 := by
    have low := v.le_toInt
    have high := v.toInt_lt
    omega
  simp only [check, drain, bound, Option.bind_some, Value.number?, Param.resolve, Param.literal]
  exact Comparison.apply_eq_holds (Number.standsFor_ofInt wide) (Number.standsFor_literal small)

section Answer

variable {r : Registry} {name sign : String} {op : Comparison} {n : Int32}

/-- What a condition read from an element answers, however it was created, as soon as it is awake
and the variable holds a whole number. -/
def Answers (r : Registry) (e : Element) (name : String) (answer : Int → Bool) : Prop :=
  ∃ config, r.read e = .ok (some config) ∧
    ∀ born, ∃ h, (Handle.create? r born (some .condition) config).1 = some h ∧
      ∀ awake now step, ∀ v : Int32, now.vars.find? (Text.trim name) = some (.int v) →
        ((h.activate awake).1.check step now).1 = some (.answer (answer v.toInt))

/-- There is only one answer. -/
theorem Answers.unique {answer answer' : Int → Bool} (left : Answers r e name answer)
    (right : Answers r e name answer') (v : Int32) : answer v.toInt = answer' v.toInt := by
  obtain ⟨config, read, left⟩ := left
  obtain ⟨config', read', right⟩ := right
  cases read.symm.trans read'
  let now : Context :=
    { owner := ⟨0⟩, tag := ⟨0⟩, vars := Table.empty.insert (Text.trim name) (.int v) }
  have bound : now.vars.find? (Text.trim name) = some (.int v) := by
    rw [Table.find?_insert, if_pos rfl]
  obtain ⟨h, created, left⟩ := left now
  obtain ⟨h', created', right⟩ := right now
  cases created.symm.trans created'
  have same := (left now now 0 v bound).symm.trans (right now now 0 v bound)
  simpa using same

theorem answers_rounded (registered : r.find? e.tag = some comparing)
    (named : e.attr? "Var" = some name) (spelled : e.attr? "Op" = some sign)
    (operator : Comparison.ofText? (Text.trim sign) = some op)
    (written : e.attr? "Value" = some (toString n.toInt)) :
    Answers r e name fun v => op.holds v (Number.rounded n.toInt) := by
  have read := Element.readProbe_compareVar named spelled operator
    (Element.requiredParam_toString written)
  refine ⟨_, read_comparing registered read, fun born =>
    ⟨_, fst_create?_comparing registered born, fun awake now step v bound => ?_⟩⟩
  have small : n.toInt.natAbs < 2 ^ 32 := by
    have low := n.le_toInt
    have high := n.toInt_lt
    omega
  exact congrArg (fun b => some (Handle.Checked.answer b))
    (Sensor.fst_check_compareVar n.toInt small bound)

/-- A condition that compares a whole number with the literal of another one answers as the
operator does for the first and what the second is rounded to, which is the second itself if a
single has room for its digits. -/
theorem whole_numbers_compare (registered : r.find? e.tag = some comparing)
    (named : e.attr? "Var" = some name) (spelled : e.attr? "Op" = some sign)
    (operator : Comparison.ofText? (Text.trim sign) = some op)
    (written : e.attr? "Value" = some (toString n.toInt)) :
    Answers r e name (fun v => op.holds v (Number.rounded n.toInt)) ∧
      Number.Nearest n.toInt (Number.rounded n.toInt) ∧
      (Number.Fits n.toInt → Answers r e name fun v => op.holds v n.toInt) ∧
      (n.toInt.natAbs ≤ 2 ^ 24 → Number.Fits n.toInt) := by
  have answers := answers_rounded registered named spelled operator written
  refine ⟨answers, Number.nearest_rounded n.toInt, fun fits => ?_, Number.fits_of_natAbs_le⟩
  rwa [Number.rounded_of_fits fits] at answers

end Answer

def longComparison : Element :=
  { tag := "CompareVarCond", attrs := [("Var", "x"), ("Op", "=="), ("Value", "16777217")] }

theorem whole_numbers_compare_of_longComparison :
    Registry.standard.find? longComparison.tag = some comparing ∧
      Answers .standard longComparison "x" fun v => Comparison.eq.holds v 16777216 := by
  have registered : Registry.standard.find? longComparison.tag = some comparing := rfl
  exact ⟨registered, (whole_numbers_compare (n := 16777217) registered rfl rfl rfl rfl).1⟩

/-- The number that is written is not equal to itself. -/
theorem long_number_compares_unequal :
    ¬ Answers .standard longComparison "x" fun v => Comparison.eq.holds v 16777217 := by
  intro exact
  have rounded : Answers .standard longComparison "x" fun v =>
      Comparison.eq.holds v (Number.rounded 16777217) :=
    answers_rounded (n := 16777217) rfl rfl rfl rfl rfl
  have same := exact.unique rounded 16777217
  revert same
  decide

end SkillScript
