import SkillScript.Proofs.Number.Value
import SkillScript.Proofs.World.Entities
/-!
# Changes of health

A change of health is computed over whole numbers without bounds and then stops at the
ends of the range of health, from zero to the greatest 32-bit number. Changes that do
not cancel each other add up before they stop.
-/
set_option autoImplicit false
namespace SkillScript

open Number

def nearestHealth (n : ℤ) : ℤ :=
  min (max n 0) greatest32

theorem nearestHealth_of_nonneg {n : ℤ} (nonneg : 0 ≤ n) (small : n ≤ greatest32) :
    nearestHealth n = n := by
  rw [nearestHealth, max_eq_left nonneg, min_eq_left small]

/-- Changes in one direction add up. -/
theorem nearestHealth_add {n a b : ℤ} (nonneg : 0 ≤ n) (small : n ≤ greatest32)
    (alongside : Alongside a b) :
    nearestHealth (nearestHealth (n + a) + b) = nearestHealth (n + a + b) := by
  unfold nearestHealth greatest32 at *
  cases alongside with
  | up left right => omega
  | down left right => omega

theorem Number.toInt_le_greatest (n : Int32) : n.toInt ≤ greatest32 := by
  have bound := n.toInt_lt
  rw [greatest32]
  omega

/-- A change of health is one over whole numbers. -/
theorem toInt_changedHealth (health delta : Int32) :
    (changedHealth health delta).toInt = nearestHealth (health.toInt + delta.toInt) := by
  have sum := toInt_saturate_eq (health.toInt + delta.toInt)
  have order : saturate (health.toInt + delta.toInt) < 0 ↔
      (saturate (health.toInt + delta.toInt)).toInt < 0 := Int32.lt_iff_toInt_lt
  unfold changedHealth nearestHealth
  dsimp only
  unfold least32 greatest32 at *
  split
  · rename_i negative
    rw [order] at negative
    show 0 = _
    omega
  · rename_i nonneg
    rw [order] at nonneg
    omega

theorem changedHealth_nonneg (health delta : Int32) : 0 ≤ changedHealth health delta := by
  unfold changedHealth
  dsimp only
  split
  · exact Int32.le_refl 0
  · rename_i positive
    exact Int32.not_lt.mp positive

theorem changedHealth_zero {health : Int32} (nonneg : 0 ≤ health) :
    changedHealth health 0 = health := by
  have order : 0 ≤ health.toInt := Int32.le_iff_toInt_le.mp nonneg
  have none : (0 : Int32).toInt = 0 := rfl
  rw [← Int32.toInt_inj, toInt_changedHealth, none, Int.add_zero]
  exact nearestHealth_of_nonneg order (toInt_le_greatest health)

namespace Entities

theorem health?_adjustHealth (es : Entities) (id : EntityId) (delta : Int32) (other : EntityId) :
    (es.adjustHealth id delta).health? other =
      if other = id then (es.health? id).map (changedHealth · delta) else es.health? other := by
  rw [health?, adjustHealth, find?_modify]
  split
  · cases found : es.find? id <;> simp [health?, found]
  · rfl

end Entities

end SkillScript
