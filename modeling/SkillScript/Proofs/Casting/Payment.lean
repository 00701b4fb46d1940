import SkillScript.Proofs.Casting.Sound
import SkillScript.Proofs.Footprint.Casts
/-!
# What a cast costs

A caster is asked whether its owner can pay for a cast before the running cast is torn
down and the new agent is made, and the price is taken afterwards. Between the two
nobody lowers the health of the owner unless hooks do. So the price is taken in full
and leaves some health. The entities with the tag of the cast that is torn down are
gone by then; if the owner is one of them there is nobody who pays.
-/
set_option autoImplicit false
namespace SkillScript

open World (Becomes)

def Library.Unhooked (lib : Library) : Prop :=
  ∀ name script, lib.find? name = some script → script.root.hooks = []

/-! ## The price -/

section Price

variable {cost health : Int32}

/-- The difference of two positive healths does not overflow, and is positive again. -/
theorem toInt_sub_of_lt (positive : 0 < cost) (less : cost < health) :
    (health - cost).toInt = health.toInt - cost.toInt ∧ 1 ≤ health - cost := by
  have positive : 0 < cost.toInt := Int32.lt_iff_toInt_lt.mp positive
  have less : cost.toInt < health.toInt := Int32.lt_iff_toInt_lt.mp less
  have most := health.toInt_lt
  have exact : (health - cost).toInt = health.toInt - cost.toInt := by
    rw [Int32.toInt_sub]
    apply Int.bmod_eq_of_le <;> omega
  refine ⟨exact, ?_⟩
  have one : (1 : Int32).toInt = 1 := rfl
  rw [Int32.le_iff_toInt_le, exact, one]
  omega

/-- What is left of some health that allows for a cost. -/
theorem Cast.afterCost_of_affords (affords : 0 < cost → cost < health) :
    (0 < cost → afterCost cost health = health - cost ∧
      (afterCost cost health).toInt = health.toInt - cost.toInt ∧ 1 ≤ afterCost cost health) ∧
    (¬ 0 < cost → afterCost cost health = health) := by
  constructor
  · intro positive
    obtain ⟨exact, alive⟩ := toInt_sub_of_lt positive (affords positive)
    have enough : ¬ health - cost < 0 := by
      intro negative
      have negative : (health - cost).toInt < 0 := Int32.lt_iff_toInt_lt.mp negative
      have alive : 1 ≤ (health - cost).toInt := Int32.le_iff_toInt_le.mp alive
      omega
    rw [afterCost, if_pos positive, if_neg enough]
    exact ⟨rfl, exact, alive⟩
  · intro free
    rw [afterCost, if_neg free]

end Price

namespace Caster

variable {r : Registry} {lib : Library} {c : Caster} {id : SkillId} {a : Ability} {spell : Spell}
  {w : World}

/-- The gates let nobody in who is not there or cannot pay. -/
theorem affords_of_check {target : Option EntityId} {es : Entities}
    (passed : c.check id target es = .ok ()) (known : c.ability? id = some a) :
    ∃ e, es.find? c.owner = some e ∧ (0 < a.skill.healthCost → a.skill.healthCost < e.health) := by
  have gate : a.check c.owner es (c.isBusy es) = .ok () := by
    simp only [check, known] at passed
    cases gate : a.check c.owner es (c.isBusy es) with
    | ok => rfl
    | error e =>
      rw [gate] at passed
      cases passed
  rw [Ability.check, Entities.health?] at gate
  split at gate
  · cases gate
  · cases found : es.find? c.owner with
    | none =>
      rw [found] at gate
      cases gate
    | some e =>
      refine ⟨e, rfl, ?_⟩
      intro positive
      by_contra poor
      have refused : Ability.affords a.skill e.health = false := by
        simp [Ability.affords, positive, Int32.not_lt.mp poor]
      simp only [found, Option.map_some, refused] at gate
      split at gate
      · cases gate
      · cases gate

def owns (c : Caster) (e : Entity) : Bool :=
  c.current.any fun p => Entities.isOwnedBy p.tag e

/-- An end of the running cast removes the entities with its tag, and may set flags of its owner. -/
theorem Sound.becomes_endCast (sound : c.Sound lib) (unhooked : lib.Unhooked) (w : World) :
    ∃ flags, w.Becomes (fun id e =>
        if c.owns e then none
        else some (if id = c.owner then { e with flags := e.flags.union flags } else e))
      (c.endCast w).2 := by
  cases running : c.current with
  | none =>
    rw [endCast_idle running]
    refine ⟨.empty, (Becomes.refl w).congr ?_⟩
    intro id e _
    simp [owns, running, Flags.union, Flags.empty]
  | some p =>
    have carries := sound.carries p running
    obtain ⟨name, script, loaded, hooks⟩ := carries.hooks
    rw [unhooked name script loaded, List.subset_nil] at hooks
    obtain ⟨_, -, ending⟩ := sound.endCast_eq running w
    rw [ending]
    refine ⟨p.suppressed, (Cast.becomes_release hooks w).congr ?_⟩
    intro id e _
    simp [owns, running, Entities.isOwnedBy, carries.owner]

/-- What an attempt to cast a skill at some cost leaves of the entities if it goes well. -/
structure Paid (c : Caster) (cost : Int32) (es es' : Entities) : Prop where
  /-- Those of the cast that was torn down are gone, all others are as they were. -/
  others : ∀ id, id ≠ c.owner → es'.find? id = (es.find? id).filter fun e => !c.owns e
  /-- The owner was there. Unless it is gone as well, it has paid in full and is alive, and nothing
  else of it has changed, except for flags. -/
  owner : ∃ e, es.find? c.owner = some e ∧
    (c.owns e = true → es'.find? c.owner = none) ∧
    (c.owns e = false → ∃ flags health,
      es'.find? c.owner = some { e with flags := flags, health := health } ∧
      (0 < cost → health = e.health - cost ∧ health.toInt = e.health.toInt - cost.toInt ∧
        1 ≤ health) ∧
      (¬ 0 < cost → health = e.health))

/-- A cast that starts is paid for once. -/
theorem Sound.paid_trySpell (sound : c.Sound lib) (unhooked : lib.Unhooked)
    (started : (c.trySpell r lib id spell w).1 = .ok ()) :
    ∃ a, c.ability? id = some a ∧
      c.Paid a.skill.healthCost w.entities (c.trySpell r lib id spell w).2.2.entities := by
  obtain ⟨a, script, p, w', passed, known, loaded, made, result⟩ := trySpell_started started
  obtain ⟨o, found, affords⟩ := affords_of_check passed known
  obtain ⟨flags, ended⟩ := sound.becomes_endCast unhooked w
  have begun := (Cast.becomes_start (unhooked _ script loaded) made).2
  rw [(sound.endCast_ended w).owner] at begun
  have becomes := (ended.trans begun).entities
  refine ⟨a, known, ?_⟩
  rw [result]
  refine ⟨?others, o, found, ?gone, ?paid⟩
  case others =>
    intro id other
    rw [becomes]
    cases w.entities.find? id with
    | none => rfl
    | some e => cases owned : c.owns e <;> simp [owned, other, Option.filter]
  case gone =>
    intro owned
    rw [becomes, found]
    simp [owned]
  case paid =>
    intro spared
    refine ⟨(o.flags.union flags).diff p.suppressed, Cast.afterCost a.skill.healthCost o.health, ?_,
      Cast.afterCost_of_affords affords⟩
    rw [becomes, found]
    simp [spared, Cast.charge]

end Caster

end SkillScript
