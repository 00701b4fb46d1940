import SkillScript.Agent
import SkillScript.Cast.Cooldown
/-!
# Skills

The definition of a skill, and a skill as it is known to one owner, with its
cooldown and the gates that a cast has to pass.
-/
set_option autoImplicit false
namespace SkillScript

structure SkillId where
  number : UInt32
deriving DecidableEq, Repr, Inhabited

namespace SkillId

instance : Ord SkillId := ⟨fun a b => compare a.number b.number⟩

instance : Std.TransOrd SkillId where
  eq_swap {a b} := by
    show compare a.number b.number = (compare b.number a.number).swap
    exact Std.OrientedOrd.eq_swap
  isLE_trans {a b c} h k := by
    change (compare a.number b.number).isLE at h
    change (compare b.number c.number).isLE at k
    show (compare a.number c.number).isLE
    exact Std.TransOrd.isLE_trans h k

instance : Std.LawfulEqOrd SkillId where
  compare_self {a} := by
    show compare a.number a.number = .eq
    exact Std.ReflOrd.compare_self
  eq_of_compare {a b} h := by
    change compare a.number b.number = .eq at h
    obtain ⟨i⟩ := a
    obtain ⟨j⟩ := b
    exact congrArg SkillId.mk (Std.LawfulEqOrd.eq_of_compare h)

def display (id : SkillId) : String :=
  "skill:" ++ toString id.number.toNat

end SkillId

structure Skill where
  id : SkillId
  name : String
  /-- The name of the script that each cast runs. -/
  script : String
  cooldown : Float32 := 0
  /-- The greatest distance to a target; without one there is no limit. -/
  range : Option Float32 := none
  /-- A running cast may be replaced by another, and ends when the owner is stunned. -/
  interruptible : Bool := false
  minHealth : Int32 := 0
  /-- The health that the owner pays for a cast. -/
  healthCost : Int32 := 0
  /-- The owner cannot move during a cast. -/
  lockMovement : Bool := false
  /-- The owner cannot be stunned during a cast. -/
  unstoppable : Bool := false
deriving DecidableEq, Repr, Inhabited

def Skill.locks (s : Skill) : Flags :=
  { movable := s.lockMovement, stunnable := s.unstoppable }

inductive CastBlock where
  | onCooldown
  | ownerMissing
  | stunned
  | insufficientHealth
  /-- Another cast runs that must not be interrupted. -/
  | busy
  | targetMissing
  | outOfRange
deriving DecidableEq, Repr

def CastBlock.name : CastBlock → String
  | onCooldown => "on_cooldown"
  | ownerMissing => "owner_missing"
  | stunned => "stunned"
  | insufficientHealth => "insufficient_health"
  | busy => "busy"
  | targetMissing => "target_missing"
  | outOfRange => "out_of_range"

structure Ability where
  skill : Skill
  cooldown : Cooldown
deriving DecidableEq, Repr

namespace Ability

def ofSkill (skill : Skill) : Ability :=
  ⟨skill, .ofDuration skill.cooldown⟩

/-- Whether the health of the owner allows a cast. Paying must leave some health. -/
def affords (s : Skill) (health : Int32) : Bool :=
  !(health < s.minHealth || (0 < s.healthCost && health ≤ s.healthCost))

/-- The gates that need no target. `busy` tells whether a cast runs that must not be
interrupted. -/
def check (a : Ability) (owner : EntityId) (es : Entities) (busy : Bool) :
    Except CastBlock Unit :=
  if a.cooldown.isCooling then .error .onCooldown
  else
    match es.health? owner with
    | none => .error .ownerMissing
    | some health =>
      if (es.flags owner).stunned then .error .stunned
      else if !affords a.skill health then .error .insufficientHealth
      else if busy then .error .busy
      else .ok ()

/-- Whether the target exists and lies within range. -/
def checkTarget (a : Ability) (owner target : EntityId) (es : Entities) :
    Except CastBlock Unit :=
  match es.position? target with
  | none => .error .targetMissing
  | some there =>
    match a.skill.range with
    | none => .ok ()
    | some range =>
      match es.position? owner with
      | none => .error .ownerMissing
      | some here => if range < here.distance there then .error .outOfRange else .ok ()

end Ability

end SkillScript
