import SkillScript.Number.Rounding
/-!
# Entities of the host

What scripts know of the host's entities: an id, and a record with kind, health,
status flags, position and, for objects that a cast has spawned, the tag of that
cast.
-/
set_option autoImplicit false
namespace SkillScript

structure EntityId where
  index : UInt32
deriving DecidableEq, Repr, Inhabited

namespace EntityId

instance : Ord EntityId := ⟨fun a b => compare a.index b.index⟩

instance : Std.TransOrd EntityId where
  eq_swap {a b} := by
    show compare a.index b.index = (compare b.index a.index).swap
    exact Std.OrientedOrd.eq_swap
  isLE_trans {a b c} h k := by
    change (compare a.index b.index).isLE at h
    change (compare b.index c.index).isLE at k
    show (compare a.index c.index).isLE
    exact Std.TransOrd.isLE_trans h k

instance : Std.LawfulEqOrd EntityId where
  compare_self {a} := by
    show compare a.index a.index = .eq
    exact Std.ReflOrd.compare_self
  eq_of_compare {a b} h := by
    change compare a.index b.index = .eq at h
    obtain ⟨i⟩ := a
    obtain ⟨j⟩ := b
    exact congrArg EntityId.mk (Std.LawfulEqOrd.eq_of_compare h)

def display (id : EntityId) : String :=
  "#" ++ toString id.index.toNat

end EntityId

/-- Names one cast: the objects that it spawns carry this tag. -/
structure CastTag where
  bits : UInt64
deriving DecidableEq, Repr, Inhabited

/-- The caster in the upper half, the number of its cast in the lower. -/
def CastTag.forCast (owner : EntityId) (sequence : UInt32) : CastTag :=
  ⟨(owner.index.toUInt64 <<< 32) ||| sequence.toUInt64⟩

structure Position where
  x : Float32
  y : Float32
deriving Repr, Inhabited

def Position.origin : Position := ⟨0, 0⟩

def Position.distance (a b : Position) : Float32 :=
  let dx := b.x - a.x
  let dy := b.y - a.y
  (dx * dx + dy * dy).sqrt

structure Flags where
  movable : Bool := false
  stunnable : Bool := false
  stunned : Bool := false
deriving DecidableEq, Repr, Inhabited

namespace Flags

def empty : Flags := {}

def inter (a b : Flags) : Flags :=
  ⟨a.movable && b.movable, a.stunnable && b.stunnable, a.stunned && b.stunned⟩

def union (a b : Flags) : Flags :=
  ⟨a.movable || b.movable, a.stunnable || b.stunnable, a.stunned || b.stunned⟩

def diff (a b : Flags) : Flags :=
  ⟨a.movable && !b.movable, a.stunnable && !b.stunnable, a.stunned && !b.stunned⟩

def isEmpty (a : Flags) : Bool :=
  !a.movable && !a.stunnable && !a.stunned

end Flags

structure Entity where
  kind : String
  health : Int32
  flags : Flags
  position : Position
  ownerTag : Option CastTag
deriving Repr, Inhabited

def Entity.actor (health : Int32) (position : Position) : Entity where
  kind := "actor"
  health := health
  flags := { movable := true, stunnable := true }
  position := position
  ownerTag := none

/-- Health after a change: computed without overflow and then brought into the range from
zero to the greatest 32-bit number. -/
def changedHealth (health delta : Int32) : Int32 :=
  let sum := Number.saturate (health.toInt + delta.toInt)
  if sum < 0 then 0 else sum

end SkillScript
