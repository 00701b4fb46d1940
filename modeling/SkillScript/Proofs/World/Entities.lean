import SkillScript.World.Entities
/-!
# What changes in a store of entities do

What a change does to the entity at each id, to its flags, and to the objects of a
cast. An object belongs to the cast whose tag it carries.
-/
set_option autoImplicit false
namespace SkillScript

namespace Flags

structure Within (a b : Flags) : Prop where
  movable : a.movable = true → b.movable = true
  stunnable : a.stunnable = true → b.stunnable = true
  stunned : a.stunned = true → b.stunned = true

theorem Within.union_right (a b : Flags) : b.Within (a.union b) where
  movable h := by simp [union, h]
  stunnable h := by simp [union, h]
  stunned h := by simp [union, h]

end Flags

namespace Entities

variable {es : Entities} {id : EntityId} {tag : CastTag}

theorem find?_modify (es : Entities) (id j : EntityId) (f : Entity → Entity) :
    (es.modify id f).find? j = if j = id then (es.find? id).map f else es.find? j :=
  Table.find?_modify es.table id j f

theorem find?_release (es : Entities) (tag : CastTag) (id : EntityId) :
    (es.release tag).find? id = (es.find? id).filter fun e => !isOwnedBy tag e :=
  Table.find?_filter es.table _ id

theorem exists?_modify (es : Entities) (id j : EntityId) (f : Entity → Entity) :
    (es.modify id f).exists? j = es.exists? j := by
  rw [exists?, exists?, find?_modify]
  by_cases here : j = id
  · simp [here]
  · simp [here]

/-- The flags of an entity that exists are those that were set last. -/
theorem flags_setFlags (es : Entities) (id : EntityId) (flags : Flags)
    (alive : es.exists? id = true) : (es.setFlags id flags).flags id = flags := by
  obtain ⟨e, found⟩ := Option.isSome_iff_exists.mp alive
  have found : es.find? id = some e := found
  rw [Entities.flags, setFlags, find?_modify, if_pos rfl, found]
  rfl

def Unowned (tag : CastTag) (es : Entities) : Prop :=
  ∀ id e, es.find? id = some e → e.ownerTag ≠ some tag

theorem unowned_release (es : Entities) (tag : CastTag) : (es.release tag).Unowned tag := by
  intro id e found
  rw [find?_release, Option.filter_eq_some_iff] at found
  simpa [isOwnedBy] using found.2

/-- No entity belongs to a cast of which no objects are counted. -/
theorem ownedCount_eq_zero_iff : es.ownedCount tag = 0 ↔ es.Unowned tag := by
  rw [ownedCount, List.length_eq_zero_iff, List.filter_eq_nil_iff]
  constructor
  · intro none id e found
    have other := none e ((Table.mem_values_iff es.table e).mpr ⟨id, found⟩)
    simpa [isOwnedBy] using other
  · intro unowned e member
    obtain ⟨id, found⟩ := (Table.mem_values_iff es.table e).mp member
    simpa [isOwnedBy] using unowned id e found

end Entities

namespace CastTag

theorem toNat_forCast (owner : EntityId) (n : UInt32) :
    (forCast owner n).bits.toNat = owner.index.toNat * 4294967296 + n.toNat := by
  have small : n.toNat < 2 ^ 32 := n.toNat_lt
  have large : owner.index.toNat < 2 ^ 32 := owner.index.toNat_lt
  have shifted : (owner.index.toUInt64 <<< 32).toNat = owner.index.toNat <<< 32 := by
    rw [UInt64.toNat_shiftLeft]
    have bound : owner.index.toNat <<< 32 < 2 ^ 64 := by
      rw [Nat.shiftLeft_eq]
      omega
    simpa using Nat.mod_eq_of_lt bound
  rw [forCast, UInt64.toNat_or, shifted, UInt32.toNat_toUInt64,
    ← Nat.shiftLeft_add_eq_or_of_lt small, Nat.shiftLeft_eq]

/-- A tag names one caster and one number of a cast. -/
theorem forCast_inj {owner owner' : EntityId} {n n' : UInt32} :
    forCast owner n = forCast owner' n' ↔ owner = owner' ∧ n = n' := by
  constructor
  · intro same
    have bits := congrArg (fun t : CastTag => t.bits.toNat) same
    simp only [toNat_forCast] at bits
    have small : n.toNat < 2 ^ 32 := n.toNat_lt
    have small' : n'.toNat < 2 ^ 32 := n'.toNat_lt
    have upper : owner.index.toNat = owner'.index.toNat := by omega
    have lower : n.toNat = n'.toNat := by omega
    obtain ⟨i⟩ := owner
    obtain ⟨j⟩ := owner'
    exact ⟨congrArg EntityId.mk (UInt32.toNat_inj.mp upper), UInt32.toNat_inj.mp lower⟩
  · rintro ⟨rfl, rfl⟩
    rfl

end CastTag

end SkillScript
