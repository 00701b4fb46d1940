import Mathlib.Algebra.Group.Nat.Defs
import SkillScript.Proofs.World.Entities
/-!
# What becomes of entities over time

A host puts entities of its own below the ids of spawned objects, and it moves,
changes and removes any entity, but it neither makes nor passes off objects of a
cast. A cast may do as much, and it may also spawn objects under its own tag. While
fewer objects are spawned than there are ids for them, no two objects get one id.
-/
set_option autoImplicit false
namespace SkillScript

namespace Entities

variable {es es' es'' : Entities} {id : EntityId} {tag : CastTag}

/-! ## The ids of objects -/

/-- The ids that objects were given between two states of a store. -/
def handedOut (es es' : Entities) : List EntityId :=
  (List.range' es.spawns (es'.spawns - es.spawns)).map objectId

theorem mem_handedOut_iff :
    id ∈ handedOut es es' ↔ ∃ n, es.spawns ≤ n ∧ n < es'.spawns ∧ objectId n = id := by
  simp only [handedOut, List.mem_map, List.mem_range'_1]
  constructor
  · rintro ⟨n, ⟨least, below⟩, numbered⟩
    exact ⟨n, least, by omega, numbered⟩
  · rintro ⟨n, least, below, numbered⟩
    exact ⟨n, ⟨least, by omega⟩, numbered⟩

theorem handedOut_eq_nil (same : es'.spawns = es.spawns) : handedOut es es' = [] := by
  simp [handedOut, same]

theorem handedOut_congr (same : es.spawns = es'.spawns) (es'' : Entities) :
    handedOut es es'' = handedOut es' es'' := by
  rw [handedOut, handedOut, same]

theorem mem_handedOut_left (member : id ∈ handedOut es es') (more : es'.spawns ≤ es''.spawns) :
    id ∈ handedOut es es'' := by
  obtain ⟨n, least, below, numbered⟩ := mem_handedOut_iff.mp member
  exact mem_handedOut_iff.mpr ⟨n, least, by omega, numbered⟩

theorem mem_handedOut_right (member : id ∈ handedOut es' es'') (fewer : es.spawns ≤ es'.spawns) :
    id ∈ handedOut es es'' := by
  obtain ⟨n, least, below, numbered⟩ := mem_handedOut_iff.mp member
  exact mem_handedOut_iff.mpr ⟨n, by omega, below, numbered⟩

theorem toNat_objectId {n : Nat} (room : n + 10000 < 2 ^ 32) :
    (objectId n).index.toNat = n + 10000 := by
  have small : n < 2 ^ 32 := by omega
  simp only [objectId, firstSpawned, UInt32.toNat_add, UInt32.toNat_ofNat',
    Nat.mod_eq_of_lt small]
  have first : (10000 : UInt32).toNat = 10000 := rfl
  rw [first, Nat.add_comm, Nat.mod_eq_of_lt room]

/-- The ids of objects are all different until they wrap around. -/
theorem objectId_inj {n m : Nat} (room : n + 10000 < 2 ^ 32) (room' : m + 10000 < 2 ^ 32)
    (same : objectId n = objectId m) : n = m := by
  have numbers := congrArg (fun id : EntityId => id.index.toNat) same
  simp only [toNat_objectId room, toNat_objectId room'] at numbers
  omega

theorem not_objectId_lt {n : Nat} (room : n + 10000 < 2 ^ 32) :
    ¬ (objectId n).index < firstSpawned := by
  rw [UInt32.lt_iff_toNat_lt, toNat_objectId room]
  have first : firstSpawned.toNat = 10000 := rfl
  omega

/-! ## Hosts and casts -/

/-- Whether an entity is one that was there before, whatever has been done to it, or one that a
host has put there. -/
def Known (es : Entities) (id : EntityId) (e : Entity) : Prop :=
  (e.ownerTag = none ∧ id.index < firstSpawned) ∨
    ∃ before, es.find? id = some before ∧ e.ownerTag = before.ownerTag

theorem Known.trans {e : Entity}
    (first : ∀ id e, es'.find? id = some e → es.Known id e) (second : es'.Known id e) :
    es.Known id e := by
  rcases second with fresh | ⟨e', found, same⟩
  · exact Or.inl fresh
  · rcases first id e' found with ⟨untagged, below⟩ | ⟨e'', found', same'⟩
    · exact Or.inl ⟨same.trans untagged, below⟩
    · exact Or.inr ⟨e'', found', same.trans same'⟩

/-- What a host may do between two states of a store. -/
structure Hosted (es es' : Entities) : Prop where
  spawns : es'.spawns = es.spawns
  known : ∀ id e, es'.find? id = some e → es.Known id e

/-- What a host and the cast with some tag may do between two states of a store. -/
structure Grown (tag : CastTag) (es es' : Entities) : Prop where
  spawns : es.spawns ≤ es'.spawns
  known : ∀ id e, es'.find? id = some e →
    es.Known id e ∨ (e.ownerTag = some tag ∧ id ∈ handedOut es es')

namespace Hosted

theorem refl (es : Entities) : Hosted es es where
  spawns := rfl
  known _ e found := Or.inr ⟨e, found, rfl⟩

theorem trans (first : Hosted es es') (second : Hosted es' es'') : Hosted es es'' where
  spawns := second.spawns.trans first.spawns
  known id e found := .trans first.known (second.known id e found)

theorem modify (es : Entities) (id : EntityId) {f : Entity → Entity}
    (same : ∀ e, (f e).ownerTag = e.ownerTag) : Hosted es (es.modify id f) where
  spawns := rfl
  known j e found := by
    rw [find?_modify] at found
    by_cases here : j = id
    · rw [if_pos here, Option.map_eq_some_iff] at found
      obtain ⟨before, known, rfl⟩ := found
      exact Or.inr ⟨before, here ▸ known, same before⟩
    · rw [if_neg here] at found
      exact Or.inr ⟨e, found, rfl⟩

theorem setFlags (es : Entities) (id : EntityId) (flags : Flags) :
    Hosted es (es.setFlags id flags) :=
  modify es id fun _ => rfl

theorem setHealth (es : Entities) (id : EntityId) (health : Int32) :
    Hosted es (es.setHealth id health) :=
  modify es id fun _ => rfl

theorem adjustHealth (es : Entities) (id : EntityId) (delta : Int32) :
    Hosted es (es.adjustHealth id delta) :=
  modify es id fun _ => rfl

theorem release (es : Entities) (tag : CastTag) : Hosted es (es.release tag) where
  spawns := rfl
  known id e found := by
    rw [find?_release, Option.filter_eq_some_iff] at found
    exact Or.inr ⟨e, found.1, rfl⟩

/-- Hosts number their entities below the objects that are spawned. -/
theorem insert (es : Entities) {e : Entity} (untagged : e.ownerTag = none)
    (below : id.index < firstSpawned) : Hosted es (es.insert id e) where
  spawns := rfl
  known j e' found := by
    have found : (es.table.insert id e).find? j = some e' := found
    rw [Table.find?_insert] at found
    by_cases here : j = id
    · rw [if_pos here] at found
      cases found
      exact Or.inl ⟨untagged, here ▸ below⟩
    · rw [if_neg here] at found
      exact Or.inr ⟨e', found, rfl⟩

theorem grown (hosted : Hosted es es') (tag : CastTag) : Grown tag es es' where
  spawns := Nat.le_of_eq hosted.spawns.symm
  known id e found := Or.inl (hosted.known id e found)

/-- A host makes no objects of a cast. -/
theorem tagged (hosted : Hosted es es') {e : Entity} (found : es'.find? id = some e)
    (owned : e.ownerTag = some tag) : ∃ e, es.find? id = some e ∧ e.ownerTag = some tag := by
  rcases hosted.known id e found with ⟨untagged, -⟩ | ⟨e', found', same⟩
  · rw [untagged] at owned
    cases owned
  · exact ⟨e', found', same.symm.trans owned⟩

theorem unowned (hosted : Hosted es es') (before : es.Unowned tag) : es'.Unowned tag := by
  intro id e found owned
  obtain ⟨e', found', owned'⟩ := hosted.tagged found owned
  exact before id e' found' owned'

end Hosted

namespace Grown

theorem refl (tag : CastTag) (es : Entities) : Grown tag es es :=
  (Hosted.refl es).grown tag

theorem trans (first : Grown tag es es') (second : Grown tag es' es'') : Grown tag es es'' where
  spawns := Nat.le_trans first.spawns second.spawns
  known id e found := by
    rcases second.known id e found with (fresh | ⟨e', found', same⟩) | ⟨owned, member⟩
    · exact Or.inl (Or.inl fresh)
    · rcases first.known id e' found' with (⟨untagged, below⟩ | ⟨e'', found'', same'⟩) |
        ⟨owned, member⟩
      · exact Or.inl (Or.inl ⟨same.trans untagged, below⟩)
      · exact Or.inl (Or.inr ⟨e'', found'', same.trans same'⟩)
      · exact Or.inr ⟨same.trans owned, mem_handedOut_left member second.spawns⟩
    · exact Or.inr ⟨owned, mem_handedOut_right member first.spawns⟩

theorem spawn (es : Entities) (owner : EntityId) (kind : String) (tag : CastTag) :
    Grown tag es (es.spawn owner kind tag).2 := by
  rw [Entities.spawn]
  cases es.find? owner with
  | none => exact .refl tag es
  | some e =>
    refine ⟨Nat.le_succ _, ?_⟩
    intro id e' found
    have found : (es.table.insert (objectId es.spawns) (spawned e kind tag)).find? id =
      some e' := found
    rw [Table.find?_insert] at found
    by_cases here : id = objectId es.spawns
    · rw [if_pos here] at found
      cases found
      exact Or.inr ⟨rfl, mem_handedOut_iff.mpr
        ⟨es.spawns, Nat.le_refl _, Nat.lt_succ_self _, here.symm⟩⟩
    · rw [if_neg here] at found
      exact Or.inl (Or.inr ⟨e', found, rfl⟩)

end Grown

/-! ## Flags of one entity -/

/-- Nothing that `f` reads of the flags of an entity has changed, unless the entity was removed or
an object was given its id. -/
structure Spared {α : Type} (id : EntityId) (f : Flags → α) (es es' : Entities) : Prop where
  spawns : es.spawns ≤ es'.spawns
  kept : id ∉ handedOut es es' → es'.exists? id = true →
    es.exists? id = true ∧ f (es'.flags id) = f (es.flags id)

namespace Spared

variable {α : Type} {f : Flags → α}

theorem refl (id : EntityId) (f : Flags → α) (es : Entities) : Spared id f es es where
  spawns := Nat.le_refl _
  kept _ alive := ⟨alive, rfl⟩

theorem trans (first : Spared id f es es') (second : Spared id f es' es'') :
    Spared id f es es'' where
  spawns := Nat.le_trans first.spawns second.spawns
  kept free alive := by
    obtain ⟨between, later⟩ :=
      second.kept (fun member => free (mem_handedOut_right member first.spawns)) alive
    obtain ⟨before, earlier⟩ :=
      first.kept (fun member => free (mem_handedOut_left member second.spawns)) between
    exact ⟨before, later.trans earlier⟩

theorem of_find? (more : es.spawns ≤ es'.spawns)
    (same : id ∉ handedOut es es' → ∀ e', es'.find? id = some e' →
      ∃ e, es.find? id = some e ∧ f e'.flags = f e.flags) : Spared id f es es' where
  spawns := more
  kept free alive := by
    obtain ⟨e', found'⟩ := Option.isSome_iff_exists.mp alive
    obtain ⟨e, found, kept⟩ := same free e' found'
    simp only [exists?, flags, found, found', kept, Option.isSome_some, and_self]

theorem modify (es : Entities) (j : EntityId) {g : Entity → Entity}
    (same : ∀ e, es.find? id = some e → f (g e).flags = f e.flags) :
    Spared id f es (es.modify j g) := by
  refine of_find? (Nat.le_refl _) ?_
  intro _ e' found
  rw [find?_modify] at found
  by_cases here : id = j
  · rw [if_pos here, Option.map_eq_some_iff] at found
    obtain ⟨e, before, rfl⟩ := found
    rw [← here] at before
    exact ⟨e, before, same e before⟩
  · rw [if_neg here] at found
    exact ⟨e', found, rfl⟩

theorem setFlags {flags : Flags} (same : f flags = f (es.flags id)) :
    Spared id f es (es.setFlags id flags) := by
  refine modify es id ?_
  intro e found
  rw [Entities.flags, found] at same
  exact same

theorem setHealth (es : Entities) (j : EntityId) (health : Int32) :
    Spared id f es (es.setHealth j health) :=
  modify es j fun _ _ => rfl

theorem adjustHealth (es : Entities) (j : EntityId) (delta : Int32) :
    Spared id f es (es.adjustHealth j delta) :=
  modify es j fun _ _ => rfl

theorem release (es : Entities) (tag : CastTag) : Spared id f es (es.release tag) := by
  refine of_find? (Nat.le_refl _) ?_
  intro _ e found
  rw [find?_release, Option.filter_eq_some_iff] at found
  exact ⟨e, found.1, rfl⟩

theorem spawn (es : Entities) (owner : EntityId) (kind : String) (tag : CastTag) :
    Spared id f es (es.spawn owner kind tag).2 := by
  rw [Entities.spawn]
  cases es.find? owner with
  | none => exact .refl id f es
  | some e =>
    refine of_find? (Nat.le_succ _) ?_
    intro free e' found
    have found : (es.table.insert (objectId es.spawns) (spawned e kind tag)).find? id =
      some e' := found
    rw [Table.find?_insert] at found
    by_cases here : id = objectId es.spawns
    · refine absurd (mem_handedOut_iff.mpr ?_) free
      exact ⟨es.spawns, Nat.le_refl _, Nat.lt_succ_self _, here.symm⟩
    · rw [if_neg here] at found
      exact ⟨e', found, rfl⟩

end Spared

/-! ## Objects keep their casts -/

def Spawned (es : Entities) (id : EntityId) : Prop :=
  ∃ n < es.spawns, objectId n = id

def Numbered (es : Entities) : Prop :=
  ∀ id e, es.find? id = some e → id.index < firstSpawned ∨ es.Spawned id

theorem Spawned.mono (spawned : es.Spawned id) (more : es.spawns ≤ es'.spawns) :
    es'.Spawned id := by
  obtain ⟨n, below, numbered⟩ := spawned
  exact ⟨n, by omega, numbered⟩

theorem spawned_of_mem_handedOut (member : id ∈ handedOut es es') : es'.Spawned id := by
  obtain ⟨n, -, below, numbered⟩ := mem_handedOut_iff.mp member
  exact ⟨n, below, numbered⟩

theorem Spawned.not_lt (spawned : es.Spawned id) (room : es.spawns + 10000 < 2 ^ 32) :
    ¬ id.index < firstSpawned := by
  obtain ⟨n, below, rfl⟩ := spawned
  exact not_objectId_lt (by omega)

/-- An id is not given twice. -/
theorem Spawned.not_mem_handedOut (spawned : es.Spawned id) (room : es'.spawns + 10000 < 2 ^ 32) :
    id ∉ handedOut es es' := by
  intro member
  obtain ⟨n, below, numbered⟩ := spawned
  obtain ⟨m, least, below', numbered'⟩ := mem_handedOut_iff.mp member
  have same := objectId_inj (by omega) (by omega) (numbered.trans numbered'.symm)
  omega

theorem Numbered.grown (before : es.Numbered) (grown : Grown tag es es') : es'.Numbered := by
  intro id e found
  rcases grown.known id e found with (⟨-, below⟩ | ⟨e', found', -⟩) | ⟨-, member⟩
  · exact Or.inl below
  · exact (before id e' found').imp_right fun spawned => spawned.mono grown.spawns
  · exact Or.inr (spawned_of_mem_handedOut member)

/-- At the id of an object there is never another entity than that object. -/
theorem Grown.kept (grown : Grown tag es es') (room : es'.spawns + 10000 < 2 ^ 32)
    (spawned : es.Spawned id) {e : Entity} (found : es'.find? id = some e) :
    ∃ before, es.find? id = some before ∧ e.ownerTag = before.ownerTag := by
  rcases grown.known id e found with (⟨-, below⟩ | known) | ⟨-, member⟩
  · exact absurd below (spawned.not_lt (by have := grown.spawns; omega))
  · exact known
  · exact absurd member (spawned.not_mem_handedOut room)

/-- An entity at an id that was just handed out is an object of the cast. -/
theorem Grown.owned (grown : Grown tag es es') (before : es.Numbered)
    (room : es'.spawns + 10000 < 2 ^ 32) (member : id ∈ handedOut es es') {e : Entity}
    (found : es'.find? id = some e) : e.ownerTag = some tag := by
  have spawned : es'.Spawned id := spawned_of_mem_handedOut member
  rcases grown.known id e found with (⟨-, below⟩ | ⟨e', found', -⟩) | ⟨owned, -⟩
  · exact absurd below (spawned.not_lt room)
  · rcases before id e' found' with below | old
    · exact absurd below (spawned.not_lt room)
    · exact absurd member (old.not_mem_handedOut room)
  · exact owned

end Entities

end SkillScript
