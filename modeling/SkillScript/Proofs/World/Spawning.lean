import SkillScript.Proofs.World.Changes
/-!
# Spawned objects beside the entities of the host

A host does with a store what it likes: it puts entities under ids of its own choice,
changes and removes them, spawns objects and releases them. The ids of objects come
from a counter that only spawning moves. So an object never takes the place of another
object, and it takes the place of an entity of the host only where the host had put one
under the very id that comes next.
-/
set_option autoImplicit false
namespace SkillScript

namespace Entities

inductive Call where
  | insert (id : EntityId) (e : Entity)
  | remove (id : EntityId)
  | setHealth (id : EntityId) (health : Int32)
  | setFlags (id : EntityId) (flags : Flags)
  | setPosition (id : EntityId) (p : Position)
  | spawn (owner : EntityId) (kind : String) (tag : CastTag)
  | release (tag : CastTag)

def call (es : Entities) : Call → Entities
  | .insert id e => es.insert id e
  | .remove id => es.remove id
  | .setHealth id health => es.setHealth id health
  | .setFlags id flags => es.setFlags id flags
  | .setPosition id p => es.setPosition id p
  | .spawn owner kind tag => (es.spawn owner kind tag).2
  | .release tag => es.release tag

def run (es : Entities) : List Call → Entities
  | [] => es
  | c :: rest => (es.call c).run rest

def size (es : Entities) : Nat :=
  es.table.size

variable {es es' : Entities} {id owner : EntityId} {kind : String} {tag : CastTag} {e : Entity}

/-! ## One object -/

theorem spawn_of_absent (absent : es.find? owner = none) :
    es.spawn owner kind tag = (none, es) := by
  rw [spawn, absent]

theorem spawn_of_found (found : es.find? owner = some e) :
    es.spawn owner kind tag = (some (objectId es.spawns),
      { es.insert (objectId es.spawns) (spawned e kind tag) with spawns := es.spawns + 1 }) := by
  rw [spawn, found]
  rfl

theorem find?_insert (es : Entities) (id j : EntityId) (e : Entity) :
    (es.insert id e).find? j = if j = id then some e else es.find? j :=
  Table.find?_insert es.table id j e

theorem size_insert (es : Entities) (id : EntityId) (e : Entity) :
    (es.insert id e).size = es.size + if es.exists? id then 0 else 1 :=
  Table.size_insert es.table id e

/-- What an object at `id` is to a store: it stands where its owner does, it carries the tag of
its cast, and the rest of the store is as it was. -/
structure Joined (owner : EntityId) (kind : String) (tag : CastTag) (id : EntityId)
    (es es' : Entities) : Prop where
  object : ∃ e, es.find? owner = some e ∧ es'.find? id = some (spawned e kind tag)
  others : ∀ j, j ≠ id → es'.find? j = es.find? j
  size : es'.size = es.size + if es.exists? id then 0 else 1

theorem joined_spawn (kind : String) (tag : CastTag) (found : es.find? owner = some e) :
    Joined owner kind tag (objectId es.spawns) es (es.spawn owner kind tag).2 := by
  rw [spawn_of_found found]
  have bound (j : EntityId) := es.find?_insert (objectId es.spawns) j (spawned e kind tag)
  refine ⟨⟨e, found, ?_⟩, ?_, es.size_insert (objectId es.spawns) (spawned e kind tag)⟩
  · exact (bound _).trans (if_pos rfl)
  · intro j apart
    exact (bound j).trans (if_neg apart)

theorem find?_release_eq_some_iff :
    (es.release tag).find? id = some e ↔ es.find? id = some e ∧ e.ownerTag ≠ some tag := by
  rw [find?_release, Option.filter_eq_some_iff]
  simp [isOwnedBy]

/-- An object of the cast is counted, or it stays. -/
theorem size_release (es : Entities) (tag : CastTag) :
    (es.release tag).size + es.ownedCount tag = es.size := by
  have parted := es.table.size_filter fun e => !isOwnedBy tag e
  simp only [Bool.not_not] at parted
  exact parted

/-! ## Where entities come from -/

theorem spawns_le_call (es : Entities) (c : Call) : es.spawns ≤ (es.call c).spawns := by
  cases c with
  | spawn owner kind tag => exact (Grown.spawn es owner kind tag).spawns
  | _ => exact Nat.le_refl es.spawns

theorem spawns_le_run (es : Entities) (calls : List Call) : es.spawns ≤ (es.run calls).spawns := by
  induction calls generalizing es with
  | nil => exact Nat.le_refl es.spawns
  | cons c rest ih => exact Nat.le_trans (es.spawns_le_call c) (ih (es.call c))

theorem spawned_of_spawn (alive : (es.spawn owner kind tag).2.exists? id = true) :
    es.exists? id = true ∨ (es.spawn owner kind tag).2.Spawned id := by
  cases found : es.find? owner with
  | none =>
    rw [spawn_of_absent found] at alive
    exact Or.inl alive
  | some e =>
    by_cases here : id = objectId es.spawns
    · rw [spawn_of_found found]
      exact Or.inr ⟨es.spawns, Nat.lt_succ_self _, here.symm⟩
    · rw [exists?, (joined_spawn kind tag found).others id here] at alive
      exact Or.inl alive

/-- An entity was there before a call, or the host has put it there, or it is an object. -/
theorem origin_call {c : Call} (alive : (es.call c).exists? id = true) :
    es.exists? id = true ∨ (∃ e, c = .insert id e) ∨ (es.call c).Spawned id := by
  cases c with
  | insert j e =>
    by_cases here : id = j
    · exact Or.inr (Or.inl ⟨e, here ▸ rfl⟩)
    · rw [exists?, call, find?_insert, if_neg here] at alive
      exact Or.inl alive
  | remove j =>
    obtain ⟨e, found⟩ := Option.isSome_iff_exists.mp alive
    exact Or.inl (Option.isSome_of_eq_some (Table.find?_of_find?_erase found))
  | setHealth j health => exact Or.inl ((es.exists?_modify j id _).symm.trans alive)
  | setFlags j flags => exact Or.inl ((es.exists?_modify j id _).symm.trans alive)
  | setPosition j p => exact Or.inl ((es.exists?_modify j id _).symm.trans alive)
  | spawn owner kind tag => exact (spawned_of_spawn alive).imp_right Or.inr
  | release tag =>
    obtain ⟨e, found⟩ := Option.isSome_iff_exists.mp alive
    exact Or.inl (Option.isSome_of_eq_some (find?_release_eq_some_iff.mp found).1)

theorem origin_run {calls : List Call} (alive : (es.run calls).exists? id = true) :
    es.exists? id = true ∨ (∃ e, .insert id e ∈ calls) ∨ (es.run calls).Spawned id := by
  induction calls generalizing es with
  | nil => exact Or.inl alive
  | cons c rest ih =>
    rcases ih alive with before | ⟨e, member⟩ | spawned
    · rcases origin_call before with before | ⟨e, rfl⟩ | spawned
      · exact Or.inl before
      · exact Or.inr (Or.inl ⟨e, List.mem_cons_self ..⟩)
      · exact Or.inr (Or.inr (spawned.mono ((es.call c).spawns_le_run rest)))
    · exact Or.inr (Or.inl ⟨e, List.mem_cons_of_mem _ member⟩)
    · exact Or.inr (Or.inr spawned)

/-- No object has the id that comes next. -/
theorem not_spawned_next (room : es.spawns + 10000 < 2 ^ 32) : ¬ es.Spawned (objectId es.spawns) := by
  rintro ⟨n, below, same⟩
  have equal := objectId_inj (by omega) room same
  omega

/-- Only an entity that the host has put there can be in the place of the next object. -/
theorem inserted_of_exists?_next {calls : List Call}
    (room : (empty.run calls).spawns + 10000 < 2 ^ 32)
    (taken : (empty.run calls).exists? (objectId (empty.run calls).spawns) = true) :
    ∃ e, .insert (objectId (empty.run calls).spawns) e ∈ calls := by
  rcases origin_run taken with nowhere | inserted | spawned
  · cases nowhere
  · exact inserted
  · exact absurd spawned (not_spawned_next room)

/-- However a host has used a store, an object gets the id of its number, at which nothing is but
what the host itself has put there; everything else stays, and releasing a cast takes its objects
and nothing else. -/
theorem spawn_joins_and_release_parts (calls : List Call) (owner : EntityId) (kind : String)
    (tag : CastTag) (room : (empty.run calls).spawns < 2 ^ 32 - 10000) :
    ((∃ id es', (empty.run calls).exists? owner = true ∧
        (empty.run calls).spawn owner kind tag = (some id, es') ∧
        id.index.toNat = 10000 + (empty.run calls).spawns ∧
        ((empty.run calls).exists? id = true → ∃ e, .insert id e ∈ calls) ∧
        Joined owner kind tag id (empty.run calls) es') ∨
      ((empty.run calls).exists? owner = false ∧
        (empty.run calls).spawn owner kind tag = (none, empty.run calls))) ∧
    (∀ id e, ((empty.run calls).release tag).find? id = some e ↔
      (empty.run calls).find? id = some e ∧ e.ownerTag ≠ some tag) ∧
    ((empty.run calls).release tag).size + (empty.run calls).ownedCount tag =
      (empty.run calls).size := by
  have room : (empty.run calls).spawns + 10000 < 2 ^ 32 := by omega
  refine ⟨?_, fun _ _ => find?_release_eq_some_iff, size_release _ tag⟩
  cases found : (empty.run calls).find? owner with
  | none => exact Or.inr ⟨by rw [exists?, found]; rfl, spawn_of_absent found⟩
  | some e =>
    have numbered := toNat_objectId room
    refine Or.inl ⟨objectId (empty.run calls).spawns, _, Option.isSome_of_eq_some found,
      spawn_of_found found, by omega, inserted_of_exists?_next room, ?_⟩
    have joined := joined_spawn kind tag found
    rw [spawn_of_found found] at joined
    exact joined

def peopled : List Call :=
  [.insert ⟨1⟩ (.actor 100 .origin), .spawn ⟨1⟩ "orb" ⟨5⟩, .insert ⟨2⟩ (.actor 40 .origin),
    .spawn ⟨2⟩ "wall" ⟨6⟩, .remove ⟨2⟩]

theorem spawn_joins_and_release_parts_of_peopled :
    (empty.run peopled).spawns < 2 ^ 32 - 10000 ∧
      ∃ id es', (empty.run peopled).spawn ⟨1⟩ "orb" ⟨5⟩ = (some id, es') ∧
        id.index.toNat = 10002 ∧ Joined ⟨1⟩ "orb" ⟨5⟩ id (empty.run peopled) es' := by
  have room : (empty.run peopled).spawns < 2 ^ 32 - 10000 := by decide
  refine ⟨room, ?_⟩
  rcases (spawn_joins_and_release_parts peopled ⟨1⟩ "orb" ⟨5⟩ room).1 with
    ⟨id, es', -, spawned, numbered, -, joined⟩ | ⟨absent, -⟩
  · exact ⟨id, es', spawned, numbered, joined⟩
  · exact absurd absent (by decide)

def crowded : List Call :=
  [.insert ⟨1⟩ (.actor 100 .origin), .insert ⟨10000⟩ (.actor 7 .origin)]

/-- An object takes the place of what the host has put under its id. -/
theorem spawn_replaces_in_crowded :
    ((empty.run crowded).spawn ⟨1⟩ "orb" ⟨5⟩).1 = some ⟨10000⟩ ∧
      (empty.run crowded).health? ⟨10000⟩ = some 7 ∧
      ((empty.run crowded).spawn ⟨1⟩ "orb" ⟨5⟩).2.health? ⟨10000⟩ = some 0 ∧
      ((empty.run crowded).spawn ⟨1⟩ "orb" ⟨5⟩).2.size = (empty.run crowded).size := by
  decide

end Entities

end SkillScript
