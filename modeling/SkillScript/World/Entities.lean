import SkillScript.Entity
import SkillScript.Table
/-!
# The entities of a world

Entities by id, and how many objects were spawned. Hosts choose the ids of their own
entities; spawned objects are numbered from `firstSpawned` on.
-/
set_option autoImplicit false
namespace SkillScript

structure Entities where
  table : Table EntityId Entity
  /-- How many objects were spawned so far. -/
  spawns : Nat := 0

namespace Entities

def firstSpawned : UInt32 := 10000

/-- The id of an object by the number of its spawn. Ids wrap around. -/
def objectId (n : Nat) : EntityId :=
  ⟨firstSpawned + UInt32.ofNat n⟩

def empty : Entities := ⟨∅, 0⟩

instance : Inhabited Entities := ⟨empty⟩

def find? (es : Entities) (id : EntityId) : Option Entity :=
  es.table.find? id

def exists? (es : Entities) (id : EntityId) : Bool :=
  (es.find? id).isSome

def insert (es : Entities) (id : EntityId) (e : Entity) : Entities :=
  { es with table := es.table.insert id e }

def remove (es : Entities) (id : EntityId) : Entities :=
  { es with table := es.table.erase id }

def modify (es : Entities) (id : EntityId) (f : Entity → Entity) : Entities :=
  { es with table := es.table.modify id f }

def health? (es : Entities) (id : EntityId) : Option Int32 :=
  (es.find? id).map (·.health)

def setHealth (es : Entities) (id : EntityId) (health : Int32) : Entities :=
  es.modify id fun e => { e with health := health }

/-- The flags of an entity; an unknown entity has none. -/
def flags (es : Entities) (id : EntityId) : Flags :=
  match es.find? id with
  | some e => e.flags
  | none => .empty

def setFlags (es : Entities) (id : EntityId) (flags : Flags) : Entities :=
  es.modify id fun e => { e with flags := flags }

def position? (es : Entities) (id : EntityId) : Option Position :=
  (es.find? id).map (·.position)

def setPosition (es : Entities) (id : EntityId) (p : Position) : Entities :=
  es.modify id fun e => { e with position := p }

/-- Adds `delta` to the health of an entity, never below zero. -/
def adjustHealth (es : Entities) (id : EntityId) (delta : Int32) : Entities :=
  es.modify id fun e => { e with health := changedHealth e.health delta }

def spawned (owner : Entity) (kind : String) (tag : CastTag) : Entity where
  kind := kind
  health := 0
  flags := .empty
  position := owner.position
  ownerTag := some tag

/-- Spawns an object for `owner`; without such an entity nothing is spawned. -/
def spawn (es : Entities) (owner : EntityId) (kind : String) (tag : CastTag) :
    Option EntityId × Entities :=
  match es.find? owner with
  | none => (none, es)
  | some e =>
    let id := objectId es.spawns
    (some id, { table := es.table.insert id (spawned e kind tag), spawns := es.spawns + 1 })

def isOwnedBy (tag : CastTag) (e : Entity) : Bool :=
  e.ownerTag = some tag

def ownedCount (es : Entities) (tag : CastTag) : Nat :=
  (es.table.values.filter (isOwnedBy tag)).length

def release (es : Entities) (tag : CastTag) : Entities :=
  { es with table := es.table.filter fun e => !isOwnedBy tag e }

end Entities

end SkillScript
