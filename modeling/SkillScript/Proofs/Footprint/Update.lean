import SkillScript.Proofs.Casting.Agents
import SkillScript.Proofs.Footprint.Spawns
import SkillScript.Proofs.World.Changes
import SkillScript.Proofs.World.Health
import SkillScript.Script.Build
/-!
# The footprint of an update

An update of an agent leaves every entity in the world as it was, but for its health.
Beside them there may be new objects, which belong to the agent and stand where its
owner stands, and new events, which come from its owner. That holds as long as ids
do not wrap around: an object that is given the id of an entity takes its place.
-/
set_option autoImplicit false
namespace SkillScript

/-- What may become of an entity: its health may be another, which is then not negative. -/
structure Entity.Touched (before after : Entity) : Prop where
  kind : after.kind = before.kind
  flags : after.flags = before.flags
  position : after.position = before.position
  ownerTag : after.ownerTag = before.ownerTag
  health : after.health = before.health ∨ 0 ≤ after.health

theorem Entity.Touched.refl (e : Entity) : e.Touched e :=
  ⟨rfl, rfl, rfl, rfl, Or.inl rfl⟩

theorem Entity.Touched.changed {before after : Entity} (touched : before.Touched after)
    (delta : Int32) :
    before.Touched { after with health := changedHealth after.health delta } :=
  { touched with health := Or.inr (changedHealth_nonneg _ _) }

namespace Entities

def nextId (es : Entities) : EntityId :=
  objectId es.spawns

def Below (es : Entities) : Prop :=
  ∀ id e, es.find? id = some e → id.index < es.nextId.index

theorem toNat_nextId {es : Entities} (room : es.spawns + 10000 < 2 ^ 32) :
    es.nextId.index.toNat = es.spawns + 10000 :=
  toNat_objectId room

end Entities

/-- What the script of an owner may have done to a world under its tag. -/
structure Footprint (owner : EntityId) (tag : CastTag) (w w' : World) : Prop where
  kept : ∀ id e, w.entities.find? id = some e →
    ∃ e', w'.entities.find? id = some e' ∧ e.Touched e'
  spawned : ∀ id e', w'.entities.find? id = some e' → w.entities.find? id = none →
    w.entities.nextId.index ≤ id.index ∧ e'.ownerTag = some tag ∧ e'.flags = .empty ∧
      ∃ e, w.entities.find? owner = some e ∧ e'.position = e.position
  events : ∃ news, w'.bus.journal.toList = w.bus.journal.toList ++ news ∧
    ∀ event ∈ news, event.source = owner
  settings : w'.settings = w.settings
  guests : w'.bus.guests = w.bus.guests
  capacity : w'.bus.capacity = w.bus.capacity

/-- How far the script of an owner has come within its footprint, as long as the ids of objects
have not wrapped around. -/
structure Trodden (owner : EntityId) (tag : CastTag) (w : World) (s : Scope) : Prop where
  owned : s.owner = owner
  tagged : s.tag = tag
  least : w.entities.spawns ≤ s.entities.spawns
  below : ∀ id e, s.entities.find? id = some e → id.index.toNat < s.entities.spawns + 10000
  footprint : Footprint owner tag w s.toWorld

namespace Trodden

variable {owner : EntityId} {tag : CastTag} {w : World} {s : Scope}

theorem adjustHealth (trodden : Trodden owner tag w s) (id : EntityId) (delta : Int32) :
    Trodden owner tag w (s.adjustHealth id delta) := by
  have found (j : EntityId) : (s.adjustHealth id delta).entities.find? j =
      (s.entities.find? j).map fun e =>
        if j = id then { e with health := changedHealth e.health delta } else e := by
    have modified := s.entities.find?_modify id j
      fun e => { e with health := changedHealth e.health delta }
    refine modified.trans ?_
    by_cases here : j = id
    · simp [here]
    · simp [here]
  refine { trodden with below := ?below, footprint := { trodden.footprint with
    kept := ?kept, spawned := ?spawned } }
  case below =>
    intro j e inside
    rw [found, Option.map_eq_some_iff] at inside
    obtain ⟨e₁, inside, -⟩ := inside
    exact trodden.below j e₁ inside
  case kept =>
    intro j e inside
    obtain ⟨e₁, there, touched⟩ := trodden.footprint.kept j e inside
    refine ⟨_, by rw [found, there, Option.map_some], ?_⟩
    split
    · exact touched.changed delta
    · exact touched
  case spawned =>
    intro j e inside absent
    rw [found, Option.map_eq_some_iff] at inside
    obtain ⟨e₁, inside, rfl⟩ := inside
    have new := trodden.footprint.spawned j e₁ inside absent
    split <;> exact new

theorem publish (trodden : Trodden owner tag w s) (name : String) (payload : Vars) :
    Trodden owner tag w (s.publish name payload) := by
  obtain ⟨news, journal, sources⟩ := trodden.footprint.events
  refine { trodden with footprint := { trodden.footprint with events := ?_ } }
  refine ⟨news ++ [⟨name, s.owner, payload⟩], ?_, ?_⟩
  · simp [Scope.publish, Bus.publish, journal]
  · intro event member
    rcases List.mem_append.mp member with old | new
    · exact sources event old
    · rw [List.mem_singleton.mp new]
      exact trodden.owned

/-- Where the owner stands, it stood before. -/
theorem position (trodden : Trodden owner tag w s) {e : Entity}
    (found : s.entities.find? s.owner = some e) :
    ∃ e₀, w.entities.find? owner = some e₀ ∧ e.position = e₀.position := by
  rw [trodden.owned] at found
  cases before : w.entities.find? owner with
  | some e₀ =>
    obtain ⟨e₁, there, touched⟩ := trodden.footprint.kept owner e₀ before
    rw [found] at there
    cases there
    exact ⟨e₀, rfl, touched.position⟩
  | none =>
    obtain ⟨-, -, -, e₀, there, -⟩ := trodden.footprint.spawned owner e found before
    rw [before] at there
    cases there

theorem spawn (trodden : Trodden owner tag w s) (kind : String)
    (room : (s.entities.spawn s.owner kind s.tag).2.spawns + 10000 ≤ 2 ^ 32) :
    Trodden owner tag w { s with entities := (s.entities.spawn s.owner kind s.tag).2 } := by
  rw [Entities.spawn] at room ⊢
  cases present : s.entities.find? s.owner with
  | none => exact trodden
  | some o =>
    rw [present] at room
    have room : s.entities.spawns + 1 + 10000 ≤ 2 ^ 32 := room
    have small : s.entities.spawns + 10000 < 2 ^ 32 := by omega
    have least := trodden.least
    have number := Entities.toNat_objectId small
    have first : w.entities.nextId.index ≤ (Entities.objectId s.entities.spawns).index := by
      rw [UInt32.le_iff_toNat_le, number, Entities.toNat_nextId (by omega)]
      omega
    have found (j : EntityId) :
        (s.entities.table.insert (Entities.objectId s.entities.spawns)
          (Entities.spawned o kind s.tag)).find? j =
        if j = Entities.objectId s.entities.spawns then some (Entities.spawned o kind s.tag)
        else s.entities.find? j :=
      Table.find?_insert ..
    refine { trodden with least := ?least, below := ?below, footprint := { trodden.footprint with
      kept := ?kept, spawned := ?spawned } }
    case least => exact Nat.le_succ_of_le least
    case below =>
      intro j e inside
      have inside := (found j).symm.trans inside
      show j.index.toNat < s.entities.spawns + 1 + 10000
      split at inside
      · rename_i here
        rw [here, number]
        omega
      · have bound := trodden.below j e inside
        omega
    case kept =>
      intro j e inside
      obtain ⟨e₁, there, touched⟩ := trodden.footprint.kept j e inside
      have other : j ≠ Entities.objectId s.entities.spawns := by
        rintro rfl
        have bound := trodden.below _ e₁ there
        omega
      exact ⟨e₁, (found j).trans ((if_neg other).trans there), touched⟩
    case spawned =>
      intro j e inside absent
      have inside := (found j).symm.trans inside
      split at inside
      · rename_i here
        cases inside
        obtain ⟨e₀, stood, same⟩ := trodden.position present
        exact ⟨here ▸ first, congrArg some trodden.tagged, rfl, e₀, stood, same⟩
      · exact trodden.footprint.spawned j e inside absent

/-- Everything that happens in a tree without hooks stays within the footprint. -/
theorem survives (owner : EntityId) (tag : CastTag) (w : World) :
    Survives (fun s => s.entities.spawns + 10000 ≤ 2 ^ 32 → Trodden owner tag w s) [] where
  publish s name payload holds room := (holds room).publish name payload
  vars s vars holds room := { holds room with }
  adjustHealth s id delta holds room := (holds room).adjustHealth id delta
  spawn s kind holds room := by
    have fewer : s.entities.spawns ≤ (s.entities.spawn s.owner kind s.tag).2.spawns :=
      (Entities.Grown.spawn s.entities s.owner kind s.tag).spawns
    have room : (s.entities.spawn s.owner kind s.tag).2.spawns + 10000 ≤ 2 ^ 32 := room
    exact (holds (by omega)).spawn kind room
  onBegin h member := by cases member
  onUpdate h member := by cases member
  listeners s ls holds room := { holds room with footprint := { (holds room).footprint with } }

end Trodden

namespace Agent

variable {a : Agent}

theorem owner_call (w : World) (a : Agent) (c : Call) :
    (a.call w c).1.owner = a.owner ∧ (a.call w c).1.tag = a.tag := by
  cases tree : a.tree with
  | none => cases c <;> simp [call, trigger, update, dispose, tree]
  | some t => cases c <;> simp [call, trigger, update, dispose, settle, tree]

/-- Whatever is done with an agent, it goes on for its owner, under its tag, with its hooks. -/
theorem run_same (a : Agent) (calls : List (World × Call)) :
    (a.run calls).owner = a.owner ∧ (a.run calls).tag = a.tag ∧
      (a.run calls).hooks ⊆ a.hooks := by
  induction calls generalizing a with
  | nil => exact ⟨rfl, rfl, List.Subset.refl _⟩
  | cons c rest ih =>
    obtain ⟨owner, tag, hooks⟩ := ih (a.call c.1 c.2).1
    obtain ⟨owner', tag'⟩ := owner_call c.1 a c.2
    exact ⟨owner.trans owner', tag.trans tag', List.Subset.trans hooks (hooks_call c.1 a c.2)⟩

/-- An agent that holds no hooks spawns no more objects in an update than it has nodes. -/
theorem spawns_update_le (step : Float32) (w : World) (unhooked : a.hooks = []) :
    (a.update step w).2.entities.spawns ≤ w.entities.spawns + a.labels.length := by
  cases tree : a.tree with
  | none =>
    simp only [update, tree]
    exact Nat.le_add_right _ _
  | some t =>
    simp only [hooks, tree] at unhooked
    simp only [update, labels, tree]
    exact Behaves.Sparing.spawns_update step (a.context w) t.root unhooked

theorem footprint_of_room (unhooked : a.hooks = []) (step : Float32) {w : World}
    (below : w.entities.Below) (room : w.entities.spawns + 10000 + a.labels.length < 2 ^ 32) :
    Footprint a.owner a.tag w (a.update step w).2 := by
  have survives := Trodden.survives a.owner a.tag w
  rw [← unhooked] at survives
  have small : w.entities.spawns + 10000 < 2 ^ 32 := by omega
  have beginning : Trodden a.owner a.tag w (a.context w).toScope := by
    refine ⟨rfl, rfl, Nat.le_refl _, ?_, ?_⟩
    · intro id e found
      have under := below id e found
      rwa [UInt32.lt_iff_toNat_lt, Entities.toNat_nextId small] at under
    · refine ⟨fun id e found => ⟨e, found, .refl e⟩, ?_, ⟨[], (List.append_nil _).symm, nofun⟩, rfl, rfl, rfl⟩
      intro id e found absent
      have found : w.entities.find? id = some e := found
      rw [absent] at found
      cases found
  obtain ⟨s, trodden, after⟩ := update_keeps survives step w fun _ => beginning
  have spawns := spawns_update_le step w unhooked
  have same : s.entities = (a.update step w).2.entities := congrArg World.entities after
  rw [← same] at spawns
  rw [← after]
  exact (trodden (by omega)).footprint

end Agent

/-- An update of an agent whose script holds no hooks of the host leaves a footprint: if all ids
are below the next one, and that is farther from wrapping around than there are nodes in the agent,
every entity is still there with its kind, flags, position and tag, and with health that is the same
or not negative; every new entity has an id from the next one on, the tag of the agent, no flags and
the position of the owner, who was there; and all new events come from the owner. -/
theorem updates_leave_a_footprint (r : Registry) (script : Script) (owner : EntityId)
    (tag : CastTag) (vars : Vars) (w₀ w₀' : World) (a : Agent) (calls : List (World × Agent.Call))
    (step : Float32) (w : World) (unhooked : script.root.hooks = [])
    (started : Agent.init r script owner tag vars w₀ = (.ok a, w₀')) (below : w.entities.Below)
    (room : w.entities.spawns + 10000 + (a.run calls).live < 2 ^ 32) :
    Footprint owner tag w ((a.run calls).update step w).2 := by
  obtain ⟨owned, tagged, -⟩ := Agent.init_planted started
  obtain ⟨owned', tagged', fewer⟩ := a.run_same calls
  have bare : (a.run calls).hooks = [] := by
    have hooks := List.Subset.trans fewer (Agent.hooks_init started)
    rwa [unhooked, List.subset_nil] at hooks
  have live := (Agent.run_grows (Agent.init_grows started) calls).live
  have footprint := Agent.footprint_of_room bare step below (w := w) (by simp at live; omega)
  rwa [owned', tagged', owned, tagged] at footprint

def lanternScript : Script :=
  ⟨"lantern", Build.sequence
    [Build.behavior .spawnOwned (.deed (.spawnOwned "lantern" none)), Build.modifyHealth (-3),
      Build.publishEvent "lit"]⟩

def lanternWorld : World where
  entities := Entities.empty.insert ⟨1⟩ (.actor 10 .origin)

/-- The first update lights the lantern. -/
theorem updates_leave_a_footprint_of_lantern :
    ∃ a w, Agent.init .standard lanternScript ⟨1⟩ ⟨7⟩ ∅ lanternWorld = (.ok a, w) ∧
      ((a.update 1 lanternWorld).2.entities.find? ⟨10000⟩).map (·.ownerTag) = some (some ⟨7⟩) ∧
      Footprint ⟨1⟩ ⟨7⟩ lanternWorld (a.update 1 lanternWorld).2 := by
  refine ⟨_, _, rfl, rfl, ?_⟩
  refine updates_leave_a_footprint .standard lanternScript ⟨1⟩ ⟨7⟩ ∅ lanternWorld _ _ [] 1
    lanternWorld rfl rfl ?_ ?_
  · intro id e found
    have single : lanternWorld.entities.find? id =
        if id = ⟨1⟩ then some (.actor 10 .origin) else none :=
      Table.find?_insert (Table.empty : Table EntityId Entity) ⟨1⟩ id (.actor 10 .origin)
    rw [single] at found
    split at found
    · rename_i here
      rw [here]
      decide
    · cases found
  · decide

end SkillScript
