import Mathlib.Logic.Relation
import SkillScript.Proofs.Casting.Agents
import SkillScript.Proofs.World.Health
/-!
# Steps of health

A script changes the health of entities in steps. A step is computed over whole
numbers without bounds, stops at zero and at the greatest 32-bit number, and touches
nothing else. All that a tree without hooks does in an update is a chain of such
steps, of spawns, and of things that leave the entities alone. So where no health was
negative before, none is on the way; the same holds with hooks that take care.
-/
set_option autoImplicit false
namespace SkillScript

/-! ## Changes that take care -/

namespace Entities

variable {es es' es'' : Entities}

def Vital (es : Entities) : Prop :=
  ∀ id health, es.health? id = some health → 0 ≤ health

/-- A change that writes no negative health: each health was there before or is not negative. -/
def Careful (es es' : Entities) : Prop :=
  ∀ id health, es'.health? id = some health → es.health? id = some health ∨ 0 ≤ health

namespace Careful

theorem refl (es : Entities) : Careful es es :=
  fun _ _ found => Or.inl found

theorem trans (first : Careful es es') (second : Careful es' es'') : Careful es es'' := by
  intro id health found
  rcases second id health found with same | nonneg
  · exact first id health same
  · exact Or.inr nonneg

theorem vital (careful : Careful es es') (vital : es.Vital) : es'.Vital := by
  intro id health found
  rcases careful id health found with same | nonneg
  · exact vital id health same
  · exact nonneg

theorem modify (es : Entities) (id : EntityId) {f : Entity → Entity}
    (kept : ∀ e, (f e).health = e.health ∨ 0 ≤ (f e).health) : Careful es (es.modify id f) := by
  intro j health found
  rw [health?, find?_modify] at found
  by_cases here : j = id
  · rw [if_pos here, Option.map_map, Option.map_eq_some_iff] at found
    obtain ⟨e, before, rfl⟩ := found
    rcases kept e with same | nonneg
    · refine Or.inl ?_
      rw [health?, here, before, Option.map_some, Function.comp_apply, same]
    · exact Or.inr nonneg
  · rw [if_neg here] at found
    exact Or.inl found

theorem setFlags (es : Entities) (id : EntityId) (flags : Flags) :
    Careful es (es.setFlags id flags) :=
  modify es id fun _ => Or.inl rfl

theorem setHealth (es : Entities) (id : EntityId) {health : Int32} (nonneg : 0 ≤ health) :
    Careful es (es.setHealth id health) :=
  modify es id fun _ => Or.inr nonneg

theorem adjustHealth (es : Entities) (id : EntityId) (delta : Int32) :
    Careful es (es.adjustHealth id delta) :=
  modify es id fun e => Or.inr (changedHealth_nonneg e.health delta)

theorem release (es : Entities) (tag : CastTag) : Careful es (es.release tag) := by
  intro id health found
  rw [health?, find?_release, Option.map_eq_some_iff] at found
  obtain ⟨e, kept, same⟩ := found
  rw [Option.filter_eq_some_iff] at kept
  exact Or.inl (Option.map_eq_some_iff.mpr ⟨e, kept.1, same⟩)

theorem insert (es : Entities) (id : EntityId) {e : Entity} (nonneg : 0 ≤ e.health) :
    Careful es (es.insert id e) := by
  intro j health found
  have inserted : (es.insert id e).find? j = if j = id then some e else es.find? j :=
    Table.find?_insert es.table id j e
  rw [health?, inserted] at found
  by_cases here : j = id
  · rw [if_pos here] at found
    cases found
    exact Or.inr nonneg
  · rw [if_neg here] at found
    exact Or.inl found

theorem spawn (es : Entities) (owner : EntityId) (kind : String) (tag : CastTag) :
    Careful es (es.spawn owner kind tag).2 := by
  rw [Entities.spawn]
  cases es.find? owner with
  | none => exact .refl es
  | some e => exact insert es _ (Int32.le_refl 0)

end Careful

end Entities

open Entities (Careful)

def Scope.CaresFor (s s' : Scope) : Prop :=
  s.entities.Careful s'.entities

/-- While a tree with such hooks runs, no negative health is written. -/
theorem survives_careful {hs : List Hooks} {still : Scope → Scope → Prop}
    (obey : ∀ h ∈ hs, h.Obey still Scope.CaresFor) (es : Entities) :
    Survives (fun s => es.Careful s.entities) hs where
  publish _ _ _ careful := careful
  listeners _ _ careful := careful
  vars _ _ careful := careful
  adjustHealth s id delta careful := careful.trans (.adjustHealth s.entities id delta)
  spawn s kind careful := careful.trans (.spawn s.entities s.owner kind s.tag)
  onBegin h member hook present view s careful :=
    careful.trans ((obey h member).onBegin hook present view s)
  onUpdate h member hook present step view s careful :=
    careful.trans ((obey h member).onUpdate hook present step view s)

/-! ## Steps -/

/-- The health of an entity changes by `delta`, computed over all whole numbers and cut off at the
ends of the range of health. Nothing else in the store changes. -/
structure HealthStep (id : EntityId) (delta : Int32) (es es' : Entities) : Prop where
  exact : ∀ health, es.health? id = some health → ∃ health', es'.health? id = some health' ∧
    health'.toInt = min (max (health.toInt + delta.toInt) 0) Number.greatest32
  absent : es.health? id = none → es'.health? id = none
  others : ∀ other, other ≠ id → es'.find? other = es.find? other
  spawns : es'.spawns = es.spawns

theorem healthStep_adjustHealth (es : Entities) (id : EntityId) (delta : Int32) :
    HealthStep id delta es (es.adjustHealth id delta) where
  exact health found := by
    refine ⟨changedHealth health delta, ?_, toInt_changedHealth health delta⟩
    rw [es.health?_adjustHealth, if_pos rfl, found]
    rfl
  absent missing := by
    rw [es.health?_adjustHealth, if_pos rfl, missing]
    rfl
  others other away := by
    rw [Entities.adjustHealth, Entities.find?_modify, if_neg away]
  spawns := rfl

/-- The deed that modifies health is a step by the amount that is read when it is done. -/
theorem healthStep_perform {target : Target} {s : Scope} {id : EntityId}
    (alive : target.live? s = some id) (amount : Param Int32) :
    HealthStep id (amount.resolve s.vars) s.entities
      ((Deed.modifyHealth target amount).perform s).entities := by
  simp only [Deed.perform, alive]
  exact healthStep_adjustHealth s.entities id (amount.resolve s.vars)

/-- A flow that passes points on makes one step by them. -/
theorem healthStep_apply {f : Flow} {id : EntityId} {whole : Int32} (towards : f.target = some id)
    (some : whole ≠ 0) (s : Scope) : HealthStep id whole s.entities (f.apply whole s).2.entities := by
  rw [Flow.apply, if_neg some, towards]
  exact healthStep_adjustHealth s.entities id whole

/-! ## Chains -/

/-- What a script without hooks does at once. -/
inductive Scope.Change : Scope → Scope → Prop where
  | publish (s : Scope) (name : String) (payload : Vars) : Change s (s.publish name payload)
  | listeners (s : Scope) (ls : List String) : Change s { s with bus.listeners := ls }
  | vars (s : Scope) (vars : Vars) : Change s { s with vars := vars }
  | health (s : Scope) (id : EntityId) (delta : Int32) : Change s (s.adjustHealth id delta)
  | spawn (s : Scope) (kind : String) :
      Change s { s with entities := (s.entities.spawn s.owner kind s.tag).2 }

def Scope.Changes : Scope → Scope → Prop :=
  Relation.ReflTransGen Scope.Change

/-- A change leaves the entities alone, spawns an object, or is a step of health. -/
theorem Scope.Change.entities_cases {s s' : Scope} (change : s.Change s') :
    s'.entities = s.entities ∨ (∃ kind, s'.entities = (s.entities.spawn s.owner kind s.tag).2) ∨
      ∃ id delta, HealthStep id delta s.entities s'.entities := by
  cases change with
  | health id delta => exact Or.inr (Or.inr ⟨id, delta, healthStep_adjustHealth s.entities id delta⟩)
  | spawn kind => exact Or.inr (Or.inl ⟨kind, rfl⟩)
  | publish | listeners | vars => exact Or.inl rfl

theorem Scope.Change.careful {s s' : Scope} (change : s.Change s') : s.entities.Careful s'.entities := by
  cases change with
  | health id delta => exact .adjustHealth s.entities id delta
  | spawn kind => exact .spawn s.entities s.owner kind s.tag
  | publish | listeners | vars => exact .refl s.entities

theorem Scope.Changes.careful {s s' : Scope} (changes : s.Changes s') : s.entities.Careful s'.entities := by
  induction changes with
  | refl => exact .refl s.entities
  | tail _ change ih => exact ih.trans change.careful

theorem survives_changes (s₀ : Scope) : Survives (Scope.Changes s₀) [] where
  publish s name payload changes := changes.tail (.publish s name payload)
  listeners s ls changes := changes.tail (.listeners s ls)
  vars s vars changes := changes.tail (.vars s vars)
  adjustHealth s id delta changes := changes.tail (.health s id delta)
  spawn s kind changes := changes.tail (.spawn s kind)
  onBegin h member := by cases member
  onUpdate h member := by cases member

/-- All that an agent without hooks does in an update is a chain of changes. -/
theorem Agent.changes_update {a : Agent} (unhooked : a.hooks = []) (step : Float32) (w : World) :
    ∃ s, (a.context w).toScope.Changes s ∧ s.toWorld = (a.update step w).2 := by
  have survives := survives_changes (a.context w).toScope
  rw [← unhooked] at survives
  exact update_keeps survives step w Relation.ReflTransGen.refl

end SkillScript
