import SkillScript.Proofs.Casting.Cleanup
import SkillScript.Proofs.Casting.Payment
import SkillScript.Proofs.Footprint.Health
/-!
# Health in a realm

Agents and casters share one store of entities. They join, act and leave in any order,
several of them may belong to one owner, and in between the host changes the store as
it likes, except that neither it nor a hook of its own writes a negative health. Then
no health is ever negative; scripts change it in exact steps; and who casts a skill
pays for it once.
-/
set_option autoImplicit false
namespace SkillScript

open Entities (Careful)

/-- The hooks of the script write no negative health. -/
def Script.Careful (script : Script) : Prop :=
  ∀ h ∈ script.root.hooks, h.Obey Scope.CaresFor Scope.CaresFor

@[inherit_doc Script.Careful]
def Library.Careful (lib : Library) : Prop :=
  lib.Obeys Scope.CaresFor Scope.CaresFor

/-- Hooks that take care keep that no negative health was written. -/
theorem Hooks.Obey.keep_careful {h : Hooks} {busy : Scope → Scope → Prop}
    (obey : h.Obey Scope.CaresFor busy) (es : Entities) :
    h.Keep fun s => es.Careful s.entities where
  onInitialize hook present view s careful :=
    careful.trans (obey.onInitialize hook present view s)
  onDestroy hook present view s careful := careful.trans (obey.onDestroy hook present view s)

theorem Script.Careful.keeps {script : Script} (careful : script.Careful) (es : Entities) :
    script.Keeps es.Careful :=
  fun h member => (careful h member).keep_careful es

theorem Library.Careful.keeps {lib : Library} (careful : lib.Careful) (es : Entities) :
    lib.Keeps es.Careful :=
  fun name script loaded => Script.Careful.keeps (careful name script loaded) es

/-! ## What each of them does -/

namespace Agent

variable {a : Agent}

theorem careful_call (careful : ∀ h ∈ a.hooks, h.Obey Scope.CaresFor Scope.CaresFor) (w : World)
    (call : Call) : w.entities.Careful (a.call w call).2.entities := by
  cases call with
  | trigger tag payload => exact .refl w.entities
  | update step =>
    obtain ⟨s, kept, same⟩ :=
      update_keeps (survives_careful careful w.entities) step w (.refl w.entities)
    have after : (a.update step w).2.entities = s.entities := congrArg World.entities same.symm
    show w.entities.Careful (a.update step w).2.entities
    rw [after]
    exact kept
  | dispose =>
    exact dispose_keeps (fun h member => (careful h member).keep_careful w.entities)
      (.refl w.entities)

end Agent

namespace Cast

theorem careful_suppress (w : World) (owner : EntityId) (flags : Flags) :
    w.entities.Careful (suppress w owner flags).entities := by
  rw [suppress]
  split
  · exact .refl w.entities
  · exact .setFlags w.entities owner _

theorem careful_pay (w : World) (owner : EntityId) (cost : Int32) :
    w.entities.Careful (pay w owner cost).entities := by
  rw [pay]
  split
  · cases w.entities.health? owner with
    | none => exact .refl w.entities
    | some health =>
      refine Careful.setHealth w.entities owner ?_
      split
      · exact Int32.le_refl 0
      · rename_i enough
        exact Int32.not_lt.mp enough
  · exact .refl w.entities

theorem careful_sweep (p : Cast) (w : World) : w.entities.Careful (p.sweep w).entities := by
  have released := Careful.release w.entities p.tag
  rw [sweep, restore]
  split
  · exact released
  · exact released.trans (.setFlags _ p.owner _)

end Cast

namespace Caster

variable {lib : Library} {c : Caster}

theorem Sound.careful_endCast (sound : c.Sound lib) (careful : lib.Careful) (w : World) :
    w.entities.Careful (c.endCast w).2.entities :=
  sound.endCast_keeps (careful.keeps w.entities)
    (fun p _ before => before.trans (p.careful_sweep w)) (.refl w.entities)

theorem Sound.careful_call (sound : c.Sound lib) (careful : lib.Careful) (r : Registry) (w : World)
    (call : Call) : w.entities.Careful (c.call r lib w call).2.entities := by
  rcases sound.call_cases r w call with
    ⟨p, running, goesOn⟩ | ⟨-, same⟩ | ending | ⟨skill, script, spell, name, loaded, launched⟩
  · have survives (name : String) (script : Script) (loaded : lib.find? name = some script) :=
      survives_careful (careful name script loaded) w.entities
    obtain ⟨s, kept, after⟩ :=
      (sound.carries p running).wake_keeps survives (.refl w.entities) call
    rw [goesOn, ← after]
    exact kept
  · rw [same]
    exact .refl w.entities
  · rw [ending]
    exact sound.careful_endCast careful w
  · rw [launched]
    refine launch_keeps (careful.keeps w.entities name script loaded) ?_
      (sound.careful_endCast careful w)
    intro w' before
    exact (before.trans (Cast.careful_suppress w' _ _)).trans (Cast.careful_pay _ _ _)

end Caster

/-! ## Realms -/

/-- Who acts on a store: an agent, or a caster with what it was given by the host. -/
inductive Actor where
  | agent (a : Agent)
  | caster (r : Registry) (lib : Library) (c : Caster)

namespace Actor

/-- What an actor does in some world, with the actor before, if it was there, and after, if it is
still there. -/
inductive Does (w : World) : Option Actor → Option Actor → World → Prop where
  /-- An agent starts for a script, or fails to. -/
  | start (r : Registry) (script : Script) (careful : script.Careful) (owner : EntityId)
      (tag : CastTag) (vars : Vars) :
      Does w none ((Agent.init r script owner tag vars w).1.toOption.map agent)
        (Agent.init r script owner tag vars w).2
  | run (a : Agent) (call : Agent.Call) :
      Does w (some (agent a)) (some (agent (a.call w call).1)) (a.call w call).2
  /-- The host writes variables of an agent. -/
  | assign (a : Agent) (vars : Vars) :
      Does w (some (agent a)) (some (agent { a with vars := vars })) w
  | dismiss (a : Agent) : Does w (some (agent a)) none (a.dispose w).2
  | join (r : Registry) (lib : Library) (careful : lib.Careful) (owner : EntityId) :
      Does w none (some (caster r lib { owner := owner })) w
  | call (r : Registry) (lib : Library) (c : Caster) (call : Caster.Call) :
      Does w (some (caster r lib c)) (some (caster r lib (c.call r lib w call).1))
        (c.call r lib w call).2
  | quit (r : Registry) (lib : Library) (c : Caster) : Does w (some (caster r lib c)) none (c.drop w)

def Sane : Actor → Prop
  | agent a => ∀ h ∈ a.hooks, h.Obey Scope.CaresFor Scope.CaresFor
  | caster _ lib c => lib.Careful ∧ c.Sound lib

variable {w w' : World} {before after : Option Actor}

theorem Does.sane (does : Does w before after w') (sane : ∀ x ∈ before, x.Sane) :
    ∀ x ∈ after, x.Sane := by
  cases does with
  | start r script careful owner tag vars =>
    intro x member
    cases result : Agent.init r script owner tag vars w with
    | mk made w' =>
      rw [result] at member
      cases made with
      | error e => cases member
      | ok a =>
        cases member
        exact fun h inside => careful h (Agent.hooks_init result inside)
  | run a call =>
    rintro x ⟨⟩
    exact fun h inside => sane _ rfl h (Agent.hooks_call w a call inside)
  | assign a vars =>
    rintro x ⟨⟩
    exact sane (agent a) rfl
  | join r lib careful owner =>
    rintro x ⟨⟩
    exact ⟨careful, Caster.sound_new lib owner⟩
  | call r lib c call =>
    obtain ⟨careful, sound⟩ := sane _ rfl
    rintro x ⟨⟩
    exact ⟨careful, sound.call w call⟩
  | dismiss | quit =>
    intro x member
    cases member

theorem Does.careful (does : Does w before after w') (sane : ∀ x ∈ before, x.Sane) :
    w.entities.Careful w'.entities := by
  cases does with
  | start r script careful owner tag vars =>
    exact Agent.init_keeps r owner tag vars (careful.keeps w.entities) (.refl w.entities)
  | run a call => exact Agent.careful_call (sane _ rfl) w call
  | dismiss a => exact Agent.careful_call (sane _ rfl) w .dispose
  | assign | join => exact .refl w.entities
  | call r lib c call =>
    obtain ⟨careful, sound⟩ := sane _ rfl
    exact sound.careful_call careful r w call
  | quit r lib c =>
    obtain ⟨careful, sound⟩ := sane _ rfl
    exact sound.careful_endCast careful w

def agent? : Actor → Option Agent
  | agent a => some a
  | caster _ _ c => c.current.map (·.agent)

end Actor

structure Realm where
  entities : Entities := .empty
  actors : Nat → Option Actor := fun _ => none

namespace Realm

/-- One step of a realm: the host changes the store, or an actor does something in some world with
that store. -/
inductive Step : Realm → Realm → Prop where
  | host (realm : Realm) (es : Entities) (careful : realm.entities.Careful es) :
      Step realm { realm with entities := es }
  | act (realm : Realm) (place : Nat) (w w' : World) (after : Option Actor)
      (shared : w.entities = realm.entities)
      (does : Actor.Does w (realm.actors place) after w') :
      Step realm { entities := w'.entities, actors := Function.update realm.actors place after }

inductive Reachable : Realm → Prop where
  | start : Reachable {}
  | step {realm realm' : Realm} (reachable : Reachable realm) (step : Step realm realm') :
      Reachable realm'

variable {realm realm' : Realm}

theorem Reachable.sane (reachable : realm.Reachable) :
    ∀ place, ∀ x ∈ realm.actors place, x.Sane := by
  induction reachable with
  | start =>
    intro place x member
    cases member
  | step _ step ih =>
    cases step with
    | host => exact ih
    | act place w w' after shared does =>
      intro other x member
      dsimp only at member
      by_cases here : other = place
      · subst here
        rw [Function.update_self] at member
        exact does.sane (ih other) x member
      · rw [Function.update_of_ne here] at member
        exact ih other x member

theorem Step.careful (step : Step realm realm') (reachable : realm.Reachable) :
    realm.entities.Careful realm'.entities := by
  cases step with
  | host es careful => exact careful
  | act place w w' after shared does =>
    rw [← shared]
    exact does.careful (reachable.sane place)

theorem Reachable.vital (reachable : realm.Reachable) : realm.entities.Vital := by
  induction reachable with
  | start =>
    intro id health found
    cases found
  | step before step ih => exact (step.careful before).vital ih

structure HealthKept (realm : Realm) : Prop where
  /-- Nobody's health is negative. -/
  vital : realm.entities.Vital
  /-- All that an agent without hooks does in an update is a chain of changes, whether it stands alone
  or runs a cast. -/
  changes : ∀ (place : Nat) (x : Actor) (a : Agent) (w : World) (step : Float32),
    realm.actors place = some x → x.agent? = some a → a.hooks = [] → w.entities = realm.entities →
    ∃ s, (a.context w).toScope.Changes s ∧ s.toWorld = (a.update step w).2
  /-- On the way nobody's health is negative either, and each change that does not leave the entities
  alone spawns an object or is an exact step of health. -/
  between : ∀ s s' : Scope, s.entities = realm.entities → s.Changes s' → s'.entities.Vital ∧
    ∀ s'', s'.Change s'' → s''.entities = s'.entities ∨
      (∃ kind, s''.entities = (s'.entities.spawn s'.owner kind s'.tag).2) ∨
      ∃ id delta, HealthStep id delta s'.entities s''.entities
  /-- Steps are made by the deed that modifies health, and by a flow of health. -/
  deeds : ∀ (s : Scope) (target : Target) (amount : Param Int32) (id : EntityId),
    target.live? s = some id →
    HealthStep id (amount.resolve s.vars) s.entities
      ((Deed.modifyHealth target amount).perform s).entities
  flows : ∀ (f : Flow) (id : EntityId) (whole : Int32) (s : Scope),
    f.target = some id → whole ≠ 0 →
    HealthStep id whole s.entities (f.apply whole s).2.entities
  /-- Who casts a skill pays for it once. -/
  paid : ∀ (place : Nat) (r : Registry) (lib : Library) (c : Caster) (w : World) (id : SkillId)
    (spell : Spell), realm.actors place = some (.caster r lib c) → w.entities = realm.entities →
    lib.Unhooked → (c.trySpell r lib id spell w).1 = .ok () →
    ∃ a, c.ability? id = some a ∧
      c.Paid a.skill.healthCost realm.entities (c.trySpell r lib id spell w).2.2.entities

end Realm

/-- Health is exact, never negative, and paid once. Agents and casters share a store, into which the
host writes no negative health. In every state that they reach, nobody's health is negative. Each
step of health that a script makes by some delta leads to the health nearest to the sum over all
whole numbers. A cast that starts, where scripts have no hooks of the host, takes its cost from its
owner, which then has at least one point of health left, and no other health changes. If a running
cast is torn down first, the entities that carry its tag go with it; if the owner is one of them,
nothing is paid. -/
theorem health_is_exact_and_paid_once (realm : Realm) (reachable : realm.Reachable) :
    realm.HealthKept where
  vital := reachable.vital
  changes _ _ _ w step _ _ unhooked _ := Agent.changes_update unhooked step w
  between s s' same changes := by
    have vital : s.entities.Vital := same ▸ reachable.vital
    exact ⟨changes.careful.vital vital, fun _ change => change.entities_cases⟩
  deeds _ _ amount _ alive := healthStep_perform alive amount
  flows _ _ _ s towards some := healthStep_apply towards some s
  paid place r lib c w id spell seated shared unhooked started := by
    have sane := reachable.sane place _ seated
    rw [← shared]
    exact sane.2.paid_trySpell unhooked started

namespace Realm

variable {realm : Realm}

def call (realm : Realm) (place : Nat) (a : Caster.Call) : Realm :=
  match realm.actors place with
  | some (.caster r lib c) =>
    let after := c.call r lib { entities := realm.entities } a
    { entities := after.2.entities
      actors := Function.update realm.actors place (some (.caster r lib after.1)) }
  | _ => realm

theorem Reachable.call (reachable : realm.Reachable) (place : Nat) (a : Caster.Call) :
    (realm.call place a).Reachable := by
  rw [Realm.call]
  split
  · rename_i r lib c seated
    refine .step reachable (.act realm place { entities := realm.entities } _ _ rfl ?_)
    rw [seated]
    exact .call r lib c a
  · exact reachable

def dash : Skill :=
  { id := ⟨3⟩, name := "dash", script := "idle", interruptible := true, healthCost := 10 }

def dashStart (tag : Option CastTag) : Realm where
  entities := Entities.empty.insert ⟨1⟩ { Entity.actor 100 .origin with ownerTag := tag }
  actors := Function.update (fun _ => none) 0
    (some (.caster idleRegistry Caster.stanceLibrary { owner := ⟨1⟩ }))

def dashRealm (tag : Option CastTag) : Realm :=
  ((dashStart tag).call 0 (.learn dash)).call 0 (.trySpell ⟨3⟩ {})

def dashWorld (tag : Option CastTag) : World where
  entities := (dashRealm tag).entities

def dashCaster (tag : Option CastTag) : Caster :=
  let w : World := { entities := (dashStart tag).entities }
  Caster.run idleRegistry Caster.stanceLibrary { owner := ⟨1⟩ }
    [(w, .learn dash), (w, .trySpell ⟨3⟩ {})]

def dashAgain (tag : Option CastTag) : Except SkillError Unit × Caster × World :=
  (dashCaster tag).trySpell idleRegistry Caster.stanceLibrary ⟨3⟩ {} (dashWorld tag)

theorem actors_dashRealm (tag : Option CastTag) :
    (dashRealm tag).actors 0 = some (.caster idleRegistry Caster.stanceLibrary (dashCaster tag)) :=
  rfl

theorem reachable_dashStart (tag : Option CastTag) : (dashStart tag).Reachable := by
  have healthy : (0 : Int32) ≤ 100 := by decide
  have hosted : Careful Entities.empty (dashStart tag).entities :=
    .insert Entities.empty ⟨1⟩ healthy
  have host : Reachable { entities := (dashStart tag).entities } :=
    .step .start (.host {} _ hosted)
  have careful : Caster.stanceLibrary.Careful := Library.obeys_of_single "idle" rfl _ _
  have joins := Step.act { entities := (dashStart tag).entities } 0
    { entities := (dashStart tag).entities } _ _ rfl (.join idleRegistry _ careful ⟨1⟩)
  exact .step host joins

theorem reachable_dashRealm (tag : Option CastTag) : (dashRealm tag).Reachable :=
  ((reachable_dashStart tag).call 0 (.learn dash)).call 0 (.trySpell ⟨3⟩ {})

theorem stanceLibrary_unhooked : Caster.stanceLibrary.Unhooked := by
  intro name script loaded
  have single : Caster.stanceLibrary.find? name = if name = "idle" then some idleScript else none :=
    Table.find?_insert Table.empty "idle" name idleScript
  rw [single] at loaded
  split at loaded
  · cases loaded
    rfl
  · cases loaded

end Realm

open Realm (dashRealm dashCaster dashWorld dashAgain)

/-- The second cast is paid for while the first still runs. -/
theorem health_is_exact_and_paid_once_of_dash :
    (dashCaster none).activeSkill? = some ⟨3⟩ ∧ (dashAgain none).1 = .ok () ∧
      (dashWorld none).entities.health? ⟨1⟩ = some 90 ∧
      (dashAgain none).2.2.entities.health? ⟨1⟩ = some 80 := by
  have started : (dashAgain none).1 = .ok () := by decide +kernel
  refine ⟨by decide +kernel, started, by decide +kernel, ?_⟩
  have kept := health_is_exact_and_paid_once _ (Realm.reachable_dashRealm none)
  obtain ⟨a, known, paid⟩ := kept.paid 0 _ _ _ (dashWorld none) ⟨3⟩ {} (Realm.actors_dashRealm none)
    rfl Realm.stanceLibrary_unhooked started
  have owner : (dashCaster none).owner = ⟨1⟩ := rfl
  obtain ⟨e, found, -, left⟩ := paid.owner
  rw [owner] at found left
  cases known
  cases found
  obtain ⟨flags, health, after, full, -⟩ := left rfl
  rw [dashAgain, Entities.health?, after, (full (by decide)).1]
  rfl

def firstBrand : CastTag :=
  .forCast ⟨1⟩ 1

/-- An owner with the tag of its running cast goes with it, and does not pay for the next. -/
theorem branded_owners_do_not_pay :
    (dashRealm (some firstBrand)).Reachable ∧
      (dashRealm (some firstBrand)).actors 0 =
        some (.caster idleRegistry Caster.stanceLibrary (dashCaster (some firstBrand))) ∧
      Caster.stanceLibrary.Unhooked ∧ (dashCaster (some firstBrand)).owner = ⟨1⟩ ∧
      ((dashCaster (some firstBrand)).ability? ⟨3⟩).map (·.skill.healthCost) = some 10 ∧
      (dashWorld (some firstBrand)).entities.health? ⟨1⟩ = some 90 ∧
      (dashAgain (some firstBrand)).1 = .ok () ∧
      (dashAgain (some firstBrand)).2.2.entities.health? ⟨1⟩ = none := by
  refine ⟨Realm.reachable_dashRealm _, Realm.actors_dashRealm (some firstBrand), ?_⟩
  refine ⟨Realm.stanceLibrary_unhooked, rfl, ?_, ?_, ?_, ?_⟩ <;> decide +kernel

end SkillScript
