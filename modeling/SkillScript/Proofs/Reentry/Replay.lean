import SkillScript.Proofs.History
import SkillScript.Proofs.Reentry.Create
import SkillScript.Proofs.Reentry.Node
import SkillScript.Proofs.Status.Create
import SkillScript.Script.Build
/-!
# Entering again is entering for the first time

A behavior that rests is reset, woken and then lives through some moments: it is
updated and triggered, and between these calls the host publishes events and changes
variables and entities. What the host sees of it then does not depend on what the
behavior was through before. A node that was used in any way shows what a node shows
that was just created from the same configuration.
-/
set_option autoImplicit false
namespace SkillScript

open Behaves

/-! ## What a host sees -/

inductive Moment where
  | update (step : Float32)
  | trigger (tag : String)
  | publish (event : Event)
  /-- The host gives variables and entities these values. -/
  | change (vars : Vars) (entities : Entities)

structure Sight where
  /-- What an update has left over of its step. -/
  left : Option Float32
  canStop : Option Bool
  vars : Vars
  entities : Entities
  /-- The events published since the beginning. -/
  events : List Event

namespace Handle

/-- What is seen of a node when `start` events were published before the beginning. -/
def sight (start : Nat) (left : Option Float32) (h : Handle) (ctx : Context) : Sight :=
  ⟨left, h.canStop?, ctx.vars, ctx.entities, ctx.bus.journal.toList.drop start⟩

/-- Lets a moment pass. The first part of the answer is what an update has left over. -/
def pass (h : Handle) (ctx : Context) : Moment → Option Float32 × Handle × Context
  | .update step =>
    let (left, h, ctx) := h.update step ctx
    (some left, h, ctx)
  | .trigger tag => (none, h.onTrigger tag, ctx)
  | .publish event => (none, h, { ctx with bus := ctx.bus.publish event })
  | .change vars entities => (none, h, { ctx with vars := vars, entities := entities })

def watch (start : Nat) (h : Handle) (ctx : Context) : List Moment → List Sight
  | [] => []
  | m :: rest =>
    let (left, h, ctx) := h.pass ctx m
    h.sight start left ctx :: h.watch start ctx rest

/-- What is seen of a node that is reset, is woken and then lives through some moments. -/
def replay (h : Handle) (ctx : Context) (moments : List Moment) : List Sight :=
  let start := ctx.bus.journal.size
  let (h, ctx) := h.reset ctx
  let first := h.sight start none ctx
  let (h, ctx) := h.activate ctx
  first :: h.sight start none ctx :: h.watch start ctx moments

/-! ## Before -/

def KeepsForm {height : Nat} (n₀ : Node (Behavior height)) (h : Handle) : Prop :=
  ∃ n : Node (Behavior height), h = live height (.behavior n) ∧
    Ordered.Orderly false n ∧ Lasting.pristine n = Lasting.pristine n₀

variable {height : Nat} {n₀ : Node (Behavior height)}

theorem KeepsForm.call {h : Handle} (kept : KeepsForm n₀ h) (ctx : Context) (c : Call) :
    KeepsForm n₀ (h.call ctx c).1 := by
  obtain ⟨n, rfl, orderly, form⟩ := kept
  cases c with
  | activate =>
    exact ⟨_, rfl, Disciplined.orderly_activate ctx orderly,
      (Lasting.pristine_activate ctx n).trans form⟩
  | deactivate =>
    exact ⟨_, rfl, Disciplined.orderly_deactivate ctx orderly,
      (Lasting.pristine_deactivate ctx n).trans form⟩
  | reset =>
    exact ⟨_, rfl, Disciplined.orderly_reset ctx orderly nofun,
      (Lasting.pristine_reset ctx n).trans form⟩
  | enter =>
    exact ⟨_, rfl, orderly_enter ctx orderly nofun, (pristine_enter ctx n).trans form⟩
  | leave => exact ⟨n, rfl, orderly, form⟩
  | update step =>
    exact ⟨_, rfl, Disciplined.orderly_update step ctx orderly,
      (Lasting.pristine_update step ctx n).trans form⟩
  | check step => exact ⟨n, rfl, orderly, form⟩
  | trigger tag =>
    exact ⟨_, rfl, Disciplined.orderly_onTrigger tag orderly,
      (Lasting.pristine_onTrigger tag n).trans form⟩

theorem KeepsForm.run {h : Handle} (kept : KeepsForm n₀ h) (calls : List (Context × Call)) :
    KeepsForm n₀ (h.run calls) := by
  induction calls generalizing h with
  | nil => exact kept
  | cons c rest ih => exact ih (kept.call c.1 c.2)

/-! ## Afterwards -/

variable {k j : Nat} {n n' : Node (Behavior height)} {ctx ctx' : Context}

theorem sight_eq (paired : Behaves.Paired n n') (alike : Resembling.Alike k j n n')
    (scopes : ctx.toScope.Alike k j ctx'.toScope) (left : Option Float32) :
    (live height (.behavior n)).sight k left ctx =
      (live height (.behavior n')).sight j left ctx' := by
  have stops : n.canStop = n'.canStop := Repeatable.canStop_eq paired alike
  simp only [sight, canStop?, stops, scopes.vars, scopes.entities, scopes.bus.later]

/-- Behaviors that look alike show the same from then on. -/
theorem watch_eq (moments : List Moment) (paired : Behaves.Paired n n')
    (alike : Resembling.Alike k j n n') (scopes : ctx.toScope.Alike k j ctx'.toScope) :
    (live height (.behavior n)).watch k ctx moments =
      (live height (.behavior n')).watch j ctx' moments := by
  induction moments generalizing n n' ctx ctx' with
  | nil => rfl
  | cons m rest ih =>
    cases m with
    | update step =>
      have ran := Repeatable.update_agree step scopes paired alike
      have still := paired.update step step ctx ctx'
      have left : (n.update step ctx).1 = (n'.update step ctx').1 := ran.left
      have seen := sight_eq still ran.nodes ran.scopes (some (n.update step ctx).1)
      have later := ih still ran.nodes ran.scopes
      simp only [watch, pass, Handle.update, List.cons.injEq]
      exact ⟨by rw [← left]; exact seen, later⟩
    | trigger tag =>
      have same := Repeatable.alike_onTrigger tag paired alike
      have still := paired.onTrigger tag
      exact List.cons_eq_cons.mpr ⟨sight_eq still same scopes none, ih still same scopes⟩
    | publish event =>
      have heard : ({ ctx with bus := ctx.bus.publish event } : Context).toScope.Alike k j
          ({ ctx' with bus := ctx'.bus.publish event } : Context).toScope :=
        ⟨scopes.owner, scopes.tag, scopes.vars, scopes.entities, scopes.settings,
          scopes.bus.publish event⟩
      exact List.cons_eq_cons.mpr ⟨sight_eq paired alike heard none, ih paired alike heard⟩
    | change vars entities =>
      have changed : ({ ctx with vars := vars, entities := entities } : Context).toScope.Alike k j
          ({ ctx' with vars := vars, entities := entities } : Context).toScope :=
        ⟨scopes.owner, scopes.tag, rfl, rfl, scopes.settings, scopes.bus⟩
      exact List.cons_eq_cons.mpr ⟨sight_eq paired alike changed none, ih paired alike changed⟩

theorem replay_eq (moments : List Moment) (paired : Behaves.Paired n n')
    (resting : n.active = false) (resting' : n'.active = false)
    (scopes : ctx.toScope.Alike ctx.bus.journal.size ctx'.bus.journal.size ctx'.toScope) :
    (live height (.behavior n)).replay ctx moments =
      (live height (.behavior n')).replay ctx' moments := by
  have reset := Repeatable.alike_reset scopes paired resting resting'
  have first := Context.alike_of_mute scopes (Quiet.mute_reset ctx n) (Quiet.mute_reset ctx' n')
  have still := paired.reset ctx ctx'
  have woken := Repeatable.alike_activate first still reset
  have second := Context.alike_of_mute first
    (Quiet.mute_activate (Behaves.reset ctx n).2 (Behaves.reset ctx n).1)
    (Quiet.mute_activate (Behaves.reset ctx' n').2 (Behaves.reset ctx' n').1)
  have awake := still.activate (Behaves.reset ctx n).2 (Behaves.reset ctx' n').2
  exact List.cons_eq_cons.mpr ⟨sight_eq still reset first none,
    List.cons_eq_cons.mpr ⟨sight_eq awake woken second none, watch_eq moments awake woken second⟩⟩

end Handle

/-- A behavior of built-in nodes that rests after any history of calls is reset, woken and run just
like one that is created anew, wherever that is: it leaves the same of every step, can stop at the
same time, and does the same to variables, entities and events. -/
theorem reentry_is_first_entry (r : Registry) (c : Config)
    (ctx₀ ctx₁ ctx ctx' : Context) (used : Handle) (history : List (Context × Handle.Call))
    (moments : List Moment)
    (scripted : ∀ name ∈ (c.outline .root).labels, r.Scripted name)
    (created : (Handle.create? r ctx₀ (some .behavior) c).1 = some used)
    (ready : (used.run history).status = .ready)
    (owner : ctx.owner = ctx'.owner) (tag : ctx.tag = ctx'.tag) (vars : ctx.vars = ctx'.vars)
    (entities : ctx.entities = ctx'.entities) (settings : ctx.settings = ctx'.settings)
    (capacity : ctx.bus.capacity = ctx'.bus.capacity) :
    ∃ fresh, (Handle.create? r ctx₁ (some .behavior) c).1 = some fresh ∧
      (used.run history).replay ctx moments = fresh.replay ctx' moments := by
  obtain ⟨n₀, made, rfl⟩ := Handle.create?_behavior created
  have twins := create_twins r c.height .root ctx₀ ctx₁ c scripted
  obtain ⟨n₁, made', form⟩ : ∃ n₁, (create r c.height ctx₁ c).1 = some (.behavior n₁) ∧
      Lasting.pristine n₁ = Lasting.pristine n₀ := by
    have same := twins.same
    rw [made] at same
    obtain ⟨node, found, form⟩ := Option.map_eq_some_iff.mp same.symm
    cases node with
    | behavior n₁ => exact ⟨n₁, found, AnyNode.behavior.inj form⟩
    | _ => cases form
  have begun := (create_begun false r c.height ctx₀ c).fresh _ made
  have fresh := (create_begun false r c.height ctx₁ c).fresh _ made'
  obtain ⟨n, ran, orderly, kept⟩ := Handle.KeepsForm.run ⟨n₀, rfl, begun.2, rfl⟩ history
  refine ⟨.live c.height (.behavior n₁), ?_, ?_⟩
  · rw [Handle.create?, AnyNode.fst_fit, made']
    rfl
  · rw [ran] at ready ⊢
    have resting : n.active = false := by
      by_contra active
      rw [Bool.not_eq_false] at active
      simp [Handle.status, AnyNode.isActive, active] at ready
    have paired : Behaves.Paired n n₁ := by
      refine ⟨orderly, fresh.2, ?_, kept.trans form.symm⟩
      rw [Outlined.outline_congr .root kept]
      exact twins.builtin _ made
    exact Handle.replay_eq moments paired resting fresh.1
      (Scope.Alike.begin owner tag vars entities settings capacity)

def markConfig : Config :=
  Build.sequence [Build.setVar "mark" (.bool true), Build.fsm "idle" [{ id := "idle" }]]

theorem reentry_of_mark :
    ∃ used fresh, (Handle.create? .standard emptyStage (some .behavior) markConfig).1 = some used ∧
      (Handle.create? .standard emptyStage (some .behavior) markConfig).1 = some fresh ∧
      (used.run [(emptyStage, .activate), (emptyStage, .update 1), (emptyStage, .deactivate)]).replay
          emptyStage [.update 1, .trigger "go"] =
        fresh.replay emptyStage [.update 1, .trigger "go"] := by
  obtain ⟨fresh, created, same⟩ := reentry_is_first_entry .standard markConfig emptyStage
    emptyStage emptyStage emptyStage _
    [(emptyStage, .activate), (emptyStage, .update 1), (emptyStage, .deactivate)]
    [.update 1, .trigger "go"] (fun name _ => Registry.standard_scripted name) rfl rfl rfl rfl rfl
    rfl rfl rfl
  exact ⟨_, fresh, rfl, created, same⟩
end SkillScript
