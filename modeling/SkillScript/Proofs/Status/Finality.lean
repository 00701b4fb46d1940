import SkillScript.Proofs.History
import SkillScript.Proofs.Status.Truthful
import SkillScript.Proofs.Tree.Confined
import SkillScript.Script.Build
/-!
# What is finished stays finished

An active behavior that can stop after an update can stop for ever, until it is reset:
whatever triggers, updates, deactivations and activations come, and whatever happens
around it in between. If no hook of the host runs on its updates, it also has no more
effects: the variables, the entities and the journal of the bus stay what they are.
-/
set_option autoImplicit false
namespace SkillScript

namespace Context

variable {ctx ctx' : Context}

structure Same (ctx ctx' : Context) : Prop where
  vars : ctx.vars = ctx'.vars
  entities : ctx.entities = ctx'.entities
  journal : ctx.bus.journal = ctx'.bus.journal

theorem same_of_mute (h : ctx.mute = ctx'.mute) : ctx.Same ctx' := by
  have parts : ctx.mute.Same ctx'.mute := by
    rw [h]
    exact ⟨rfl, rfl, rfl⟩
  exact ⟨parts.vars, parts.entities, parts.journal⟩

theorem same_of_pardon (h : ctx.pardon = ctx'.pardon) : ctx.Same ctx' := by
  have scope := toScope_eq_of_pardon h
  exact ⟨congrArg (·.vars) scope, congrArg (·.entities) scope, congrArg (·.bus.journal) scope⟩

end Context

namespace Handle

/-- Resets start over. To enter is to reset first. -/
def Call.restarts : Call → Bool
  | reset => true
  | enter => true
  | _ => false

variable {height : Nat} {n₀ : Node (Behavior height)} {h : Handle}

def KeepsWord (n₀ : Node (Behavior height)) (h : Handle) : Prop :=
  ∃ n : Node (Behavior height), h = live height (.behavior n) ∧
    Honest.Truthful n ∧ Lasting.pristine n = Lasting.pristine n₀

def StaysFinished (n₀ : Node (Behavior height)) (h : Handle) : Prop :=
  ∃ n : Node (Behavior height), h = live height (.behavior n) ∧
    Finishing.Finished n ∧ Lasting.pristine n = Lasting.pristine n₀

open Behaves.Faithful in
theorem KeepsWord.call (kept : KeepsWord n₀ h) (ctx : Context) (c : Call) :
    KeepsWord n₀ (h.call ctx c).1 := by
  obtain ⟨n, rfl, truthful, form⟩ := kept
  cases c with
  | activate =>
    exact ⟨_, rfl, truthful_activate ctx truthful, (Lasting.pristine_activate ctx n).trans form⟩
  | deactivate =>
    exact ⟨_, rfl, truthful_deactivate ctx truthful,
      (Lasting.pristine_deactivate ctx n).trans form⟩
  | reset =>
    exact ⟨_, rfl, truthful_reset ctx truthful, (Lasting.pristine_reset ctx n).trans form⟩
  | enter =>
    exact ⟨_, rfl, Behaves.truthful_enter ctx truthful, (Behaves.pristine_enter ctx n).trans form⟩
  | leave => exact ⟨n, rfl, truthful, form⟩
  | update step =>
    exact ⟨_, rfl, truthful_update step ctx truthful,
      (Lasting.pristine_update step ctx n).trans form⟩
  | check step => exact ⟨n, rfl, truthful, form⟩
  | trigger tag =>
    exact ⟨_, rfl, truthful_onTrigger tag truthful, (Lasting.pristine_onTrigger tag n).trans form⟩

theorem KeepsWord.run (kept : KeepsWord n₀ h) (calls : List (Context × Call)) :
    KeepsWord n₀ (h.run calls) := by
  induction calls generalizing h with
  | nil => exact kept
  | cons c rest ih => exact ih (kept.call c.1 c.2)

theorem KeepsWord.finishes (kept : KeepsWord n₀ h) (active : h.status = .active) (ctx : Context)
    (step : Float32) (stops : (h.call ctx (.update step)).1.canStop? = some true) :
    StaysFinished n₀ (h.call ctx (.update step)).1 := by
  obtain ⟨n, rfl, truthful, form⟩ := kept
  have awake : n.active = true := by
    by_contra resting
    rw [Bool.not_eq_true] at resting
    simp [status, AnyNode.isActive, resting] at active
  exact ⟨_, rfl, Behaves.Faithful.finished_of_update step ctx truthful awake
    (Option.some.inj stops), (Lasting.pristine_update step ctx n).trans form⟩

open Behaves.Conclusive in
theorem StaysFinished.call (finished : StaysFinished n₀ h) (ctx : Context) {c : Call}
    (continues : c.restarts = false) : StaysFinished n₀ (h.call ctx c).1 := by
  obtain ⟨n, rfl, done, form⟩ := finished
  cases c with
  | activate =>
    exact ⟨_, rfl, finished_activate ctx done, (Lasting.pristine_activate ctx n).trans form⟩
  | deactivate =>
    exact ⟨_, rfl, finished_deactivate ctx done, (Lasting.pristine_deactivate ctx n).trans form⟩
  | reset => cases continues
  | enter => cases continues
  | leave => exact ⟨n, rfl, done, form⟩
  | update step =>
    exact ⟨_, rfl, finished_update step ctx done, (Lasting.pristine_update step ctx n).trans form⟩
  | check step => exact ⟨n, rfl, done, form⟩
  | trigger tag =>
    exact ⟨_, rfl, finished_onTrigger tag done, (Lasting.pristine_onTrigger tag n).trans form⟩

theorem StaysFinished.run (finished : StaysFinished n₀ h) {calls : List (Context × Call)}
    (continues : ∀ p ∈ calls, p.2.restarts = false) : StaysFinished n₀ (h.run calls) := by
  induction calls generalizing h with
  | nil => exact finished
  | cons p rest ih =>
    obtain ⟨first, others⟩ := List.forall_mem_cons.mp continues
    exact ih (finished.call p.1 first) others

theorem StaysFinished.canStop? (finished : StaysFinished n₀ h) : h.canStop? = some true := by
  obtain ⟨n, rfl, done, -⟩ := finished
  exact congrArg some (Behaves.Conclusive.canStop_of_finished done)

theorem StaysFinished.same (finished : StaysFinished n₀ h)
    (still : ∀ hooks ∈ Holding.hooks n₀, hooks.onUpdate = none) (ctx : Context) {c : Call}
    (continues : c.restarts = false) : (h.call ctx c).2.Same ctx := by
  obtain ⟨n, rfl, done, form⟩ := finished
  have unhooked : ∀ hooks ∈ Holding.hooks n, hooks.onUpdate = none := by
    rw [Holding.hooks_congr form]
    exact still
  cases c with
  | activate => exact Context.same_of_mute (Behaves.Quiet.mute_activate ctx n)
  | deactivate => exact Context.same_of_mute (Behaves.Quiet.mute_deactivate ctx n)
  | reset => cases continues
  | enter => cases continues
  | update step =>
    exact Context.same_of_pardon (Behaves.Inert.pardon_update step ctx done unhooked)
  | _ => exact ⟨rfl, rfl, rfl⟩

end Handle

/-- Once an active behavior can stop after an update, it can stop after all further calls that do
not reset it; and if no hook of the host runs on its updates, none of these calls changes a
variable or an entity or publishes anything. -/
theorem finished_behaviors_stay_finished (r : Registry) (ctx₀ : Context) (c : Config) (h : Handle)
    (before after : List (Context × Handle.Call)) (ctx : Context) (step : Float32)
    (created : (Handle.create? r ctx₀ (some .behavior) c).1 = some h)
    (active : (h.run before).status = .active)
    (stops : ((h.run before).call ctx (.update step)).1.canStop? = some true)
    (continues : ∀ p ∈ after, p.2.restarts = false) :
    (((h.run before).call ctx (.update step)).1.run after).canStop? = some true ∧
    ((∀ hooks ∈ c.hooks, hooks.onUpdate = none) →
      ∀ (ctx' : Context) (call : Handle.Call), call.restarts = false →
        ((((h.run before).call ctx (.update step)).1.run after).call ctx' call).2.Same ctx') := by
  obtain ⟨n₀, made, rfl⟩ := Handle.create?_behavior created
  have newborn : Nascent.Newborn n₀ := create_newborn r c.height ctx₀ c _ made
  have truthful : Honest.Truthful n₀ := Behaves.Innocent.truthful_of_newborn newborn
  have kept : Handle.KeepsWord n₀ _ := .run ⟨n₀, rfl, truthful, rfl⟩ before
  have finished := (kept.finishes active ctx step stops).run continues
  refine ⟨finished.canStop?, ?_⟩
  intro still ctx' call proceeds
  have own : Holding.hooks n₀ ⊆ c.hooks := by
    have confined := (create_confined r c.height ctx₀ c).made
    rw [made, AnyNode.hooks?_some] at confined
    exact confined
  exact finished.same (fun hooks member => still hooks (own member)) ctx' proceeds

def markedConfig : Config :=
  Build.fsm "idle" [{ id := "idle", behavior := some (Build.setVar "mark" (.bool true)) }]

theorem finished_behaviors_stay_finished_of_mark :
    ∃ h, (Handle.create? .standard emptyStage (some .behavior) markedConfig).1 = some h ∧
      ((h.run [(emptyStage, .activate), (emptyStage, .update 1), (emptyStage, .deactivate),
        (emptyStage, .trigger "go"), (emptyStage, .activate)]).call emptyStage (.update 1)).2.vars =
        emptyStage.vars := by
  obtain ⟨-, inert⟩ := finished_behaviors_stay_finished .standard emptyStage markedConfig _
    [(emptyStage, .activate)]
    [(emptyStage, .deactivate), (emptyStage, .trigger "go"), (emptyStage, .activate)]
    emptyStage 1 rfl rfl rfl (by simp [Handle.Call.restarts])
  have hookless : markedConfig.hooks = [] := rfl
  refine ⟨_, rfl, (inert ?_ emptyStage (.update 1) rfl).vars⟩
  rw [hookless]
  nofun

end SkillScript
