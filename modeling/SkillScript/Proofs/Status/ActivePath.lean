import SkillScript.Proofs.History
import SkillScript.Proofs.Status.Create
import SkillScript.Script.Build
/-!
# The active path of an agent

Between any two calls the tree of an agent is active at its root and in strict
order below it, until the agent is disposed of. No call in its whole history,
whatever the world is like when it comes, makes a node refuse anything. A node is
initialized before it is part of a tree and destroyed with the tree, so the calls
that could be refused are updates and checks of nodes that are not active.
-/
set_option autoImplicit false
namespace SkillScript

open Behaves.Disciplined

namespace Agent

structure OnPath (a : Agent) : Prop where
  root : ∀ t, a.tree = some t → Behaves.isActive t.root = true
  below : ∀ t, a.tree = some t → Ordered.Orderly true t.root
  granted : a.refusals = 0

theorem init_onPath {r : Registry} {script : Script} {owner : EntityId} {tag : CastTag}
    {vars : Vars} {w w' : World} {a : Agent}
    (started : init r script owner tag vars w = (.ok a, w')) : a.OnPath := by
  obtain ⟨b, ctx, created, settled⟩ := init_ok started
  have begun := fit_begun (behavior_fresh true) (create_begun true r script.root.height
    ((blank script owner tag vars).context w) script.root)
  rw [created] at begun
  obtain ⟨resting, orderly⟩ := begun.fresh b rfl
  obtain ⟨rfl, rfl⟩ := Prod.mk.inj settled
  refine ⟨?_, ?_, ?_⟩
  · intro t tree
    cases tree
    exact Behaves.isActive_enter ctx b
  · intro t tree
    cases tree
    exact Behaves.orderly_enter ctx orderly fun _ => resting
  · exact (Behaves.refusals_enter ctx b).trans begun.granted

theorem OnPath.call {a : Agent} (onPath : a.OnPath) (w : World) (c : Call) :
    (a.call w c).1.OnPath := by
  cases tree : a.tree with
  | none =>
    have idle : (a.call w c).1 = a := by
      cases c <;> simp [Agent.call, trigger, update, dispose, tree]
    rw [idle]
    exact onPath
  | some t =>
    have awake := onPath.root t tree
    have orderly := onPath.below t tree
    cases c with
    | trigger tag payload =>
      simp only [Agent.call, trigger, tree]
      refine ⟨?_, ?_, onPath.granted⟩
      · intro t' same
        cases same
        exact (isActive_onTrigger tag t.root).trans awake
      · intro t' same
        cases same
        exact orderly_onTrigger tag orderly
    | update step =>
      simp only [Agent.call, update, tree, settle]
      refine ⟨?_, ?_, ?_⟩
      · intro t' same
        cases same
        exact (isActive_update step _ t.root).trans awake
      · intro t' same
        cases same
        exact orderly_update step _ orderly
      · exact (refusals_update step (a.context w) orderly awake).trans onPath.granted
    | dispose =>
      simp only [Agent.call, dispose, tree, settle]
      refine ⟨by simp, by simp, ?_⟩
      have released := Behaves.Lenient.refusals_release
        (Behaves.deactivate (a.context w) t.root).2 (Behaves.deactivate (a.context w) t.root).1
      exact (released.trans (Behaves.refusals_deactivate _ t.root)).trans onPath.granted

theorem OnPath.run {a : Agent} (onPath : a.OnPath) (calls : List (World × Call)) :
    (a.run calls).OnPath := by
  induction calls generalizing a with
  | nil => exact onPath
  | cons c rest ih => exact ih (onPath.call c.1 c.2)

end Agent

/-- After any history of an agent that was started, its root is active and every other node of its
tree is active exactly when its parent is active and runs it; and no call was ever refused. -/
theorem active_path (r : Registry) (script : Script) (owner : EntityId) (tag : CastTag)
    (vars : Vars) (w w' : World) (a : Agent) (calls : List (World × Agent.Call))
    (started : Agent.init r script owner tag vars w = (.ok a, w')) :
    (∀ t, (a.run calls).tree = some t →
      Behaves.isActive t.root = true ∧ Ordered.Orderly true t.root) ∧
    (a.run calls).refusals = 0 := by
  have onPath := (Agent.init_onPath started).run calls
  exact ⟨fun t tree => ⟨onPath.root t tree, onPath.below t tree⟩, onPath.granted⟩

def patrolScript : Script :=
  ⟨"patrol", Build.parallel [
    Build.sequence [Build.wait 1, Build.setVar "rested" (.bool true), Build.wait 2],
    Build.fsm "calm" [
      { id := "calm"
        transitions := [
          Build.transition { condition := some (Build.trigger "alarm"), onTrue := some "alert" }] },
      { id := "alert", behavior := some (Build.wait 1) }]]⟩

def patrolCalls : List (World × Agent.Call) :=
  [({}, .update 0.5), ({}, .trigger "alarm" ∅), ({}, .update 1)]

theorem active_path_of_patrol :
    ∃ a w, Agent.init .standard patrolScript ⟨0⟩ ⟨0⟩ ∅ {} = (.ok a, w) ∧ a.live = 11 ∧
      (a.run patrolCalls).vars.find? "rested" = some (.bool true) ∧
      (a.run patrolCalls).tree.isSome = true ∧
      (∀ t, (a.run patrolCalls).tree = some t →
        Behaves.isActive t.root = true ∧ Ordered.Orderly true t.root) ∧
      let disposed := a.run (patrolCalls ++ [(({} : World), .dispose)])
      disposed.tree.isNone = true ∧ disposed.refusals = 0 := by
  refine ⟨_, _, rfl, rfl, by decide +kernel, by decide +kernel, ?path, by decide +kernel, ?granted⟩
  case path => exact (active_path .standard patrolScript ⟨0⟩ ⟨0⟩ ∅ {} _ _ patrolCalls rfl).1
  case granted => exact (active_path .standard patrolScript ⟨0⟩ ⟨0⟩ ∅ {} _ _ _ rfl).2

end SkillScript
