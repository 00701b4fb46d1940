import SkillScript.Proofs.Census.Ledger
import SkillScript.Proofs.Instantiation.Create
/-!
# Accepted scripts start

Two recursions meet here: the one that reads an element and checks its categories,
and the one that creates nodes and keeps those that fit. What the first accepts, the
second creates in full. The one thing that can go wrong is a root that is not a
behavior, since the reader takes a root of any category.
-/
set_option autoImplicit false
namespace SkillScript

theorem Registry.standard_hosted : standard.Hosted :=
  List.foldlRecOn NodeType.builtins _ .empty fun _ hosted t builtin => .type hosted t builtin

/-- What is read as a script is sound. -/
theorem Registry.readScript_sound {r : Registry} (fit : r.Fit) {name : String} {root : Element}
    {script : Script} (read : r.readScript name root = .ok script) : script.root.Sound r := by
  obtain ⟨c?, found, read⟩ := bind_ok read
  cases c? with
  | none => cases read
  | some c =>
    cases read
    exact (readElement_sound fit root c found).1

/-- The labels of a complete outline are as many as those of the configurations. -/
theorem Outline.length_labels {r : Registry} {o : Outline Label} {names : Outline String}
    (same : o.types = r.types names) : o.labels.length = names.labels.length := by
  have counted := congrArg (fun o => o.labels.length) same
  rw [types, Registry.types, labels_map, labels_map, List.length_map, List.length_map] at counted
  exact counted

def Script.size (script : Script) : Nat :=
  (script.root.outline .root).labels.length

/-- The tree of an agent has a node for every configuration of a script, in its place and of the
type that is registered for it, and all of these count as live and nothing else does. -/
structure Agent.Complete (r : Registry) (script : Script) (a : Agent) : Prop where
  outline : ∃ t, a.tree = some t ∧
    (outline .root t.root).types = r.types (script.root.outline .root)
  live : a.live = script.size

namespace Agent

variable {r : Registry} {script : Script} (owner : EntityId) (tag : CastTag) (vars : Vars)
  (w : World)

theorem init_of_not_behavior (other : script.root.category.satisfies .behavior = false) :
    (init r script owner tag vars w).1 =
      .error (.rootNotBehavior script.name script.root.typeName) := by
  simp [init, other]

/-- The behavior that was created is entered. -/
theorem init_of_created {b : Behavior (script.root.height + 1)} {ctx : Context}
    (behaves : script.root.category.satisfies .behavior = true)
    (created : AnyNode.fit Behavior.ofAny? (create r script.root.height
      ((blank script owner tag vars).context w) script.root) = (some b, ctx)) :
    ∃ a w', init r script owner tag vars w = (.ok a, w') ∧
      a.tree = some ⟨script.root.height + 1, (Behaves.enter ctx b).1⟩ := by
  unfold blank at created
  simp only [init, behaves, if_true, created]
  exact ⟨_, _, rfl, rfl⟩

theorem init_complete (sound : script.root.Sound r)
    (behaves : script.root.category.satisfies .behavior = true) :
    ∃ a, (init r script owner tag vars w).1 = .ok a ∧ a.Complete r script := by
  obtain ⟨b, made, same⟩ := fit_complete (accepts_behavior .root) behaves
    (create_complete r script.root.height .root ((blank script owner tag vars).context w)
      script.root sound (Nat.le_refl _))
  obtain ⟨a, w', started, tree⟩ := init_of_created owner tag vars w behaves (Prod.ext made rfl)
  -- entering the root leaves its outline as it was created
  rw [← Outlined.outline_congr .root (Behaves.pristine_enter _ b)] at same
  have counted : a.live = a.labels.length := (init_grows started).live.trans (Nat.zero_add _)
  refine ⟨a, by rw [started], ⟨_, tree, same⟩, ?_⟩
  rw [counted, labels, tree]
  exact Outline.length_labels same

end Agent

/-- What a registry accepts, an agent of the same registry starts, unless the root is not a
behavior; then nothing is created. An agent that starts has the whole script. Hooks of the host
create no nodes, which their type presupposes: it gives them a scope and no way to make nodes. -/
theorem accepted_scripts_start (r : Registry) (hosted : r.Hosted) (name : String) (root : Element)
    (script : Script) (read : r.readScript name root = .ok script) (owner : EntityId)
    (tag : CastTag) (vars : Vars) (w : World) :
    (∀ e, (Agent.init r script owner tag vars w).1 = .error e ↔
      e = .rootNotBehavior script.name script.root.typeName ∧
        script.root.category.satisfies .behavior = false) ∧
    (script.root.category.satisfies .behavior = true →
      ∃ a, (Agent.init r script owner tag vars w).1 = .ok a ∧ a.Complete r script) := by
  have sound := Registry.readScript_sound hosted.fit read
  refine ⟨fun e => ?_, Agent.init_complete owner tag vars w sound⟩
  cases behaves : script.root.category.satisfies .behavior with
  | false =>
    rw [Agent.init_of_not_behavior owner tag vars w behaves, Except.error.injEq]
    exact ⟨fun same => ⟨same.symm, rfl⟩, fun same => same.1.symm⟩
  | true =>
    obtain ⟨a, started, -⟩ := Agent.init_complete owner tag vars w sound behaves
    rw [started]
    exact ⟨nofun, nofun⟩

def gateElement : Element :=
  { tag := "SequenceBhv"
    children := [
      { tag := "Guard" },
      { tag := "Fsm"
        attrs := [("Initial", "closed")]
        children := [
          { tag := "CustomBhvState"
            attrs := [("Id", "closed")]
            children := [
              { tag := "Bhv", children := [{ tag := "Guard" }] },
              { tag := "StateTransition"
                attrs := [("TrueStateID", "closed")]
                children := [
                  { tag := "Condition"
                    children := [
                      { tag := "TriggerCond", attrs := [("Tag", "open")] }] }] }] }] }] }

def gateRegistry : Registry :=
  (Registry.standard.registerDelegate "Guard" {}).2

theorem accepted_scripts_start_of_gate :
    ∃ script, gateRegistry.readScript "gate" gateElement = .ok script ∧
      ∃ a, (Agent.init gateRegistry script ⟨0⟩ ⟨0⟩ ∅ {}).1 = .ok a ∧ a.live = 7 := by
  refine ⟨_, rfl, ?_⟩
  obtain ⟨a, started, complete⟩ := (accepted_scripts_start gateRegistry
    (.delegate Registry.standard_hosted "Guard" {}) "gate" gateElement _ rfl ⟨0⟩ ⟨0⟩ ∅ {}).2 rfl
  exact ⟨a, started, complete.live⟩

end SkillScript
