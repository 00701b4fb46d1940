import SkillScript.Proofs.Census.Ledger
import SkillScript.Proofs.Instantiation.Start
import SkillScript.Proofs.Tree.Confined
import SkillScript.Proofs.Tree.Effects
/-!
# Agents and the hooks of their scripts

An agent holds hooks of its script and no others, and none once it is disposed of.
What they keep of the entities is kept when the agent starts and when it is disposed
of. A script that can be started at all can be started everywhere, and one without
such hooks that cannot leaves the world as it was.
-/
set_option autoImplicit false
namespace SkillScript

namespace Script

def Keeps (s : Script) (K : Entities → Prop) : Prop :=
  ∀ h ∈ s.root.hooks, h.Keep fun scope => K scope.entities

/-- No hook runs when a behavior of the script comes to life or ends. -/
def Hookless (s : Script) : Prop :=
  ∀ h ∈ s.root.hooks, h.onInitialize = none ∧ h.onDestroy = none

theorem Hookless.keep {s : Script} (hookless : s.Hookless) (I : Scope → Prop) :
    ∀ h ∈ s.root.hooks, h.Keep I := by
  intro h member
  obtain ⟨noInitialize, noDestroy⟩ := hookless h member
  exact .absent noInitialize noDestroy I

/-- The root of the script can be instantiated: there is a world in which an agent starts. -/
def Starts (r : Registry) (s : Script) : Prop :=
  ∃ owner tag vars w a w', Agent.init r s owner tag vars w = (.ok a, w')

end Script

theorem Context.entities_eq_of_mute {ctx ctx' : Context} (same : ctx.mute = ctx'.mute) :
    ctx.entities = ctx'.entities := by
  have parts : ctx.mute.entities = ctx'.mute.entities := by rw [same]
  exact parts

namespace Agent

def created (r : Registry) (script : Script) (owner : EntityId) (tag : CastTag) (vars : Vars)
    (w : World) : Option (Behavior (script.root.height + 1)) × Context :=
  AnyNode.fit Behavior.ofAny?
    (create r script.root.height ((blank script owner tag vars).context w) script.root)

def hooks (a : Agent) : List Hooks :=
  match a.tree with
  | none => []
  | some t => Holding.hooks t.root

variable {r : Registry} {script : Script} {owner : EntityId} {tag : CastTag} {vars : Vars}
  {w w' : World} {a : Agent} {e : AgentError}

theorem created_confined (r : Registry) (script : Script) (owner : EntityId) (tag : CastTag)
    (vars : Vars) (w : World) : Confined script.root.hooks
    ((created r script owner tag vars w).1.toList.flatMap Holding.hooks)
    ((blank script owner tag vars).context w) (created r script owner tag vars w).2 :=
  fit_confined behavior_hooks (create_begun true r script.root.height _ script.root)
    (create_confined r script.root.height _ script.root)

/-- An agent does not start if its root is no behavior or cannot be created. -/
theorem init_error (failed : init r script owner tag vars w = (.error e, w')) :
    (script.root.category.satisfies .behavior = false ∧ w' = w) ∨
      ((created r script owner tag vars w).1 = none ∧
        w' = (created r script owner tag vars w).2.toWorld) := by
  simp only [init] at failed
  split at failed
  · split at failed
    · rename_i ctx made
      have made : created r script owner tag vars w = (none, ctx) := made
      obtain ⟨-, rfl⟩ := Prod.mk.inj failed
      exact Or.inr ⟨by rw [made], by rw [made]⟩
    · cases failed
  · rename_i other
    obtain ⟨-, rfl⟩ := Prod.mk.inj failed
    exact Or.inl ⟨by simpa using other, rfl⟩

/-- An agent that has started runs for its owner under its tag, and it has a tree. -/
theorem init_planted (started : init r script owner tag vars w = (.ok a, w')) :
    a.owner = owner ∧ a.tag = tag ∧ ∃ t, a.tree = some t := by
  obtain ⟨b, ctx, -, settled⟩ := init_ok started
  obtain ⟨rfl, -⟩ := Prod.mk.inj settled
  exact ⟨rfl, rfl, _, rfl⟩

theorem hooks_init (started : init r script owner tag vars w = (.ok a, w')) :
    a.hooks ⊆ script.root.hooks := by
  obtain ⟨b, ctx, made, settled⟩ := init_ok started
  have made : created r script owner tag vars w = (some b, ctx) := made
  have confined := created_confined r script owner tag vars w
  rw [made] at confined
  simp only [Option.toList_some, List.flatMap_singleton] at confined
  obtain ⟨rfl, rfl⟩ := Prod.mk.inj settled
  show Holding.hooks (Behaves.enter ctx b).1 ⊆ script.root.hooks
  rw [Holding.hooks_congr (Behaves.pristine_enter ctx b)]
  exact confined.made

theorem hooks_call (w : World) (a : Agent) (c : Call) : (a.call w c).1.hooks ⊆ a.hooks := by
  cases tree : a.tree with
  | none =>
    have idle : (a.call w c).1 = a := by
      cases c <;> simp [call, trigger, update, dispose, tree]
    rw [idle]
    exact List.Subset.refl _
  | some t =>
    cases c with
    | trigger tag payload =>
      have same := Holding.hooks_congr (Lasting.pristine_onTrigger tag t.root)
      simp only [call, trigger, tree, hooks, same]
      exact List.Subset.refl _
    | update step =>
      have same := Holding.hooks_congr (Lasting.pristine_update step (a.context w) t.root)
      simp only [call, update, tree, settle, hooks, same]
      exact List.Subset.refl _
    | dispose =>
      simp only [call, dispose, tree, settle, hooks]
      exact List.nil_subset _

/-- Starting an agent, or failing to, keeps what the hooks of the script keep. -/
theorem init_keeps (r : Registry) (owner : EntityId) (tag : CastTag) (vars : Vars)
    {K : Entities → Prop} (kept : script.Keeps K) (holds : K w.entities) :
    K (init r script owner tag vars w).2.entities := by
  have created := (created_confined r script owner tag vars w).keeps
    (fun scope => K scope.entities) kept holds
  rcases result : init r script owner tag vars w with ⟨_ | a, w'⟩
  · rcases init_error result with ⟨-, rfl⟩ | ⟨-, rfl⟩
    · exact holds
    · exact created
  · obtain ⟨b, ctx, made, settled⟩ := init_ok result
    have made : Agent.created r script owner tag vars w = (some b, ctx) := made
    rw [made] at created
    obtain ⟨-, rfl⟩ := Prod.mk.inj settled
    show K (Behaves.enter ctx b).2.entities
    rw [Context.entities_eq_of_mute (Behaves.mute_enter ctx b)]
    exact created

/-- A script without such hooks that does not start has done nothing. -/
theorem init_failed (hookless : script.Hookless)
    (failed : init r script owner tag vars w = (.error e, w')) : w' = w := by
  have untouched := (created_confined r script owner tag vars w).keeps
    (fun scope => scope.toWorld = w) (hookless.keep _) rfl
  rcases init_error failed with ⟨-, rfl⟩ | ⟨-, rfl⟩
  · rfl
  · exact untouched

/-- An update keeps what survives the hooks in the tree of the agent. -/
theorem update_keeps {I : Scope → Prop} (survives : Survives I a.hooks) (step : Float32) (w : World)
    (holds : I (a.context w).toScope) : ∃ s, I s ∧ s.toWorld = (a.update step w).2 := by
  cases tree : a.tree with
  | none => exact ⟨_, holds, by simp only [update, tree]; rfl⟩
  | some t =>
    simp only [hooks, tree] at survives
    refine ⟨_, Effective.update_keeps step (a.context w) t.root survives holds, ?_⟩
    simp only [update, tree, settle]

/-- Disposing of an agent keeps what the hooks in its tree keep. -/
theorem dispose_keeps {K : Entities → Prop}
    (kept : ∀ h ∈ a.hooks, h.Keep fun scope => K scope.entities) (holds : K w.entities) :
    K (a.dispose w).2.entities := by
  cases tree : a.tree with
  | none => simpa [dispose, tree] using holds
  | some t =>
    simp only [hooks, tree] at kept
    simp only [dispose, tree, settle]
    have rested := Context.entities_eq_of_mute
      (Behaves.Quiet.mute_deactivate (a.context w) t.root)
    have same := Holding.hooks_congr (Lasting.pristine_deactivate (a.context w) t.root)
    refine Holding.release_keeps (I := fun scope => K scope.entities) _ _ ⟨?_, ?_⟩ ?_
    · rwa [same]
    · intro receiver _ scope entities
      exact entities
    · show K (Behaves.deactivate (a.context w) t.root).2.entities
      rw [rested]
      exact holds

/-- Where an agent of a script has started once, one always starts. -/
theorem starts_everywhere (starts : script.Starts r) (owner : EntityId) (tag : CastTag)
    (vars : Vars) (w : World) : ∃ a w', init r script owner tag vars w = (.ok a, w') := by
  obtain ⟨owner₀, tag₀, vars₀, w₀, a₀, w₀', started⟩ := starts
  have behaves : script.root.category.satisfies .behavior = true := by
    by_contra other
    rw [Bool.not_eq_true] at other
    have failed := init_of_not_behavior (r := r) owner₀ tag₀ vars₀ w₀ other
    rw [started] at failed
    cases failed
  obtain ⟨b₀, ctx₀, made₀, -⟩ := init_ok started
  have there := isSome_fit_behavior r script.root.height
    ((blank script owner₀ tag₀ vars₀).context w₀) ((blank script owner tag vars).context w)
    script.root
  rw [made₀, Option.isSome_some, eq_comm, Option.isSome_iff_exists] at there
  obtain ⟨b, made⟩ := there
  obtain ⟨a, w', started, -⟩ := init_of_created owner tag vars w behaves (Prod.ext made rfl)
  exact ⟨a, w', started⟩

end Agent

end SkillScript
