import SkillScript.Proofs.Census.Calls
import SkillScript.Proofs.Status.Finality
import SkillScript.Proofs.Tree.Confined
/-!
# Calls without effects

A node without hooks of the host has effects on its scope only when it is updated, or
left as a state whose exit behavior runs. However it came to be what it is, no other
call changes a variable or an entity or publishes an event: neither the creation of
its tree, whether that succeeds or fails, nor waking, resting, resetting, checking,
triggering and destroying it.
-/
set_option autoImplicit false
namespace SkillScript

namespace Context.Same

variable {a b c : Context}

theorem refl (ctx : Context) : ctx.Same ctx :=
  ⟨rfl, rfl, rfl⟩

theorem trans (first : a.Same b) (second : b.Same c) : a.Same c :=
  ⟨first.vars.trans second.vars, first.entities.trans second.entities,
    first.journal.trans second.journal⟩

/-- What all hooks of nobody keep is that nothing has changed. -/
theorem of_confined {made : List Hooks} (confined : Confined [] made a b) : b.Same a := by
  have kept := confined.keeps
    (fun s => s.vars = a.vars ∧ s.entities = a.entities ∧ s.bus.journal = a.bus.journal)
    nofun ⟨rfl, rfl, rfl⟩
  exact ⟨kept.1, kept.2.1, kept.2.2⟩

/-- Ending a receiver changes nothing. -/
theorem outlives (ctx : Context) (receivers : List Receiver) :
    Outlives (fun s => s.vars = ctx.vars ∧ s.entities = ctx.entities ∧
      s.bus.journal = ctx.bus.journal) [] receivers where
  hooks := nofun
  receivers _ _ _ same := same

end Context.Same

namespace AnyNode

variable {β : Type} [Behaves β] [Lasting β] [Ordered β] [Holding β]

theorem hooks_pristine (n : AnyNode β) : n.pristine.hooks = n.hooks := by
  cases n with
  | behavior n => exact Holding.hooks_pristine n
  | state s => exact s.hooks_pristine
  | _ => rfl

/-- A node without hooks has no effects when it is released, whatever it still listens to. -/
theorem same_release (ctx : Context) {n : AnyNode β} (unhooked : n.hooks = []) :
    (n.release ctx).Same ctx := by
  have outlives := Context.Same.outlives ctx
  have kept : (n.release ctx).vars = ctx.vars ∧ (n.release ctx).entities = ctx.entities ∧
      (n.release ctx).bus.journal = ctx.bus.journal := by
    cases n with
    | behavior n =>
      have unhooked : Holding.hooks n = [] := unhooked
      have outlives := outlives (Holding.receivers n)
      rw [← unhooked] at outlives
      exact Holding.release_keeps ctx n outlives ⟨rfl, rfl, rfl⟩
    | condition c => exact c.release_keeps ctx (outlives _) ⟨rfl, rfl, rfl⟩
    | state s =>
      have unhooked : s.hooks = [] := unhooked
      have outlives := outlives s.receivers
      rw [← unhooked] at outlives
      exact s.release_keeps ctx outlives ⟨rfl, rfl, rfl⟩
    | transition t => exact t.release_keeps ctx (outlives _) ⟨rfl, rfl, rfl⟩
  exact ⟨kept.1, kept.2.1, kept.2.2⟩

omit [Lasting β] [Ordered β] [Holding β] in
/-- A node is destroyed before it is counted out. -/
theorem toScope_destroy (ctx : Context) (n : AnyNode β) :
    (n.destroy ctx).toScope = (n.release ctx).toScope := by
  cases n with
  | condition c => cases c <;> rfl
  | _ => rfl

end AnyNode

namespace Handle

def Call.runs : Call → Bool
  | update _ => true
  | leave => true
  | _ => false

def hooks : Handle → List Hooks
  | live _ n => n.hooks
  | _ => []

theorem hooks_congr {h h' : Handle} (same : h.pristine = h'.pristine) : h.hooks = h'.hooks := by
  have stripped (h : Handle) : h.pristine.hooks = h.hooks := by
    cases h with
    | live height n => exact n.hooks_pristine
    | _ => rfl
  rw [← stripped, same, stripped]

/-- The handles that an owner can come to hold for a configuration. -/
inductive Reached (r : Registry) (c : Config) : Handle → Prop where
  | fresh (t : NodeType) : Reached r c (fresh t)
  | init (ctx : Context) {h : Handle} : Reached r c h → Reached r c (h.init r ctx c).2.1
  | create (ctx : Context) (slot : Option Slot) {h : Handle} :
    (create? r ctx slot c).1 = some h → Reached r c h
  | call (ctx : Context) (a : Call) {h : Handle} : Reached r c h → Reached r c (h.call ctx a).1
  | destroy (ctx : Context) {h : Handle} : Reached r c h → Reached r c (h.destroy ctx).1

variable {h : Handle}

theorem create?_confined (r : Registry) (ctx : Context) (slot : Option Slot) (c : Config) :
    Confined c.hooks ((create? r ctx slot c).1.toList.flatMap hooks) ctx
      (create? r ctx slot c).2 := by
  refine fit_confined ?_ (create_begun true r c.height ctx c) (create_confined r c.height ctx c)
  intro n h fits
  split at fits
  · cases fits
    rfl
  · cases fits

theorem init_confined (r : Registry) (ctx : Context) (t : NodeType) (c : Config) :
    Confined c.hooks ((fresh t).init r ctx c).2.1.hooks ctx ((fresh t).init r ctx c).2.2 := by
  have confined := instantiate_confined r c.height ctx t c.typeName c.body
  have body : c.body.hooks = c.hooks := by
    cases c
    rfl
  rw [body] at confined
  simp only [init]
  split
  · rename_i n after made
    rw [made] at confined
    simp only [Except.toOption, AnyNode.hooks?_some] at confined
    exact confined
  · rename_i e after made
    rw [made] at confined
    exact confined

/-- A handle for a configuration without hooks never holds any. -/
theorem Reached.hooks_eq_nil {r : Registry} {c : Config} (reached : Reached r c h)
    (unhooked : c.hooks = []) : h.hooks = [] := by
  induction reached with
  | fresh t => rfl
  | @init ctx h _ ih =>
    cases h with
    | fresh t =>
      have confined := init_confined r ctx t c
      rw [unhooked] at confined
      exact List.subset_nil.mp confined.made
    | _ => exact ih
  | @create ctx slot h made =>
    have confined := create?_confined r ctx slot c
    rw [unhooked, made] at confined
    simpa using confined.made
  | @call ctx a h _ ih =>
    rw [hooks_congr (h.pristine_call ctx a)]
    exact ih
  | @destroy ctx h _ ih => cases h <;> rfl

theorem same_onLive (ctx : Context) (h : Handle)
    {act : (height : Nat) → AnyNode (Behavior height) → AnyNode (Behavior height) × Context}
    (same : ∀ height n, (act height n).2.mute = ctx.mute) : (h.onLive ctx act).2.Same ctx := by
  cases h with
  | live height n => exact Context.same_of_mute (same height n)
  | _ => exact ⟨rfl, rfl, rfl⟩

theorem same_check (step : Float32) (ctx : Context) (h : Handle) :
    (h.check step ctx).2.2.Same ctx := by
  cases h with
  | live height n =>
    cases n with
    | state s =>
      show (s.checkTransitions step ctx).2.2.Same ctx
      unfold State.checkTransitions
      split
      · exact Context.same_of_pardon (Transition.pardon_checkFirst step ctx s.transitions)
      · exact .refl ctx
    | transition t => exact Context.same_of_pardon (t.pardon_check step ctx)
    | _ => exact .refl ctx
  | fresh t => cases t <;> exact ⟨rfl, rfl, rfl⟩
  | gone t remains => cases t <;> exact ⟨rfl, rfl, rfl⟩

/-- A call that runs no behaviors has no effects. -/
theorem same_call (ctx : Context) (h : Handle) {a : Call} (idle : a.runs = false) :
    (h.call ctx a).2.Same ctx := by
  have reset := h.same_onLive ctx fun _ n => n.mute_reset ctx
  cases a with
  | activate => exact h.same_onLive ctx fun _ n => n.mute_activate ctx
  | deactivate => exact h.same_onLive ctx fun _ n => n.mute_deactivate ctx
  | reset => exact reset
  | enter => exact ((h.reset ctx).1.same_onLive _ fun _ n => n.mute_activate _).trans reset
  | leave => cases idle
  | update step => cases idle
  | check step => exact h.same_check step ctx
  | trigger tag => exact .refl ctx

theorem same_destroy (ctx : Context) (unhooked : h.hooks = []) : (h.destroy ctx).2.Same ctx := by
  cases h with
  | live height n =>
    have released := n.same_release ctx unhooked
    have scope := n.toScope_destroy ctx
    show (n.destroy ctx).Same ctx
    exact ⟨(congrArg (·.vars) scope).trans released.vars,
      (congrArg (·.entities) scope).trans released.entities,
      (congrArg (·.bus.journal) scope).trans released.journal⟩
  | _ => exact ⟨rfl, rfl, rfl⟩

theorem same_init (r : Registry) (ctx : Context) (h : Handle) {c : Config}
    (unhooked : c.hooks = []) : (h.init r ctx c).2.2.Same ctx := by
  cases h with
  | fresh t =>
    have confined := init_confined r ctx t c
    rw [unhooked] at confined
    exact .of_confined confined
  | _ => exact ⟨rfl, rfl, rfl⟩

theorem same_create? (r : Registry) (ctx : Context) (slot : Option Slot) {c : Config}
    (unhooked : c.hooks = []) : (create? r ctx slot c).2.Same ctx := by
  have confined := create?_confined r ctx slot c
  rw [unhooked] at confined
  exact .of_confined confined

end Handle

end SkillScript
