import SkillScript.Proofs.Tree.Holdings
/-!
# Creation is confined to the hooks of a script

The hooks of a configuration are those of the behaviors below it. Creating a node
from it runs no others, whatever is created and released on the way, and the tree
that it returns holds no others: what the hooks of a script keep, its creation
keeps.
-/
set_option autoImplicit false
namespace SkillScript

mutual

/-- The hooks of the behaviors that the host would run. -/
def Config.hooks : Config → List Hooks
  | ⟨_, _, body⟩ => body.hooks

def Body.hooks : Body → List Hooks
  | .composite children => listHooks children
  | .negation condition => optionHooks condition
  | .junction conditions => listHooks conditions
  | .fsm _ states => statesHooks states
  | .state _ _ behavior exit transitions =>
    optionHooks behavior ++ optionHooks exit ++ listHooks transitions
  | .transition condition _ _ _ => optionHooks condition
  | .delegate _ hooks => [hooks]
  | _ => []

def listHooks : List Config → List Hooks
  | [] => []
  | c :: rest => c.hooks ++ listHooks rest

def optionHooks : Option Config → List Hooks
  | none => []
  | some c => c.hooks

def statesHooks : List (String × Config) → List Hooks
  | [] => []
  | (_, c) :: rest => c.hooks ++ statesHooks rest

end

/-- The way from one context to another was confined to some hooks: what was made on it holds no
others, and what they all keep still holds if it held before. -/
structure Confined (hs made : List Hooks) (before after : Context) : Prop where
  made : made ⊆ hs
  keeps : ∀ I : Scope → Prop, (∀ h ∈ hs, h.Keep I) → I before.toScope → I after.toScope

namespace Confined

variable {hs hs' made made' : List Hooks} {a b c : Context}

theorem refl (hs : List Hooks) (ctx : Context) : Confined hs [] ctx ctx where
  made := List.nil_subset _
  keeps _ _ holds := holds

theorem trans (first : Confined hs made a b) (second : Confined hs' made' b c) :
    Confined (hs ++ hs') (made ++ made') a c where
  made := by
    intro h member
    rcases List.mem_append.mp member with member | member
    · exact List.mem_append_left _ (first.made member)
    · exact List.mem_append_right _ (second.made member)
  keeps I kept holds := by
    have between := first.keeps I (fun h member => kept h (List.mem_append_left _ member)) holds
    exact second.keeps I (fun h member => kept h (List.mem_append_right _ member)) between

/-- Counting nodes is no matter of the scope. -/
theorem counted (confined : Confined hs made a b) (same : b.toScope = c.toScope) :
    Confined hs made a c where
  made := confined.made
  keeps I kept holds := same ▸ confined.keeps I kept holds

end Confined

variable {β : Type} [Behaves β] [Lasting β] [Ordered β] [Holding β]

def AnyNode.hooks? (n : Option (AnyNode β)) : List Hooks :=
  n.toList.flatMap AnyNode.hooks

@[simp]
theorem AnyNode.hooks?_some (n : AnyNode β) : AnyNode.hooks? (some n) = n.hooks := by
  simp [AnyNode.hooks?]

theorem fit_confined {α : Type} {fits : AnyNode β → Option α} {hooks : α → List Hooks}
    {hs : List Hooks} {before : Context} {p : Option (AnyNode β) × Context}
    (same : ∀ n a, fits n = some a → n.hooks = hooks a)
    (begun : Begun (AnyNode.Fresh true) before p)
    (confined : Confined hs (AnyNode.hooks? p.1) before p.2) :
    Confined hs ((AnyNode.fit fits p).1.toList.flatMap hooks) before
      (AnyNode.fit fits p).2 := by
  obtain ⟨node, ctx⟩ := p
  cases node with
  | none => exact confined
  | some n =>
    rw [AnyNode.hooks?_some] at confined
    simp only [AnyNode.fit]
    cases fitting : fits n with
    | some a => simpa [← same n a fitting] using confined
    | none =>
      -- A node that does not fit its place is released at rest.
      refine ⟨List.nil_subset _, ?_⟩
      intro I kept holds
      have created := confined.keeps I kept holds
      have hooked : ∀ h ∈ n.hooks, h.Keep I := fun h member => kept h (confined.made member)
      exact n.release_keeps ctx (begun.fresh n rfl) hooked created

theorem behavior_hooks {height : Nat} (n : AnyNode (Behavior height)) (b : Behavior (height + 1))
    (fits : Behavior.ofAny? n = some b) : n.hooks = Holding.hooks b := by
  cases n <;> cases fits
  rfl

theorem condition_hooks (n : AnyNode β) (c : Condition) (fits : n.condition? = some c) :
    n.hooks = [] := by
  cases n <;> cases fits
  rfl

theorem state_hooks (n : AnyNode β) (s : State β) (fits : n.state? = some s) :
    n.hooks = s.hooks := by
  cases n <;> cases fits
  rfl

theorem transition_hooks (n : AnyNode β) (t : Transition) (fits : n.transition? = some t) :
    n.hooks = [] := by
  cases n <;> cases fits
  rfl

theorem flatMap_no_hooks {α : Type} (l : List α) : l.flatMap (fun _ => ([] : List Hooks)) = [] := by
  rw [List.flatMap_eq_nil_iff]
  intro a _
  rfl

/-- A task comes to life with the hook of the host, and with no other. -/
theorem Task.create?_confined {number : Nat} {type : BehaviorType} {body : Body} {ctx : Context}
    {task : Task} {s : Scope} (created : create? number type body ctx.toScope = some (task, s))
    (after : Context) (same : after.toScope = s) : Confined body.hooks task.hooks ctx after := by
  subst same
  unfold create? at created
  split at created
  case h_4 attrs hooks =>
    simp only [Option.some.injEq, Prod.mk.injEq] at created
    obtain ⟨rfl, run⟩ := created
    refine ⟨List.Subset.refl _, ?_⟩
    intro I kept holds
    have initial := (kept hooks (List.mem_cons_self ..)).onInitialize
    rw [← run]
    simp only [Delegate.run]
    cases present : hooks.onInitialize with
    | none => exact holds
    | some hook => exact initial hook present _ _ holds
  case h_5 =>
    split at created
    · simp only [Option.some.injEq, Prod.mk.injEq] at created
      obtain ⟨rfl, unchanged⟩ := created
      exact (Confined.refl _ ctx).counted unchanged
    · cases created
  case h_6 => cases created
  all_goals
    simp only [Option.some.injEq, Prod.mk.injEq] at created
    obtain ⟨rfl, unchanged⟩ := created
    exact (Confined.refl _ ctx).counted unchanged

theorem leaf_confined (type : NodeType) (typeName : String) (body : Body) (ctx : Context) :
    Confined body.hooks (AnyNode.hooks? (leaf (β := β) type typeName body ctx).1.toOption) ctx
      (leaf (β := β) type typeName body ctx).2 := by
  unfold leaf
  cases type with
  | behavior t =>
    cases created : Task.create? ctx.started t body ctx.toScope with
    | none =>
      simp only [created]
      exact Confined.refl _ ctx
    | some p =>
      obtain ⟨task, s⟩ := p
      simp only [created, Except.toOption, AnyNode.hooks?_some]
      exact Task.create?_confined created _ rfl
  | condition t =>
    cases body with
    | probe p =>
      dsimp only
      split
      · exact Confined.refl _ ctx
      · exact Confined.refl _ ctx
    | _ => exact Confined.refl _ ctx
  | state => exact Confined.refl _ ctx
  | transition => exact Confined.refl _ ctx

section Rows

variable {α : Type} {hooks : α → List Hooks} {make : Context → Config → Option α × Context}
  {ctx : Context}

theorem createRow_confined {cs : List Config} {p : List α × Context}
    (made : createRow make ctx cs = p)
    (each : ∀ c ∈ cs, ∀ ctx,
      Confined c.hooks ((make ctx c).1.toList.flatMap hooks) ctx (make ctx c).2) :
    Confined (listHooks cs) (p.1.flatMap hooks) ctx p.2 := by
  subst made
  induction cs generalizing ctx with
  | nil => exact Confined.refl _ ctx
  | cons c rest ih =>
    obtain ⟨first, later⟩ := List.forall_mem_cons.mp each
    simp only [createRow, List.flatMap_append]
    exact (first ctx).trans (ih later)

theorem createOption_confined {c? : Option Config} {p : Option α × Context}
    (made : createOption make ctx c? = p)
    (each : ∀ c ∈ c?.toList, ∀ ctx,
      Confined c.hooks ((make ctx c).1.toList.flatMap hooks) ctx (make ctx c).2) :
    Confined (optionHooks c?) (p.1.toList.flatMap hooks) ctx p.2 := by
  subst made
  cases c? with
  | none => exact Confined.refl _ ctx
  | some c => exact each c (List.mem_singleton_self c) ctx

end Rows

theorem statesHooks_eq (cs : List (String × Config)) :
    statesHooks cs = listHooks (cs.map Prod.snd) := by
  induction cs with
  | nil => rfl
  | cons c rest ih => rw [statesHooks, ih, List.map_cons, listHooks]

def Config.Confines (r : Registry) (c : Config) : Prop :=
  ∀ height ctx,
    Confined c.hooks (AnyNode.hooks? (create r height ctx c).1) ctx (create r height ctx c).2

variable {r : Registry}

theorem createFor_confined {height : Nat} {α : Type} {fits : AnyNode (Behavior height) → Option α}
    {hooks : α → List Hooks} (same : ∀ n a, fits n = some a → n.hooks = hooks a) {c : Config}
    (confines : c.Confines r) (ctx : Context) :
    Confined c.hooks ((createFor r height fits ctx c).1.toList.flatMap hooks) ctx
      (createFor r height fits ctx c).2 :=
  fit_confined same (create_begun true r height ctx c) (confines height ctx)

theorem createBehavior_confined {c : Config} (confines : c.Confines r) (height : Nat)
    (ctx : Context) :
    Confined c.hooks ((createBehavior r height ctx c).1.toList.flatMap Holding.hooks) ctx
      (createBehavior r height ctx c).2 := by
  cases height with
  | zero => exact Confined.refl _ ctx
  | succ height => exact createFor_confined behavior_hooks confines ctx

theorem createCondition_confined {height : Nat} {c : Config} (confines : c.Confines r)
    (ctx : Context) :
    Confined c.hooks
      ((createFor r height AnyNode.condition? ctx c).1.toList.flatMap fun _ => []) ctx
      (createFor r height AnyNode.condition? ctx c).2 :=
  createFor_confined condition_hooks confines ctx

theorem instantiate_confined_of_below {body : Body} (below : ∀ c ∈ body.children, c.Confines r)
    (height : Nat) (ctx : Context) (type : NodeType) (typeName : String) :
    Confined body.hooks (AnyNode.hooks? (instantiate r height ctx type typeName body).1.toOption)
      ctx (instantiate r height ctx type typeName body).2 := by
  have outcome := instantiate_outcome r height ctx type typeName body
  generalize instantiate r height ctx type typeName body = p at outcome ⊢
  cases outcome with
  | childless => exact leaf_confined type typeName body ctx
  | unsuited => exact Confined.refl _ ctx
  | sequence made =>
    have confined := createRow_confined made fun c member =>
      createBehavior_confined (below c member) height
    simp only [Except.toOption, AnyNode.hooks?_some]
    exact confined
  | parallel made =>
    have confined := createRow_confined made fun c member =>
      createBehavior_confined (below c member) height
    simp only [Except.toOption, AnyNode.hooks?_some, AnyNode.hooks, Holding.hooks, Logic.hooks,
      List.flatMap_map]
    exact confined
  | negation made =>
    have confined := createOption_confined made fun c member =>
      createCondition_confined (below c member)
    rw [flatMap_no_hooks] at confined
    exact confined
  | empty e made =>
    exact createOption_confined made fun c member => createCondition_confined (below c member)
  | junction made =>
    have confined := createRow_confined made fun c member =>
      createCondition_confined (below c member)
    rw [flatMap_no_hooks] at confined
    exact confined
  | machine made positions known =>
    have confined := createRow_confined made fun c member =>
      createFor_confined state_hooks (below c member)
    simp only [Except.toOption, AnyNode.hooks?_some, Body.hooks, statesHooks_eq]
    exact confined
  | astray e made =>
    have confined := createRow_confined made fun c member =>
      createFor_confined state_hooks (below c member)
    have begun := createRow_begun made fun c _ =>
      createFor_begun (state_fresh true) fun height ctx => create_begun true r height ctx c
    rw [Body.hooks, statesHooks_eq]
    -- The states are released, each of them at rest.
    refine ⟨List.nil_subset _, ?_⟩
    intro I kept holds
    refine keeps_foldl ?_ (confined.keeps I kept holds)
    intro s member ctx
    refine s.release_keeps ctx ⟨?_, ?_⟩
    · intro h inside
      exact kept h (confined.made (subset_flatMap_of_mem State.hooks member inside))
    · obtain ⟨resting, orderly⟩ := begun.fresh s member
      rw [State.receivers_resting orderly resting]
      exact fun _ inside => absurd inside List.not_mem_nil
  | state first second last =>
    obtain ⟨pair, moves⟩ := List.forall_mem_append.mp below
    obtain ⟨behaviors, exits⟩ := List.forall_mem_append.mp pair
    have behaviorConfined := createOption_confined first fun c member =>
      createBehavior_confined (behaviors c member) height
    have exitConfined := createOption_confined second fun c member =>
      createBehavior_confined (exits c member) height
    have transitionsConfined := createRow_confined last fun c member =>
      createFor_confined transition_hooks (moves c member)
    have confined := (behaviorConfined.trans exitConfined).trans transitionsConfined
    rw [flatMap_no_hooks, List.append_nil] at confined
    simp only [Except.toOption, AnyNode.hooks?_some]
    exact confined
  | transition made =>
    have confined := createOption_confined made fun c member =>
      createCondition_confined (below c member)
    rw [flatMap_no_hooks] at confined
    exact confined
  | unconditioned e made =>
    exact createOption_confined made fun c member => createCondition_confined (below c member)

theorem create_confined (r : Registry) (height : Nat) (ctx : Context) (c : Config) :
    Confined c.hooks (AnyNode.hooks? (create r height ctx c).1) ctx
      (create r height ctx c).2 := by
  induction c using Config.byChildren generalizing height ctx with
  | node typeName category body below =>
    have confined := fun type => instantiate_confined_of_below below height ctx type typeName
    have creation := create_creation r height ctx typeName category body
    generalize create r height ctx ⟨typeName, category, body⟩ = p at creation ⊢
    cases creation with
    | unknown => exact Confined.refl _ ctx
    | @made type n after initialized =>
      have made := confined type
      rw [initialized] at made
      exact made.counted rfl
    | @failed type e after initialized =>
      have failed := confined type
      rwa [initialized] at failed

theorem instantiate_confined (r : Registry) (height : Nat) (ctx : Context) (type : NodeType)
    (typeName : String) (body : Body) :
    Confined body.hooks (AnyNode.hooks? (instantiate r height ctx type typeName body).1.toOption)
      ctx (instantiate r height ctx type typeName body).2 :=
  instantiate_confined_of_below (fun c _ height ctx => create_confined r height ctx c) height ctx
    type typeName

end SkillScript
