import SkillScript.Proofs.Census.Release
import SkillScript.Proofs.Tree.Rows
/-!
# What a creation adds to the census

Creating a node from any configuration adds exactly the nodes of the tree that it
returns, and nothing if there is none: whatever was created for a node that cannot
be initialized, or that does not fit its place, is settled on the spot.
-/
set_option autoImplicit false
namespace SkillScript

open Census (Grows)

variable {β : Type} [Behaves β] [Lasting β] [Outlined β]

def AnyNode.labels? (part : Part) (n : Option (AnyNode β)) : List Label :=
  n.toList.flatMap fun n => (n.outline part).labels

/-- An initialization grew the census by the nodes of a tree, but for its root, or failed without
a trace. -/
def Initialized (part : Part) (before : Census) :
    Except NodeError (AnyNode β) × Context → Prop
  | (.ok n, after) => Grows before after.toCensus.born (n.outline part).labels
  | (.error _, after) => Grows before after.toCensus []

theorem Census.Grows.initialized {part : Part} {before : Census} {after : Context}
    {n : AnyNode β} {ls : List Label} (grown : Grows before after.toCensus ls) (t : NodeType)
    (labelled : (n.outline part).labels = ⟨t, none⟩ :: ls) :
    Initialized part before (.ok n, after) := by
  show Grows before after.toCensus.born (n.outline part).labels
  rw [labelled]
  exact grown.born t

theorem fit_grows [Behaves.Settles β] {α : Type} {fits : AnyNode β → Option α}
    {labels : α → List Label} {part : Part} {before : Census}
    {p : Option (AnyNode β) × Context}
    (kept : ∀ n a, fits n = some a → (n.outline part).labels = labels a)
    (grown : Grows before p.2.toCensus (AnyNode.labels? part p.1)) :
    Grows before (AnyNode.fit fits p).2.toCensus
      ((AnyNode.fit fits p).1.toList.flatMap labels) := by
  obtain ⟨node, ctx⟩ := p
  cases node with
  | none => exact grown
  | some n =>
    simp only [AnyNode.labels?, Option.toList_some, List.flatMap_singleton] at grown
    simp only [AnyNode.fit]
    cases fitting : fits n with
    | some a => simpa [← kept n a fitting] using grown
    | none =>
      have settled := grown.settled
      rw [← n.toCensus_release part ctx] at settled
      exact settled

/-- A behavior that the host runs gets the number that is offered; no other task gets one. -/
theorem Task.number?_create? {number : Nat} {type : BehaviorType} {body : Body} {s s' : Scope}
    {task : Task} (created : create? number type body s = some (task, s')) :
    task.number? = none ∨ task.number? = some number := by
  unfold create? at created
  split at created
  case h_4 =>
    simp only [Option.some.injEq, Prod.mk.injEq] at created
    exact Or.inr (by rw [← created.1]; rfl)
  case h_5 =>
    split at created
    · simp only [Option.some.injEq, Prod.mk.injEq] at created
      exact Or.inl (by rw [← created.1]; rfl)
    · cases created
  case h_6 => cases created
  all_goals
    simp only [Option.some.injEq, Prod.mk.injEq] at created
    exact Or.inl (by rw [← created.1]; rfl)

theorem leaf_initialized (part : Part) (type : NodeType) (typeName : String) (body : Body)
    (ctx : Context) :
    Initialized part ctx.toCensus (leaf (β := β) type typeName body ctx) := by
  unfold leaf
  cases type with
  | behavior t =>
    cases created : Task.create? ctx.started t body ctx.toScope with
    | none =>
      simp only [created]
      exact Grows.refl _
    | some p =>
      obtain ⟨task, s⟩ := p
      simp only [created]
      show Grows ctx.toCensus (ctx.toCensus.opened task.number?).born
        [⟨.behavior task.type, task.number?⟩]
      rcases Task.number?_create? created with unnumbered | numbered
      · rw [unnumbered]
        exact (Grows.refl _).born _
      · rw [numbered]
        exact Grows.opened _ _
  | condition t =>
    cases body with
    | probe p =>
      dsimp only
      split
      · exact (Grows.refl _).born _
      · exact Grows.refl _
    | _ => exact Grows.refl _
  | state => exact Grows.refl _
  | transition => exact Grows.refl _

theorem behavior_kept {height : Nat} (part : Part) (n : AnyNode (Behavior height))
    (b : Behavior (height + 1)) (fits : Behavior.ofAny? n = some b) :
    (n.outline part).labels = (outline part b).labels := by
  cases n with
  | behavior n =>
    cases fits
    rfl
  | _ => cases fits

theorem condition_kept (part : Part) (n : AnyNode β) (c : Condition)
    (fits : n.condition? = some c) : (n.outline part).labels = (c.outline part).labels := by
  cases n <;> cases fits
  rfl

theorem state_kept (part : Part) (n : AnyNode β) (s : State β) (fits : n.state? = some s) :
    (n.outline part).labels = (s.outline part).labels := by
  cases n <;> cases fits
  rfl

theorem transition_kept (part : Part) (n : AnyNode β) (t : Transition)
    (fits : n.transition? = some t) : (n.outline part).labels = (t.outline part).labels := by
  cases n <;> cases fits
  rfl

section Rows

variable {α : Type} {labels : α → List Label} {make : Context → Config → Option α × Context}
  {ctx : Context}

theorem createRow_grows {cs : List Config} {p : List α × Context}
    (made : createRow make ctx cs = p)
    (each : ∀ c ∈ cs, ∀ ctx,
      Grows ctx.toCensus (make ctx c).2.toCensus ((make ctx c).1.toList.flatMap labels)) :
    Grows ctx.toCensus p.2.toCensus (p.1.flatMap labels) := by
  subst made
  induction cs generalizing ctx with
  | nil => exact Grows.refl _
  | cons c rest ih =>
    obtain ⟨first, later⟩ := List.forall_mem_cons.mp each
    simp only [createRow, List.flatMap_append]
    exact (first ctx).trans (ih later)

theorem createOption_grows {c? : Option Config} {p : Option α × Context}
    (made : createOption make ctx c? = p)
    (each : ∀ c ∈ c?.toList, ∀ ctx,
      Grows ctx.toCensus (make ctx c).2.toCensus ((make ctx c).1.toList.flatMap labels)) :
    Grows ctx.toCensus p.2.toCensus (p.1.toList.flatMap labels) := by
  subst made
  cases c? with
  | none => exact Grows.refl _
  | some c => exact each c (List.mem_singleton_self c) ctx

end Rows

def Config.Adds (r : Registry) (c : Config) : Prop :=
  ∀ (height : Nat) (part : Part) (ctx : Context),
    Grows ctx.toCensus (create r height ctx c).2.toCensus
      (AnyNode.labels? part (create r height ctx c).1)

variable {r : Registry}

theorem createFor_grows {height : Nat} {α : Type} {fits : AnyNode (Behavior height) → Option α}
    {labels : α → List Label} {part : Part}
    (kept : ∀ n a, fits n = some a → (n.outline part).labels = labels a) {c : Config}
    (adds : c.Adds r) (ctx : Context) :
    Grows ctx.toCensus (createFor r height fits ctx c).2.toCensus
      ((createFor r height fits ctx c).1.toList.flatMap labels) :=
  fit_grows kept (adds height part ctx)

theorem createBehavior_grows (part : Part) {c : Config} (adds : c.Adds r) (height : Nat)
    (ctx : Context) :
    Grows ctx.toCensus (createBehavior r height ctx c).2.toCensus
      ((createBehavior r height ctx c).1.toList.flatMap fun b => (outline part b).labels) := by
  cases height with
  | zero => exact Grows.refl _
  | succ height => exact createFor_grows (behavior_kept part) adds ctx

theorem createCondition_grows {height : Nat} {c : Config} (adds : c.Adds r) (ctx : Context) :
    Grows ctx.toCensus (createFor r height AnyNode.condition? ctx c).2.toCensus
      ((createFor r height AnyNode.condition? ctx c).1.toList.flatMap fun k =>
        (k.outline .condition).labels) :=
  createFor_grows (condition_kept .condition) adds ctx

theorem instantiate_initialized {body : Body} (below : ∀ c ∈ body.children, c.Adds r)
    (height : Nat) (part : Part) (ctx : Context) (type : NodeType) (typeName : String) :
    Initialized part ctx.toCensus (instantiate r height ctx type typeName body) := by
  have outcome := instantiate_outcome r height ctx type typeName body
  generalize instantiate r height ctx type typeName body = p at outcome ⊢
  cases outcome with
  | childless => exact leaf_initialized part type typeName body ctx
  | unsuited => exact Grows.refl _
  | sequence made =>
    have grown := createRow_grows made fun c member =>
      createBehavior_grows .child (below c member) height
    refine grown.initialized (.behavior .sequence) ?_
    simp [AnyNode.outline, Node.outline_eq, Logic.type, Logic.number?, Logic.parts,
      List.flatMap_map]
  | parallel made =>
    have grown := createRow_grows made fun c member =>
      createBehavior_grows .child (below c member) height
    refine grown.initialized (.behavior .parallel) ?_
    simp [AnyNode.outline, Node.outline_eq, Logic.type, Logic.number?, Logic.parts,
      List.flatMap_map]
  | negation made =>
    have grown := createOption_grows made fun c member => createCondition_grows (below c member)
    refine grown.initialized (.condition .not) ?_
    simp [AnyNode.outline, Condition.outline, Condition.outlineAll, Gate.type]
  | empty e made =>
    exact createOption_grows made fun c member => createCondition_grows (below c member)
  | @junction g _ _ _ made =>
    have grown := createRow_grows made fun c member => createCondition_grows (below c member)
    refine grown.initialized (.condition g.type) ?_
    simp [AnyNode.outline, Condition.outline, Condition.outlineAll_eq, List.flatMap_map]
  | machine made positions known =>
    have grown := createRow_grows made fun c member =>
      createFor_grows (state_kept .state) (below c member)
    refine grown.initialized (.behavior .fsm) ?_
    simp [AnyNode.outline, Node.outline_eq, Logic.type, Logic.number?, Logic.parts,
      List.flatMap_map]
  | astray e made =>
    have grown := createRow_grows made fun c member =>
      createFor_grows (state_kept .state) (below c member)
    have settled := grown.settled
    rw [← Census.settle_foldl (State.toCensus_release .state)] at settled
    exact settled
  | state first second last =>
    obtain ⟨pair, moves⟩ := List.forall_mem_append.mp below
    obtain ⟨behaviors, exits⟩ := List.forall_mem_append.mp pair
    have behaviorGrown := createOption_grows first fun c member =>
      createBehavior_grows .behavior (behaviors c member) height
    have exitGrown := createOption_grows second fun c member =>
      createBehavior_grows .exit (exits c member) height
    have transitionsGrown := createRow_grows last fun c member =>
      createFor_grows (transition_kept .transition) (moves c member)
    refine ((behaviorGrown.trans exitGrown).trans transitionsGrown).initialized .state ?_
    simp [AnyNode.outline, State.outline, List.flatMap_map]
  | transition made =>
    have grown := createOption_grows made fun c member => createCondition_grows (below c member)
    refine grown.initialized .transition ?_
    simp [AnyNode.outline, Transition.outline, Transition.ofCondition, Transition.rearm]
  | unconditioned e made =>
    exact createOption_grows made fun c member => createCondition_grows (below c member)

theorem create_grows (r : Registry) (height : Nat) (part : Part) (ctx : Context) (c : Config) :
    Grows ctx.toCensus (create r height ctx c).2.toCensus
      (AnyNode.labels? part (create r height ctx c).1) := by
  induction c using Config.byChildren generalizing height part ctx with
  | node typeName category body below =>
    have grown := fun type => instantiate_initialized below height part ctx type typeName
    have creation := create_creation r height ctx typeName category body
    generalize create r height ctx ⟨typeName, category, body⟩ = p at creation ⊢
    cases creation with
    | unknown => exact Grows.refl _
    | @made type n after initialized =>
      show Grows ctx.toCensus after.toCensus.born (AnyNode.labels? part (some n))
      simp only [AnyNode.labels?, Option.toList_some, List.flatMap_singleton]
      have made := grown type
      rwa [initialized] at made
    | @failed type e after initialized =>
      have failed := grown type
      rwa [initialized] at failed

end SkillScript
