import SkillScript.Node.Handle
import SkillScript.Proofs.Tree.Rows
/-!
# What creations return

The results of creations without the contexts that they leave: what a node with
required children is made of, and when there is none. Whether there is a node, and
of which type, does not depend on the context.
-/
set_option autoImplicit false
namespace SkillScript

/-- A task has the type that was asked for. -/
theorem Task.type_create? {number : Nat} {type : BehaviorType} {body : Body} {s s' : Scope}
    {task : Task} (created : create? number type body s = some (task, s')) :
    task.type = type := by
  unfold create? at created
  split at created
  case h_5 =>
    split at created
    · rename_i same
      simp only [Option.some.injEq, Prod.mk.injEq] at created
      rw [← created.1, ← same]
      rfl
    · cases created
  case h_6 => cases created
  all_goals
    simp only [Option.some.injEq, Prod.mk.injEq] at created
    rw [← created.1]
    rfl

variable {β : Type} [Behaves β]

theorem AnyNode.fst_fit {α : Type} (fits : AnyNode β → Option α)
    (p : Option (AnyNode β) × Context) : (fit fits p).1 = p.1.bind fits := by
  obtain ⟨node, ctx⟩ := p
  cases node with
  | none => rfl
  | some n =>
    simp only [fit, Option.bind_some]
    cases fits n <;> rfl

/-- What is created for the place of a behavior is a behavior. -/
theorem Handle.create?_behavior {r : Registry} {ctx : Context} {c : Config} {h : Handle}
    (created : (Handle.create? r ctx (some .behavior) c).1 = some h) :
    ∃ n : Node (Behavior c.height), (create r c.height ctx c).1 = some (.behavior n) ∧
      h = Handle.live c.height (.behavior n) := by
  rw [Handle.create?, AnyNode.fst_fit] at created
  obtain ⟨node, made, fits⟩ := Option.bind_eq_some_iff.mp created
  cases node with
  | behavior n =>
    cases fits
    exact ⟨n, made, rfl⟩
  | _ => cases fits

variable (r : Registry) (height : Nat) (ctx : Context)

theorem fst_create (typeName : String) (category : Category) (body : Body) :
    (create r height ctx ⟨typeName, category, body⟩).1 =
      (r.find? typeName).bind fun entry =>
        (instantiate r height ctx entry.implementation typeName body).1.toOption := by
  unfold create
  cases r.find? typeName with
  | none => rfl
  | some entry =>
    simp only [Option.bind_some]
    split <;> rename_i made <;> rw [made] <;> rfl

theorem fst_negation (typeName : String) (c? : Option Config) :
    (instantiate r height ctx (.condition .not) typeName (.negation c?)).1.toOption =
      (createCondition? r height ctx c?).1.map fun c =>
        AnyNode.condition (.gate false .not [c]) := by
  unfold instantiate
  rw [if_pos rfl]
  split <;> rename_i made <;> rw [made] <;> rfl

theorem fst_fsm (typeName initial : String) (cs : List (String × Config)) :
    (instantiate r height ctx (.behavior .fsm) typeName (.fsm initial cs)).1.toOption =
      if (createStates r height ctx 0 ∅ cs).2.1.contains initial then
        some (AnyNode.behavior { logic := .machine ⟨(createStates r height ctx 0 ∅ cs).1,
          (createStates r height ctx 0 ∅ cs).2.1, initial, none, 0⟩ })
      else none := by
  unfold instantiate
  rw [if_pos rfl]
  dsimp only
  split <;> rfl

theorem fst_transition (typeName : String) (c? : Option Config)
    (onTrue onFalse : Option String) (interval : Param Float32) :
    (instantiate r height ctx .transition typeName
        (.transition c? onTrue onFalse interval)).1.toOption =
      (createCondition? r height ctx c?).1.map fun c =>
        AnyNode.transition (.ofCondition c onTrue onFalse interval
          (createCondition? r height ctx c?).2.vars) := by
  unfold instantiate
  rw [if_pos rfl]
  split <;> rename_i made <;> rw [made] <;> rfl

/-! ## Whether something is created

Whether a configuration can be instantiated, and the type of the node that it makes,
are the same in every context. -/

/-- A place takes the nodes of one kind. -/
def AnyNode.Takes {β α : Type} (fits : AnyNode β → Option α) (slot : Slot) : Prop :=
  ∀ n, (fits n).isSome = decide (n.type.slot = slot)

omit [Behaves β] in
theorem AnyNode.condition_takes : Takes (condition? : AnyNode β → Option Condition) .condition := by
  intro n
  cases n <;> rfl

omit [Behaves β] in
theorem AnyNode.state_takes : Takes (state? : AnyNode β → Option (State β)) .state := by
  intro n
  cases n <;> rfl

theorem AnyNode.behavior_takes (height : Nat) :
    Takes (Behavior.ofAny? : AnyNode (Behavior height) → Option (Behavior (height + 1)))
      .behavior := by
  intro n
  cases n <;> rfl

theorem AnyNode.Takes.isSome_fit {α : Type} {fits : AnyNode β → Option α} {slot : Slot}
    (takes : Takes fits slot) (p : Option (AnyNode β) × Context) :
    (fit fits p).1.isSome = (p.1.map type).any fun t => t.slot = slot := by
  rw [fst_fit]
  cases p.1 with
  | none => rfl
  | some n => exact takes n

theorem AnyNode.Takes.isSome_congr {α : Type} {fits : AnyNode β → Option α} {slot : Slot}
    (takes : Takes fits slot) {p p' : Option (AnyNode β) × Context}
    (same : p.1.map type = p'.1.map type) :
    (fit fits p).1.isSome = (fit fits p').1.isSome := by
  rw [takes.isSome_fit, takes.isSome_fit, same]

theorem map_eq_of_const {α γ : Type} {f f' : α → γ} {c : γ} (const : ∀ a, f a = c)
    (const' : ∀ a, f' a = c) {o o' : Option α} (same : o.isSome = o'.isSome) :
    o.map f = o'.map f' := by
  cases o with
  | none =>
    cases o' with
    | none => rfl
    | some a' => cases same
  | some a =>
    cases o' with
    | none => cases same
    | some a' => rw [Option.map_some, Option.map_some, const, const']

theorem Task.isSome_create? (number number' : Nat) (type : BehaviorType) (body : Body)
    (s s' : Scope) :
    (create? number type body s).isSome = (create? number' type body s').isSome := by
  unfold create?
  split
  case h_5 => split <;> rfl
  all_goals rfl

omit [Behaves β] in
theorem type_leaf (type : NodeType) (typeName : String) (body : Body) (ctx ctx' : Context) :
    (leaf (β := β) type typeName body ctx).1.toOption.map AnyNode.type =
      (leaf (β := β) type typeName body ctx').1.toOption.map AnyNode.type := by
  unfold leaf
  cases type with
  | behavior t =>
    have same := Task.isSome_create? ctx.started ctx'.started t body ctx.toScope ctx'.toScope
    cases first : Task.create? ctx.started t body ctx.toScope with
    | none =>
      rw [first, Option.isSome_none, eq_comm, Option.isSome_eq_false_iff,
        Option.isNone_iff_eq_none] at same
      simp only [first, same]
    | some p =>
      rw [first, Option.isSome_some, eq_comm, Option.isSome_iff_exists] at same
      obtain ⟨p', second⟩ := same
      have type : p.1.type = t := Task.type_create? first
      have type' : p'.1.type = t := Task.type_create? second
      simp only [first, second, Except.toOption, Option.map_some, AnyNode.type, Logic.type, type,
        type']
  | condition t =>
    cases body with
    | probe p =>
      dsimp only
      split <;> rfl
    | _ => rfl
  | state => rfl
  | transition => rfl

def Config.Settled (r : Registry) (height : Nat) (c : Config) : Prop :=
  ∀ ctx ctx',
    (create r height ctx c).1.map AnyNode.type = (create r height ctx' c).1.map AnyNode.type

variable {r height}

theorem isSome_createCondition? {c? : Option Config}
    (settled : ∀ c ∈ c?.toList, c.Settled r height) (ctx ctx' : Context) :
    (createCondition? r height ctx c?).1.isSome =
      (createCondition? r height ctx' c?).1.isSome := by
  rw [createCondition?_eq, createCondition?_eq]
  cases c? with
  | none => rfl
  | some c =>
    exact AnyNode.condition_takes.isSome_congr (settled c (List.mem_singleton_self c) ctx ctx')

theorem index_createStates_of_settled {cs : List (String × Config)}
    (settled : ∀ c ∈ cs.map Prod.snd, c.Settled r height) (ctx ctx' : Context) (next : Nat)
    (index : Table String Nat) :
    (createStates r height ctx next index cs).2.1 =
      (createStates r height ctx' next index cs).2.1 := by
  induction cs generalizing ctx ctx' next index with
  | nil => rfl
  | cons c rest ih =>
    obtain ⟨first, later⟩ := List.forall_mem_cons.mp settled
    have same := AnyNode.state_takes.isSome_congr (first ctx ctx')
    unfold createStates
    generalize AnyNode.fit AnyNode.state? (create r height ctx c.2) = p at same ⊢
    generalize AnyNode.fit AnyNode.state? (create r height ctx' c.2) = p' at same ⊢
    obtain ⟨s?, after⟩ := p
    obtain ⟨s?', after'⟩ := p'
    cases s? with
    | none =>
      cases s?' with
      | none => exact ih later after after' next index
      | some s' => cases same
    | some s =>
      cases s?' with
      | none => cases same
      | some s' => exact ih later after after' (next + 1) (index.insert c.1 next)

theorem type_instantiate {body : Body} (below : ∀ c ∈ body.children, c.Settled r height)
    (ctx ctx' : Context) (type : NodeType) (typeName : String) :
    (instantiate r height ctx type typeName body).1.toOption.map AnyNode.type =
      (instantiate r height ctx' type typeName body).1.toOption.map AnyNode.type := by
  cases body with
  | composite children =>
    unfold instantiate
    split <;> rfl
  | negation condition =>
    by_cases fits : type = .condition .not
    · subst fits
      rw [fst_negation, fst_negation, Option.map_map, Option.map_map]
      exact map_eq_of_const (c := NodeType.condition .not) (fun _ => rfl) (fun _ => rfl)
        (isSome_createCondition? below ctx ctx')
    · unfold instantiate
      rw [if_neg fits, if_neg fits]
  | junction conditions =>
    unfold instantiate
    split <;> rfl
  | fsm initial states =>
    by_cases fits : type = .behavior .fsm
    · subst fits
      rw [fst_fsm, fst_fsm, index_createStates_of_settled below ctx ctx' 0 ∅]
      split <;> rfl
    · unfold instantiate
      rw [if_neg fits, if_neg fits]
  | state id endEvent behavior exit transitions =>
    unfold instantiate
    split <;> rfl
  | transition condition onTrue onFalse interval =>
    by_cases fits : type = .transition
    · subst fits
      rw [fst_transition, fst_transition, Option.map_map, Option.map_map]
      exact map_eq_of_const (c := NodeType.transition) (fun _ => rfl) (fun _ => rfl)
        (isSome_createCondition? below ctx ctx')
    · unfold instantiate
      rw [if_neg fits, if_neg fits]
  | _ => exact type_leaf type typeName _ ctx ctx'

theorem type_create (r : Registry) (height : Nat) (ctx ctx' : Context) (c : Config) :
    (create r height ctx c).1.map AnyNode.type = (create r height ctx' c).1.map AnyNode.type := by
  induction c using Config.byChildren generalizing ctx ctx' with
  | node typeName category body below =>
    rw [fst_create, fst_create]
    cases r.find? typeName with
    | none => rfl
    | some entry => exact type_instantiate below ctx ctx' entry.implementation typeName

theorem index_createStates (r : Registry) (height : Nat) (ctx ctx' : Context) (next : Nat)
    (index : Table String Nat) (cs : List (String × Config)) :
    (createStates r height ctx next index cs).2.1 =
      (createStates r height ctx' next index cs).2.1 :=
  index_createStates_of_settled (fun c _ ctx ctx' => type_create r height ctx ctx' c) ctx ctx' next
    index

/-- A configuration of which a behavior was created somewhere makes a behavior everywhere. -/
theorem isSome_fit_behavior (r : Registry) (height : Nat) (ctx ctx' : Context) (c : Config) :
    (AnyNode.fit Behavior.ofAny? (create r height ctx c)).1.isSome =
      (AnyNode.fit Behavior.ofAny? (create r height ctx' c)).1.isSome :=
  (AnyNode.behavior_takes height).isSome_congr (type_create r height ctx ctx' c)

end SkillScript
