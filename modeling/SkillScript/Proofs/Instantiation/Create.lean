import SkillScript.Proofs.Instantiation.Sound
import SkillScript.Proofs.Tree.Create
import SkillScript.Proofs.Tree.Outline
import SkillScript.Proofs.Tree.Rows
/-!
# Sound configurations are instantiated

A sound configuration is created without a loss: there is a node of the registered
type for every configuration, at the same place of the tree. So every category that
was checked by the reader is one that the place of the node accepts, and whatever a
node requires is there.
-/
set_option autoImplicit false
namespace SkillScript

variable {β : Type} [Behaves β] [Lasting β] [Outlined β]

def Outline.types (o : Outline Label) : Outline (Option NodeType) :=
  o.map fun l => some l.type

def Registry.types (r : Registry) (o : Outline String) : Outline (Option NodeType) :=
  o.map fun name => (r.find? name).map (·.implementation)

/-! ## Places -/

namespace NodeType

theorem slot_of_behavior {t : NodeType} (fits : t.category.satisfies .behavior = true) :
    t.slot = .behavior := by
  cases t with
  | behavior b => rfl
  | condition c => cases c <;> cases fits
  | state => cases fits
  | transition => cases fits

theorem slot_of_condition {t : NodeType} (fits : t.category.satisfies .condition = true) :
    t.slot = .condition := by
  cases t with
  | behavior b => cases b <;> cases fits
  | condition c => rfl
  | state => cases fits
  | transition => cases fits

theorem slot_of_state {t : NodeType} (fits : t.category.satisfies .state = true) :
    t.slot = .state := by
  cases t with
  | behavior b => cases b <;> cases fits
  | condition c => cases c <;> cases fits
  | state => rfl
  | transition => cases fits

theorem slot_of_transition {t : NodeType} (fits : t.category.satisfies .stateTransition = true) :
    t.slot = .transition := by
  cases t with
  | behavior b => cases b <;> cases fits
  | condition c => cases c <;> cases fits
  | state => cases fits
  | transition => rfl

end NodeType

structure Complete (r : Registry) (part : Part) (c : Config) (n : AnyNode β) : Prop where
  category : n.type.category = c.category
  outline : (n.outline part).types = r.types (c.outline part)

/-- What was created for a configuration is kept by a place that accepts its category. -/
theorem fit_complete {α : Type} {fits : AnyNode β → Option α} {outline : α → Outline Label}
    {r : Registry} {part : Part} {c : Config} {expected : Category}
    {p : Option (AnyNode β) × Context}
    (accepts : ∀ n : AnyNode β, n.type.category.satisfies expected = true →
      ∃ a, fits n = some a ∧ n.outline part = outline a)
    (fitting : c.category.satisfies expected = true)
    (created : ∃ n, p.1 = some n ∧ Complete r part c n) :
    ∃ a, (AnyNode.fit fits p).1 = some a ∧ (outline a).types = r.types (c.outline part) := by
  obtain ⟨n, made, complete⟩ := created
  obtain ⟨a, kept, same⟩ := accepts n (by rw [complete.category]; exact fitting)
  refine ⟨a, ?_, ?_⟩
  · rw [AnyNode.fst_fit, made]
    exact kept
  · rw [← same]
    exact complete.outline

theorem accepts_behavior {height : Nat} (part : Part) (n : AnyNode (Behavior height))
    (fits : n.type.category.satisfies .behavior = true) :
    ∃ b : Behavior (height + 1), Behavior.ofAny? n = some b ∧
      n.outline part = outline part b := by
  have slot := NodeType.slot_of_behavior fits
  cases n with
  | behavior n => exact ⟨n, rfl, rfl⟩
  | _ => cases slot

theorem accepts_condition (part : Part) (n : AnyNode β)
    (fits : n.type.category.satisfies .condition = true) :
    ∃ c, n.condition? = some c ∧ n.outline part = c.outline part := by
  have slot := NodeType.slot_of_condition fits
  cases n with
  | condition c => exact ⟨c, rfl, rfl⟩
  | _ => cases slot

theorem accepts_state (part : Part) (n : AnyNode β)
    (fits : n.type.category.satisfies .state = true) :
    ∃ s, n.state? = some s ∧ n.outline part = s.outline part := by
  have slot := NodeType.slot_of_state fits
  cases n with
  | state s => exact ⟨s, rfl, rfl⟩
  | _ => cases slot

theorem accepts_transition (part : Part) (n : AnyNode β)
    (fits : n.type.category.satisfies .stateTransition = true) :
    ∃ t, n.transition? = some t ∧ n.outline part = t.outline part := by
  have slot := NodeType.slot_of_transition fits
  cases n with
  | transition t => exact ⟨t, rfl, rfl⟩
  | _ => cases slot

/-! ## Leaves -/

/-- A node was made of the given type, with the given parts. -/
structure Made (r : Registry) (part : Part) (type : NodeType) (parts : List (Outline String))
    (n : AnyNode β) : Prop where
  typed : n.type = type
  outline : (n.outline part).types = .node part (some type) (parts.map r.types)

def Makes (r : Registry) (part : Part) (type : NodeType) (parts : List (Outline String))
    (o : Option (AnyNode β)) : Prop :=
  ∃ n, o = some n ∧ Made r part type parts n

/-- A node is complete if its parts are. -/
theorem types_node {r : Registry} {part : Part} {type : NodeType} {below : List (Outline Label)}
    {parts : List (Outline String)} (same : below.map Outline.types = parts.map r.types) :
    (Outline.node part (⟨type, none⟩ : Label) below).types =
      .node part (some type) (parts.map r.types) := by
  rw [Outline.types, Outline.map_node]
  exact congrArg (Outline.node part (some type)) same

theorem task_made (r : Registry) (part : Part) {t : BehaviorType} (typeName : String)
    {body : Body} {ctx : Context} {task : Task} {s : Scope}
    (created : Task.create? ctx.started t body ctx.toScope = some (task, s)) :
    Makes r part (.behavior t) [] (leaf (β := β) (.behavior t) typeName body ctx).1.toOption := by
  have type := Task.type_create? created
  refine ⟨.behavior { logic := .task task }, ?_, ?_, ?_⟩
  · unfold leaf
    dsimp only
    rw [created]
    rfl
  · exact congrArg NodeType.behavior type
  · exact congrArg (fun t => Outline.node part (some (NodeType.behavior t)) []) type

theorem sensor_made (r : Registry) (part : Part) (typeName : String) (p : Probe) (ctx : Context) :
    Makes r part (.condition p.type) []
      (leaf (β := β) (.condition p.type) typeName (.probe p) ctx).1.toOption := by
  have type : (Sensor.ofProbe p).type = p.type := by cases p <;> rfl
  refine ⟨.condition (.sensor false (.ofProbe p)), ?_, ?_, ?_⟩
  · unfold leaf
    dsimp only
    rw [if_pos rfl]
    rfl
  · exact congrArg NodeType.condition type
  · exact congrArg (fun t => Outline.node part (some (NodeType.condition t)) []) type

/-! ## Trees -/

theorem Made.complete {r : Registry} {part : Part} {typeName : String} {entry : Registration}
    {body : Body} {n : AnyNode β} (found : r.find? typeName = some entry)
    (made : Made r part entry.implementation body.parts n) :
    Complete r part ⟨typeName, entry.implementation.category, body⟩ n where
  category := congrArg NodeType.category made.typed
  outline := by
    rw [made.outline, Config.outline, Registry.types, Outline.map_node, found]
    rfl

theorem listSound_iff {r : Registry} {expected : Category} (cs : List Config) :
    listSound r expected cs ↔
      ∀ c ∈ cs, c.category.satisfies expected = true ∧ c.Sound r := by
  induction cs with
  | nil => simp [listSound]
  | cons c rest ih => rw [listSound, ih, List.forall_mem_cons]

theorem optionSound_iff {r : Registry} {expected : Category} (c? : Option Config) :
    optionSound r expected c? ↔
      ∀ c ∈ c?.toList, c.category.satisfies expected = true ∧ c.Sound r := by
  cases c? <;> simp [optionSound]

theorem statesSound_iff {r : Registry} (cs : List (String × Config)) :
    statesSound r cs ↔
      ∀ c ∈ cs.map Prod.snd, c.category.satisfies .state = true ∧ c.Sound r := by
  induction cs with
  | nil => simp [statesSound]
  | cons c rest ih => rw [statesSound, ih, List.map_cons, List.forall_mem_cons]

section Rows

variable {α : Type} {outline : α → Outline Label} {make : Context → Config → Option α × Context}
  {r : Registry} {part : Part} {ctx : Context}

theorem createRow_complete {cs : List Config} {p : List α × Context}
    (made : createRow make ctx cs = p)
    (each : ∀ c ∈ cs, ∀ ctx, ∃ a, (make ctx c).1 = some a ∧
      (outline a).types = r.types (c.outline part)) :
    p.1.map (fun a => (outline a).types) = (listOutline part cs).map r.types := by
  subst made
  induction cs generalizing ctx with
  | nil => rfl
  | cons c rest ih =>
    obtain ⟨first, later⟩ := List.forall_mem_cons.mp each
    obtain ⟨a, made, same⟩ := first ctx
    have others := @ih (make ctx c).2 later
    simp only [createRow, made, Option.toList_some, List.singleton_append, List.map_cons,
      listOutline, same, others]

theorem createOption_complete {c? : Option Config} {p : Option α × Context}
    (made : createOption make ctx c? = p)
    (each : ∀ c ∈ c?.toList, ∀ ctx, ∃ a, (make ctx c).1 = some a ∧
      (outline a).types = r.types (c.outline part)) :
    p.1.toList.map (fun a => (outline a).types) = (optionOutline part c?).map r.types := by
  subst made
  cases c? with
  | none => rfl
  | some c =>
    obtain ⟨a, made, same⟩ := each c (List.mem_singleton_self c) ctx
    simp only [createOption, made, Option.toList_some, List.map_cons, List.map_nil, optionOutline,
      same]

end Rows

def Config.Completes (r : Registry) (c : Config) : Prop :=
  ∀ (height : Nat) (part : Part) (ctx : Context), c.Sound r → c.height ≤ height →
    ∃ n, (create r height ctx c).1 = some n ∧ Complete r part c n

variable {r : Registry}

theorem createFor_complete {height : Nat} {α : Type} {fits : AnyNode (Behavior height) → Option α}
    {outline : α → Outline Label} {part : Part} {expected : Category}
    (accepts : ∀ n : AnyNode (Behavior height), n.type.category.satisfies expected = true →
      ∃ a, fits n = some a ∧ n.outline part = outline a)
    {c : Config} (completes : c.Completes r) (lower : c.height < height)
    (sound : c.category.satisfies expected = true ∧ c.Sound r) (ctx : Context) :
    ∃ a, (createFor r height fits ctx c).1 = some a ∧
      (outline a).types = r.types (c.outline part) :=
  fit_complete accepts sound.1 (completes height part ctx sound.2 (Nat.le_of_lt lower))

theorem createBehavior_complete {height : Nat} (part : Part) {c : Config}
    (completes : c.Completes r) (lower : c.height < height)
    (sound : c.category.satisfies .behavior = true ∧ c.Sound r) (ctx : Context) :
    ∃ b, (createBehavior r height ctx c).1 = some b ∧
      (outline part b).types = r.types (c.outline part) := by
  cases height with
  | zero => exact absurd lower (Nat.not_lt_zero _)
  | succ height =>
    exact fit_complete (accepts_behavior part) sound.1
      (completes height part ctx sound.2 (Nat.le_of_lt_succ lower))

/-- The condition that a node requires is there. -/
theorem createCondition?_complete {height : Nat} {c? : Option Config} (given : c?.isSome = true)
    (completes : ∀ c ∈ c?.toList, c.Completes r) (sound : optionSound r .condition c?)
    (lower : ∀ c ∈ c?.toList, c.height < height) (ctx : Context) :
    ∃ k, (createCondition? r height ctx c?).1 = some k ∧
      [(k.outline .condition).types] = (optionOutline .condition c?).map r.types := by
  cases c? with
  | none => cases given
  | some c =>
    have member := List.mem_singleton_self c
    obtain ⟨k, made, same⟩ := createFor_complete (accepts_condition .condition)
      (completes c member) (lower c member) sound ctx
    exact ⟨k, made, congrArg (fun o => [o]) same⟩

/-- Where every state is created, the index knows the names of all of them. -/
theorem createStates_known {height : Nat} {cs : List (String × Config)}
    (each : ∀ c ∈ cs.map Prod.snd, ∀ ctx,
      ∃ s, (createFor r height AnyNode.state? ctx c).1 = some s)
    (ctx : Context) (next : Nat) (index : Table String Nat) :
    ∀ id, id ∈ cs.map Prod.fst ∨ index.contains id = true →
      (createStates r height ctx next index cs).2.1.contains id = true := by
  induction cs generalizing ctx next index with
  | nil =>
    rintro id (declared | known)
    · cases declared
    · exact known
  | cons c rest ih =>
    obtain ⟨first, later⟩ := List.forall_mem_cons.mp each
    obtain ⟨s, made⟩ := first ctx
    unfold createStates
    unfold createFor at made
    generalize AnyNode.fit AnyNode.state? (create r height ctx c.2) = p at made ⊢
    obtain ⟨o, after⟩ := p
    cases made
    -- the insertion of this state's id may move an id, but never takes one away
    intro other declared
    refine ih later after (next + 1) (index.insert c.1 next) other ?_
    rw [Table.contains, Table.find?_insert]
    split
    · exact .inr rfl
    · rename_i new
      rw [List.map_cons, List.mem_cons] at declared
      exact declared.imp_left fun listed => listed.resolve_left new

theorem instantiate_makes {body : Body} (below : ∀ c ∈ body.children, c.Completes r)
    (height : Nat) (part : Part) (ctx : Context) {type : NodeType} (typeName : String)
    (takes : type.Takes body) (sound : Body.Sound r body) (enough : body.height ≤ height) :
    Makes r part type body.parts (instantiate r height ctx type typeName body).1.toOption := by
  have lower := body.height_le_iff.mp enough
  cases body with
  | composite children =>
    have made := createRow_complete (createBehaviors_eq r height ctx children).symm
      fun c member => createBehavior_complete .child (below c member) (lower c member)
        ((listSound_iff children).mp sound c member)
    rcases takes with rfl | rfl
    · unfold instantiate
      refine ⟨_, rfl, rfl, types_node ?_⟩
      show List.map Outline.types (List.map (outline .child) _) = _
      rw [List.map_map]
      exact made
    · unfold instantiate
      refine ⟨_, rfl, rfl, types_node ?_⟩
      show List.map Outline.types (List.map (fun l => outline .child l.child)
        (List.map (fun c => ({ child := c } : Lane (Behavior height))) _)) = _
      rw [List.map_map, List.map_map]
      exact made
  | negation condition =>
    cases takes
    obtain ⟨k, made, same⟩ := createCondition?_complete sound.1 below sound.2 lower ctx
    rw [fst_negation, made]
    exact ⟨_, rfl, rfl, types_node same⟩
  | junction conditions =>
    have made := createRow_complete (createConditions_eq r height ctx conditions).symm
      fun c member => createFor_complete (accepts_condition .condition) (below c member)
        (lower c member) ((listSound_iff conditions).mp sound c member)
    have parts : (Condition.outlineAll (createConditions r height ctx conditions).1).map
        Outline.types = (listOutline .condition conditions).map r.types := by
      rw [Condition.outlineAll_eq, List.map_map]
      exact made
    rcases takes with rfl | rfl
    · unfold instantiate
      exact ⟨_, rfl, rfl, types_node parts⟩
    · unfold instantiate
      exact ⟨_, rfl, rfl, types_node parts⟩
  | fsm initial states =>
    cases takes
    obtain ⟨declared, sound⟩ := sound
    have each : ∀ c ∈ states.map Prod.snd, ∀ ctx,
        ∃ s, (createFor r height AnyNode.state? ctx c).1 = some s ∧
          (s.outline .state).types = r.types (c.outline .state) :=
      fun c member => createFor_complete (accepts_state .state) (below c member) (lower c member)
        ((statesSound_iff states).mp sound c member)
    have made := createRow_complete (createStates_eq r height ctx 0 ∅ states).symm each
    have known := createStates_known
      (fun c member ctx => (each c member ctx).imp fun _ => And.left) ctx 0 ∅ initial
      (.inl declared)
    rw [fst_fsm, if_pos known]
    refine ⟨_, rfl, rfl, types_node ?_⟩
    show List.map Outline.types (List.map (State.outline .state) _) = _
    rw [List.map_map, Body.parts, statesOutline_eq]
    exact made
  | state id endEvent behavior exit transitions =>
    cases takes
    obtain ⟨first, second, last⟩ := sound
    obtain ⟨pair, moves⟩ := List.forall_mem_append.mp below
    obtain ⟨behaviors, exits⟩ := List.forall_mem_append.mp pair
    obtain ⟨pairLower, movesLower⟩ := List.forall_mem_append.mp lower
    obtain ⟨behaviorsLower, exitsLower⟩ := List.forall_mem_append.mp pairLower
    have behaviorMade := createOption_complete (createBehavior?_eq r height ctx behavior).symm
      fun c member => createBehavior_complete .behavior (behaviors c member)
        (behaviorsLower c member) ((optionSound_iff behavior).mp first c member)
    have exitMade := createOption_complete
      (createBehavior?_eq r height (createBehavior? r height ctx behavior).2 exit).symm
      fun c member => createBehavior_complete .exit (exits c member) (exitsLower c member)
        ((optionSound_iff exit).mp second c member)
    have transitionsMade := createRow_complete
      (createTransitions_eq r height
        (createBehavior? r height (createBehavior? r height ctx behavior).2 exit).2
        transitions).symm
      fun c member => createFor_complete (accepts_transition .transition) (moves c member)
        (movesLower c member) ((listSound_iff transitions).mp last c member)
    unfold instantiate
    rw [if_pos rfl]
    refine ⟨_, rfl, rfl, types_node ?_⟩
    rw [List.map_append, List.map_append, List.map_map, List.map_map, List.map_map]
    show _ = List.map r.types (_ ++ _ ++ _)
    rw [List.map_append, List.map_append, ← behaviorMade, ← exitMade, ← transitionsMade]
    rfl
  | transition condition onTrue onFalse interval =>
    cases takes
    obtain ⟨k, made, same⟩ := createCondition?_complete sound.1 below sound.2 lower ctx
    rw [fst_transition, made]
    exact ⟨_, rfl, rfl, types_node same⟩
  | deed d =>
    cases takes
    have created : Task.create? ctx.started d.type (.deed d) ctx.toScope =
        some (.deed d, ctx.toScope) := by
      cases d <;> rfl
    exact task_made r part typeName created
  | probe p =>
    cases takes
    exact sensor_made r part typeName p ctx
  | wait c =>
    cases takes
    exact task_made r part typeName rfl
  | healthOverTime c =>
    cases takes
    exact task_made r part typeName rfl
  | waitCheck attrs predicate =>
    cases takes
    exact task_made r part typeName rfl
  | delegate attrs hooks =>
    cases takes
    exact task_made r part typeName rfl

theorem create_complete (r : Registry) (height : Nat) (part : Part) (ctx : Context) (c : Config)
    (sound : c.Sound r) (enough : c.height ≤ height) :
    ∃ n, (create r height ctx c).1 = some n ∧ Complete r part c n := by
  induction c using Config.byChildren generalizing height part ctx with
  | node typeName category body below =>
    obtain ⟨⟨entry, found, same, takes⟩, soundly⟩ := sound
    subst same
    obtain ⟨n, created, made⟩ := instantiate_makes
      (fun c member height part ctx sound enough => below c member height part ctx sound enough)
      height part ctx typeName takes soundly enough
    refine ⟨n, ?_, made.complete found⟩
    rw [fst_create, found]
    exact created

end SkillScript
