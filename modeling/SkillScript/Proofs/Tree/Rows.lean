import SkillScript.Node.Create
/-!
# Induction over creation

Creation descends through six functions, one for each sort of place, but all of them
do the same: they create the configurations of a row one after the other, each in the
context that the last has left, and keep what fits. Here they are traced to one
function, and the configurations below a body to one list. What a creation does is
then proved by induction over configurations, for the rows below a body at once.
-/
set_option autoImplicit false
namespace SkillScript

/-- The configurations below a body, in the order in which they are created. -/
def Body.children : Body → List Config
  | .composite children => children
  | .negation condition => condition.toList
  | .junction conditions => conditions
  | .fsm _ states => states.map Prod.snd
  | .state _ _ behavior exit transitions => behavior.toList ++ exit.toList ++ transitions
  | .transition condition _ _ _ => condition.toList
  | _ => []

/-! ## Heights -/

theorem listHeight_le_iff {height : Nat} (cs : List Config) :
    listHeight cs ≤ height ↔ ∀ c ∈ cs, c.height < height := by
  induction cs with
  | nil => simp [listHeight]
  | cons c rest ih => rw [listHeight, Nat.max_le, ih, List.forall_mem_cons, Nat.succ_le_iff]

theorem optionHeight_le_iff {height : Nat} (c? : Option Config) :
    optionHeight c? ≤ height ↔ ∀ c ∈ c?.toList, c.height < height := by
  cases c? <;> simp [optionHeight, Nat.succ_le_iff]

theorem statesHeight_eq (cs : List (String × Config)) :
    statesHeight cs = listHeight (cs.map Prod.snd) := by
  induction cs with
  | nil => rfl
  | cons c rest ih => rw [statesHeight, ih, List.map_cons, listHeight]

theorem Body.height_le_iff {height : Nat} (body : Body) :
    body.height ≤ height ↔ ∀ c ∈ body.children, c.height < height := by
  cases body with
  | composite children => exact listHeight_le_iff children
  | negation condition => exact optionHeight_le_iff condition
  | junction conditions => exact listHeight_le_iff conditions
  | fsm initial states =>
    rw [Body.height, statesHeight_eq]
    exact listHeight_le_iff _
  | state id endEvent behavior exit transitions =>
    rw [Body.height, Nat.max_le, Nat.max_le, optionHeight_le_iff, optionHeight_le_iff,
      listHeight_le_iff, children, List.forall_mem_append, List.forall_mem_append, and_assoc]
  | transition condition onTrue onFalse interval => exact optionHeight_le_iff condition
  | _ => simp [Body.height, children]

/-- What holds of a configuration if it holds of all configurations below it holds of every one. -/
theorem Config.byChildren {motive : Config → Prop}
    (node : ∀ typeName category body, (∀ c ∈ body.children, motive c) →
      motive ⟨typeName, category, body⟩) (c : Config) : motive c := by
  -- the height of a configuration bounds the descent
  induction bound : c.height using Nat.strongRecOn generalizing c with
  | ind height ih =>
    obtain ⟨typeName, category, body⟩ := c
    apply node
    intro below member
    have lower : below.height < height := by
      rw [← bound]
      exact (body.height_le_iff.mp (Nat.le_refl _)) below member
    exact ih below.height lower below rfl

/-! ## Rows -/

section Rows

variable {α : Type} (make : Context → Config → Option α × Context)

def createRow : Context → List Config → List α × Context
  | ctx, [] => ([], ctx)
  | ctx, c :: rest =>
    let first := make ctx c
    let later := createRow first.2 rest
    (first.1.toList ++ later.1, later.2)

def createOption (ctx : Context) : Option Config → Option α × Context
  | none => (none, ctx)
  | some c => make ctx c

end Rows

def createFor (r : Registry) (height : Nat) {α : Type}
    (fits : AnyNode (Behavior height) → Option α) (ctx : Context) (c : Config) :
    Option α × Context :=
  AnyNode.fit fits (create r height ctx c)

def createBehavior (r : Registry) :
    (height : Nat) → Context → Config → Option (Behavior height) × Context
  | 0, ctx, _ => (none, ctx)
  | height + 1, ctx, c => createFor r height Behavior.ofAny? ctx c

variable (r : Registry) (height : Nat)

theorem createBehaviors_eq (ctx : Context) (cs : List Config) :
    createBehaviors r height ctx cs = createRow (createBehavior r height) ctx cs := by
  induction cs generalizing ctx with
  | nil =>
    unfold createBehaviors
    rfl
  | cons c rest ih =>
    cases height with
    | zero =>
      have nothing : createBehaviors r 0 ctx (c :: rest) = createBehaviors r 0 ctx rest := by
        cases rest <;> simp only [createBehaviors]
      rw [nothing, ih]
      rfl
    | succ height => simp only [createBehaviors, createRow, createBehavior, createFor, ih]

theorem createBehavior?_eq (ctx : Context) (c? : Option Config) :
    createBehavior? r height ctx c? = createOption (createBehavior r height) ctx c? := by
  cases c? with
  | none =>
    unfold createBehavior?
    rfl
  | some c => cases height <;> rfl

theorem createCondition?_eq (ctx : Context) (c? : Option Config) :
    createCondition? r height ctx c? =
      createOption (createFor r height AnyNode.condition?) ctx c? := by
  cases c? <;> rfl

theorem createConditions_eq (ctx : Context) (cs : List Config) :
    createConditions r height ctx cs =
      createRow (createFor r height AnyNode.condition?) ctx cs := by
  induction cs generalizing ctx with
  | nil => rfl
  | cons c rest ih => simp only [createConditions, createRow, createFor, ih]

theorem createTransitions_eq (ctx : Context) (cs : List Config) :
    createTransitions r height ctx cs =
      createRow (createFor r height AnyNode.transition?) ctx cs := by
  induction cs generalizing ctx with
  | nil => rfl
  | cons c rest ih => simp only [createTransitions, createRow, createFor, ih]

/-- States are created like any other row, whatever positions they are given. -/
theorem createStates_eq (ctx : Context) (next : Nat) (index : Table String Nat)
    (cs : List (String × Config)) :
    ((createStates r height ctx next index cs).1, (createStates r height ctx next index cs).2.2) =
      createRow (createFor r height AnyNode.state?) ctx (cs.map Prod.snd) := by
  induction cs generalizing ctx next index with
  | nil => rfl
  | cons c rest ih =>
    rw [List.map_cons, createRow]
    unfold createStates
    split
    · rename_i s after made
      have first : createFor r height AnyNode.state? ctx c.2 = (some s, after) := made
      rw [first, ← ih after (next + 1) (index.insert c.1 next)]
      rfl
    · rename_i after made
      have first : createFor r height AnyNode.state? ctx c.2 = (none, after) := made
      rw [first, ← ih after next index]
      rfl

/-- The positions that an index names, when it names only those below a bound before. -/
theorem find?_insert_lt {index : Table String Nat} {next : Nat}
    (below : ∀ id i, index.find? id = some i → i < next) (id : String) :
    ∀ id' i, (index.insert id next).find? id' = some i → i < next + 1 := by
  intro id' i found
  rw [Table.find?_insert] at found
  split at found
  · cases found
    exact Nat.lt_succ_self _
  · exact Nat.lt_succ_of_lt (below id' i found)

/-- The index of created states names positions among them. -/
theorem createStates_index (ctx : Context) (next : Nat) (index : Table String Nat)
    (cs : List (String × Config)) (below : ∀ id i, index.find? id = some i → i < next) :
    ∀ id i, (createStates r height ctx next index cs).2.1.find? id = some i →
      i < next + (createStates r height ctx next index cs).1.length := by
  induction cs generalizing ctx next index with
  | nil =>
    unfold createStates
    exact below
  | cons c rest ih =>
    unfold createStates
    split
    · rename_i s after made
      intro id i found
      have later := ih after (next + 1) (index.insert c.1 next)
        (find?_insert_lt below c.1) id i found
      simp only [List.length_cons]
      omega
    · rename_i after made
      exact ih after next index below

/-! ## Outcomes -/

/-- What the initialization of a node comes to, told by the rows below its body. -/
inductive Outcome (ctx : Context) (typeName : String) :
    NodeType → Body → Except NodeError (AnyNode (Behavior height)) × Context → Prop
  | childless (type : NodeType) (body : Body) :
      Outcome ctx typeName type body (leaf type typeName body ctx)
  | unsuited (type : NodeType) (body : Body) (e : NodeError) :
      Outcome ctx typeName type body (.error e, ctx)
  | sequence {cs : List Config} {bs : List (Behavior height)} {after : Context}
      (made : createRow (createBehavior r height) ctx cs = (bs, after)) :
      Outcome ctx typeName (.behavior .sequence) (.composite cs)
        (.ok (.behavior { logic := .sequence { children := bs } }), after)
  | parallel {cs : List Config} {bs : List (Behavior height)} {after : Context}
      (made : createRow (createBehavior r height) ctx cs = (bs, after)) :
      Outcome ctx typeName (.behavior .parallel) (.composite cs)
        (.ok (.behavior { logic := .parallel { lanes := bs.map fun b => { child := b } } }), after)
  | negation {c? : Option Config} {k : Condition} {after : Context}
      (made : createOption (createFor r height AnyNode.condition?) ctx c? = (some k, after)) :
      Outcome ctx typeName (.condition .not) (.negation c?)
        (.ok (.condition (.gate false .not [k])), after)
  | empty {c? : Option Config} {after : Context} (e : NodeError)
      (made : createOption (createFor r height AnyNode.condition?) ctx c? = (none, after)) :
      Outcome ctx typeName (.condition .not) (.negation c?) (.error e, after)
  | junction {g : Gate} {cs : List Config} {ks : List Condition} {after : Context}
      (made : createRow (createFor r height AnyNode.condition?) ctx cs = (ks, after)) :
      Outcome ctx typeName (.condition g.type) (.junction cs)
        (.ok (.condition (.gate false g ks)), after)
  | machine {initial : String} {cs : List (String × Config)} {ss : List (State (Behavior height))}
      {index : Table String Nat} {after : Context}
      (made : createRow (createFor r height AnyNode.state?) ctx (cs.map Prod.snd) = (ss, after))
      (positions : ∀ id i, index.find? id = some i → i < ss.length)
      (known : index.contains initial = true) :
      Outcome ctx typeName (.behavior .fsm) (.fsm initial cs)
        (.ok (.behavior { logic := .machine ⟨ss, index, initial, none, 0⟩ }), after)
  | astray {initial : String} {cs : List (String × Config)} {ss : List (State (Behavior height))}
      {after : Context} (e : NodeError)
      (made : createRow (createFor r height AnyNode.state?) ctx (cs.map Prod.snd) = (ss, after)) :
      Outcome ctx typeName (.behavior .fsm) (.fsm initial cs)
        (.error e, ss.foldl State.release after)
  | state {id : String} {endEvent : Option String} {behavior exit : Option Config}
      {transitions : List Config} {b? e? : Option (Behavior height)} {ts : List Transition}
      {ctx₁ ctx₂ after : Context}
      (first : createOption (createBehavior r height) ctx behavior = (b?, ctx₁))
      (second : createOption (createBehavior r height) ctx₁ exit = (e?, ctx₂))
      (last : createRow (createFor r height AnyNode.transition?) ctx₂ transitions = (ts, after)) :
      Outcome ctx typeName .state (.state id endEvent behavior exit transitions)
        (.ok (.state { id := id, endEvent := endEvent, behavior := b?, exit := e?
                       transitions := ts }), after)
  | transition {c? : Option Config} {onTrue onFalse : Option String} {interval : Param Float32}
      {k : Condition} {after : Context}
      (made : createOption (createFor r height AnyNode.condition?) ctx c? = (some k, after)) :
      Outcome ctx typeName .transition (.transition c? onTrue onFalse interval)
        (.ok (.transition (.ofCondition k onTrue onFalse interval after.vars)), after)
  | unconditioned {c? : Option Config} {onTrue onFalse : Option String} {interval : Param Float32}
      {after : Context} (e : NodeError)
      (made : createOption (createFor r height AnyNode.condition?) ctx c? = (none, after)) :
      Outcome ctx typeName .transition (.transition c? onTrue onFalse interval) (.error e, after)

theorem instantiate_outcome (ctx : Context) (type : NodeType) (typeName : String) (body : Body) :
    Outcome r height ctx typeName type body (instantiate r height ctx type typeName body) := by
  cases body with
  | composite cs =>
    have made := (createBehaviors_eq r height ctx cs).symm
    unfold instantiate
    split
    · exact .sequence made
    · exact .parallel made
    · exact .unsuited _ _ _
  | negation c? =>
    have made := (createCondition?_eq r height ctx c?).symm
    unfold instantiate
    split
    · rename_i suited
      subst suited
      split
      · rename_i created
        exact .negation (made.trans created)
      · rename_i created
        exact .empty _ (made.trans created)
    · exact .unsuited _ _ _
  | junction cs =>
    have made := (createConditions_eq r height ctx cs).symm
    unfold instantiate
    split
    · exact .junction (g := .all) made
    · exact .junction (g := .any) made
    · exact .unsuited _ _ _
  | fsm initial cs =>
    have made := (createStates_eq r height ctx 0 ∅ cs).symm
    have positions := createStates_index r height ctx 0 ∅ cs nofun
    rw [Nat.zero_add] at positions
    unfold instantiate
    split
    · rename_i suited
      subst suited
      dsimp only
      split
      · rename_i known
        exact .machine made positions known
      · exact .astray _ made
    · exact .unsuited _ _ _
  | state id endEvent behavior exit transitions =>
    unfold instantiate
    split
    · rename_i suited
      subst suited
      exact .state (createBehavior?_eq r height ctx behavior).symm
        (createBehavior?_eq r height _ exit).symm (createTransitions_eq r height _ transitions).symm
    · exact .unsuited _ _ _
  | transition c? onTrue onFalse interval =>
    have made := (createCondition?_eq r height ctx c?).symm
    unfold instantiate
    split
    · rename_i suited
      subst suited
      split
      · rename_i created
        exact .transition (made.trans created)
      · rename_i created
        exact .unconditioned _ (made.trans created)
    · exact .unsuited _ _ _
  | _ => exact .childless _ _

/-- What the creation of a node comes to, told by its initialization. -/
inductive Creation (ctx : Context) (typeName : String) (body : Body) :
    Option (AnyNode (Behavior height)) × Context → Prop
  | unknown : Creation ctx typeName body (none, ctx)
  | made {type : NodeType} {n : AnyNode (Behavior height)} {after : Context}
      (initialized : instantiate r height ctx type typeName body = (.ok n, after)) :
      Creation ctx typeName body (some n, after.born)
  | failed {type : NodeType} {e : NodeError} {after : Context}
      (initialized : instantiate r height ctx type typeName body = (.error e, after)) :
      Creation ctx typeName body (none, after)

theorem create_creation (ctx : Context) (typeName : String) (category : Category) (body : Body) :
    Creation r height ctx typeName body (create r height ctx ⟨typeName, category, body⟩) := by
  unfold create
  split
  · exact .unknown
  · split
    · rename_i initialized
      exact .made initialized
    · rename_i initialized
      exact .failed initialized

end SkillScript
