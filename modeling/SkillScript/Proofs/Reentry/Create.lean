import SkillScript.Proofs.Census.Create
import SkillScript.Proofs.Registering.Calls
import SkillScript.Proofs.Tree.Create
import SkillScript.Proofs.Tree.Rows
/-!
# Twins

A configuration that names only built-in types makes the same tree wherever it is
created: the results of two creations have the same pristine form. All nodes of the
tree are of built-in types.
-/
set_option autoImplicit false
namespace SkillScript

variable {β : Type} [Behaves β] [Lasting β] [Outlined β]

/-- Whether a name stands for nothing but a built-in type. -/
def Registry.Scripted (r : Registry) (name : String) : Prop :=
  ∀ entry, r.find? name = some entry → entry.implementation ∈ NodeType.builtins

theorem Registry.register_scripted {r : Registry} {entry : Registration}
    (builtin : entry.implementation ∈ NodeType.builtins) (scripted : ∀ name, r.Scripted name)
    (name : String) : ∀ other, (r.register name entry).2.Scripted other := by
  intro other found same
  rcases eq_of_find?_registerAs same with old | ⟨-, rfl⟩
  · exact scripted other found old
  · exact builtin

/-- All names of the built-in types stand for nothing else. -/
theorem Registry.standard_scripted : ∀ name, standard.Scripted name := by
  let inv (r : Registry) : Prop := ∀ name, r.Scripted name
  refine List.foldlRecOn (motive := inv) NodeType.builtins _ ?_ ?_
  · intro name entry found
    cases found
  · intro r scripted t builtin
    exact register_scripted builtin scripted t.name

/-- Two results with the same form, without any label that is not built in. -/
structure Twins {α : Type} (form : α → α) (labels : α → List Label) (o o' : Option α) : Prop where
  same : o.map form = o'.map form
  builtin : ∀ a ∈ o, ∀ l ∈ labels a, l.type ∈ NodeType.builtins

structure AllTwins {α : Type} (form : α → α) (labels : α → List Label) (l l' : List α) :
    Prop where
  same : l.map form = l'.map form
  builtin : ∀ a ∈ l, ∀ label ∈ labels a, label.type ∈ NodeType.builtins

section Twins

variable {α : Type} {form : α → α} {labels : α → List Label}

theorem Twins.none : Twins form labels none none :=
  ⟨rfl, by simp⟩

theorem Twins.some {a a' : α} (same : form a = form a')
    (builtin : ∀ l ∈ labels a, l.type ∈ NodeType.builtins) :
    Twins form labels (some a) (some a') := by
  refine ⟨congrArg Option.some same, ?_⟩
  intro b inside
  cases inside
  exact builtin

/-- What is made of twins is twins, if it is built in and has the same form. -/
theorem Twins.map {α' : Type} {form' : α' → α'} {labels' : α' → List Label} {g g' : α → α'}
    {o o' : Option α} (twins : Twins form labels o o')
    (formed : ∀ a a', form a = form a' → form' (g a) = form' (g' a'))
    (labelled : ∀ a, (∀ l ∈ labels a, l.type ∈ NodeType.builtins) →
      ∀ l ∈ labels' (g a), l.type ∈ NodeType.builtins) :
    Twins form' labels' (o.map g) (o'.map g') := by
  obtain ⟨same, builtin⟩ := twins
  cases o with
  | none =>
    rw [Option.map_eq_none_iff.mp same.symm]
    exact .none
  | some a =>
    obtain ⟨a', rfl, formed'⟩ := Option.map_eq_some_iff.mp same.symm
    exact .some (formed a a' formed'.symm) (labelled a (builtin a rfl))

theorem AllTwins.nil : AllTwins form labels [] [] :=
  ⟨rfl, by simp⟩

theorem Twins.cons {o o' : Option α} {l l' : List α} (head : Twins form labels o o')
    (tail : AllTwins form labels l l') :
    AllTwins form labels (o.toList ++ l) (o'.toList ++ l') := by
  refine ⟨?_, ?_⟩
  · rw [List.map_append, List.map_append, ← Option.toList_map, ← Option.toList_map, head.same,
      tail.same]
  · intro a member
    rcases List.mem_append.mp member with first | later
    · exact head.builtin a (Option.mem_toList.mp first)
    · exact tail.builtin a later

end Twins

/-- What fits a place fits it in any state. -/
theorem fit_twins {α : Type} {fits : AnyNode β → Option α} {form : α → α}
    {labels : α → List Label} (part : Part) {p p' : Option (AnyNode β) × Context}
    (formed : ∀ n, (fits n).map form = fits n.pristine)
    (kept : ∀ n a, fits n = some a → (n.outline part).labels = labels a)
    (twins : Twins AnyNode.pristine (fun n => (n.outline part).labels) p.1 p'.1) :
    Twins form labels (AnyNode.fit fits p).1 (AnyNode.fit fits p').1 := by
  have image (o : Option (AnyNode β)) :
      (o.bind fits).map form = (o.map AnyNode.pristine).bind fits := by
    cases o with
    | none => rfl
    | some n => exact formed n
  rw [AnyNode.fst_fit, AnyNode.fst_fit]
  refine ⟨by rw [image, image, twins.same], ?_⟩
  intro a inside l label
  obtain ⟨n, found, fitting⟩ := Option.bind_eq_some_iff.mp inside
  rw [← kept n a fitting] at label
  exact twins.builtin n found l label

theorem ofAny?_pristine {height : Nat} (n : AnyNode (Behavior height)) :
    (Behavior.ofAny? n).map Lasting.pristine = Behavior.ofAny? n.pristine := by
  cases n <;> rfl

omit [Outlined β] in
theorem condition?_pristine (n : AnyNode β) :
    n.condition?.map Condition.pristine = n.pristine.condition? := by
  cases n <;> rfl

omit [Outlined β] in
theorem state?_pristine (n : AnyNode β) : n.state?.map State.pristine = n.pristine.state? := by
  cases n <;> rfl

omit [Outlined β] in
theorem transition?_pristine (n : AnyNode β) :
    n.transition?.map Transition.pristine = n.pristine.transition? := by
  cases n <;> rfl

theorem Task.create?_pristine {type : BehaviorType}
    (builtin : NodeType.behavior type ∈ NodeType.builtins) (number number' : Nat) (body : Body)
    (s s' : Scope) :
    ((create? number type body s).map fun p => p.1.pristine) =
      (create? number' type body s').map fun p => p.1.pristine := by
  unfold create?
  split
  case h_4 => exact absurd builtin (by simp [NodeType.builtins])
  case h_5 => split <;> rfl
  all_goals rfl

theorem leaf_twins (part : Part) {type : NodeType} (builtin : type ∈ NodeType.builtins)
    (typeName : String) (body : Body) (ctx ctx' : Context) :
    Twins AnyNode.pristine (fun n => (n.outline part).labels)
      (leaf (β := β) type typeName body ctx).1.toOption
      (leaf (β := β) type typeName body ctx').1.toOption := by
  unfold leaf
  cases type with
  | behavior t =>
    have same := Task.create?_pristine builtin ctx.started ctx'.started body ctx.toScope
      ctx'.toScope
    dsimp only
    cases created : Task.create? ctx.started t body ctx.toScope with
    | none =>
      rw [created] at same
      rw [Option.map_eq_none_iff.mp same.symm]
      exact .none
    | some p =>
      rw [created] at same
      obtain ⟨p', created', form⟩ := Option.map_eq_some_iff.mp same.symm
      rw [created']
      refine .some (congrArg (fun t => AnyNode.behavior { logic := .task t }) form.symm) ?_
      intro l label
      rw [List.mem_singleton.mp label]
      show NodeType.behavior p.1.type ∈ NodeType.builtins
      rw [Task.type_create? created]
      exact builtin
  | condition t =>
    cases body with
    | probe p =>
      dsimp only
      split
      · rename_i same
        refine .some rfl fun l label => ?_
        rw [List.mem_singleton.mp label]
        show NodeType.condition (Sensor.ofProbe p).type ∈ NodeType.builtins
        have type : (Sensor.ofProbe p).type = t := by
          rw [← same]
          cases p <;> rfl
        rw [type]
        exact builtin
      · exact .none
    | _ => exact .none
  | state => exact .none
  | transition => exact .none

/-- A parent of nodes that are built in is built in if its own type is. -/
theorem builtin_node {part : Part} {t : NodeType} (builtin : t ∈ NodeType.builtins)
    {below : List (Outline Label)}
    (all : ∀ o ∈ below, ∀ l ∈ o.labels, l.type ∈ NodeType.builtins) :
    ∀ l ∈ (Outline.node part (⟨t, none⟩ : Label) below).labels, l.type ∈ NodeType.builtins := by
  intro l label
  rw [Outline.labels_node] at label
  rcases List.mem_cons.mp label with rfl | inside
  · exact builtin
  · obtain ⟨o, member, inner⟩ := List.mem_flatMap.mp inside
    exact all o member l inner

section Instances

variable (r : Registry) (height : Nat) (part : Part) (ctx ctx' : Context) {type : NodeType}
  (builtin : type ∈ NodeType.builtins) (typeName : String)
include builtin

theorem composite_twins {children : List Config}
    (made : AllTwins Lasting.pristine (fun b => (outline .child b).labels)
      (createBehaviors r height ctx children).1 (createBehaviors r height ctx' children).1) :
    Twins AnyNode.pristine (fun n => (n.outline part).labels)
      (instantiate r height ctx type typeName (.composite children)).1.toOption
      (instantiate r height ctx' type typeName (.composite children)).1.toOption := by
  unfold instantiate
  split
  · refine .some (congrArg (fun l => AnyNode.behavior
      { logic := .sequence { children := l } }) made.same) ?_
    refine builtin_node builtin fun o member => ?_
    obtain ⟨b, inside, rfl⟩ := List.mem_map.mp member
    exact made.builtin b inside
  · have lanes := congrArg (List.map fun c => ({ child := c } : Lane _)) made.same
    rw [List.map_map, List.map_map] at lanes
    refine .some (congrArg (fun l => AnyNode.behavior { logic := .parallel { lanes := l } }) ?_) ?_
    · rw [List.map_map, List.map_map]
      exact lanes
    · refine builtin_node builtin fun o member => ?_
      obtain ⟨l, inside, rfl⟩ := List.mem_map.mp member
      obtain ⟨b, inner, rfl⟩ := List.mem_map.mp inside
      exact made.builtin b inner
  · exact .none

theorem negation_twins {condition : Option Config}
    (made : Twins Condition.pristine (fun c => (c.outline .condition).labels)
      (createCondition? r height ctx condition).1 (createCondition? r height ctx' condition).1) :
    Twins AnyNode.pristine (fun n => (n.outline part).labels)
      (instantiate r height ctx type typeName (.negation condition)).1.toOption
      (instantiate r height ctx' type typeName (.negation condition)).1.toOption := by
  by_cases suited : type = .condition .not
  · subst suited
    rw [fst_negation, fst_negation]
    refine made.map (fun c c' same => ?_) fun c labelled => ?_
    · simp only [AnyNode.pristine, Condition.pristine, Condition.pristineAll, same]
    · refine builtin_node builtin fun o member => ?_
      rw [List.mem_singleton.mp member]
      exact labelled
  · unfold instantiate
    rw [if_neg suited, if_neg suited]
    exact .none

theorem junction_twins {conditions : List Config}
    (made : AllTwins Condition.pristine (fun c => (c.outline .condition).labels)
      (createConditions r height ctx conditions).1 (createConditions r height ctx' conditions).1) :
    Twins AnyNode.pristine (fun n => (n.outline part).labels)
      (instantiate r height ctx type typeName (.junction conditions)).1.toOption
      (instantiate r height ctx' type typeName (.junction conditions)).1.toOption := by
  have below : ∀ o ∈ Condition.outlineAll (createConditions r height ctx conditions).1,
      ∀ l ∈ o.labels, l.type ∈ NodeType.builtins := by
    intro o member
    rw [Condition.outlineAll_eq] at member
    obtain ⟨c, inside, rfl⟩ := List.mem_map.mp member
    exact made.builtin c inside
  unfold instantiate
  split
  · refine .some ?_ (builtin_node builtin below)
    simp only [AnyNode.pristine, Condition.pristine, Condition.pristineAll_eq, made.same]
  · refine .some ?_ (builtin_node builtin below)
    simp only [AnyNode.pristine, Condition.pristine, Condition.pristineAll_eq, made.same]
  · exact .none

theorem fsm_twins {initial : String} {states : List (String × Config)}
    (made : AllTwins State.pristine (fun s => (s.outline .state).labels)
      (createStates r height ctx 0 ∅ states).1 (createStates r height ctx' 0 ∅ states).1)
    (index : (createStates r height ctx 0 ∅ states).2.1 =
      (createStates r height ctx' 0 ∅ states).2.1) :
    Twins AnyNode.pristine (fun n => (n.outline part).labels)
      (instantiate r height ctx type typeName (.fsm initial states)).1.toOption
      (instantiate r height ctx' type typeName (.fsm initial states)).1.toOption := by
  by_cases suited : type = .behavior .fsm
  · subst suited
    rw [fst_fsm, fst_fsm, ← index]
    split
    · refine .some (congrArg (fun l => AnyNode.behavior
        { logic := .machine ⟨l, _, initial, none, 0⟩ }) made.same) ?_
      refine builtin_node builtin fun o member => ?_
      obtain ⟨s, inside, rfl⟩ := List.mem_map.mp member
      exact made.builtin s inside
    · exact .none
  · unfold instantiate
    rw [if_neg suited, if_neg suited]
    exact .none

theorem transition_twins {condition : Option Config} (onTrue onFalse : Option String)
    (interval : Param Float32)
    (made : Twins Condition.pristine (fun c => (c.outline .condition).labels)
      (createCondition? r height ctx condition).1 (createCondition? r height ctx' condition).1) :
    Twins AnyNode.pristine (fun n => (n.outline part).labels)
      (instantiate r height ctx type typeName
        (.transition condition onTrue onFalse interval)).1.toOption
      (instantiate r height ctx' type typeName
        (.transition condition onTrue onFalse interval)).1.toOption := by
  by_cases suited : type = .transition
  · subst suited
    rw [fst_transition, fst_transition]
    refine made.map (fun c c' same => ?_) fun c labelled => ?_
    · simp only [AnyNode.pristine, Transition.pristine, Transition.ofCondition,
        Transition.rearm, same]
    · refine builtin_node builtin fun o member => ?_
      rw [List.mem_singleton.mp member]
      exact labelled
  · unfold instantiate
    rw [if_neg suited, if_neg suited]
    exact .none

theorem state_twins {id : String} {endEvent : Option String} {behavior exit : Option Config}
    {transitions : List Config}
    (first : Twins Lasting.pristine (fun b => (outline .behavior b).labels)
      (createBehavior? r height ctx behavior).1 (createBehavior? r height ctx' behavior).1)
    (second : Twins Lasting.pristine (fun b => (outline .exit b).labels)
      (createBehavior? r height (createBehavior? r height ctx behavior).2 exit).1
      (createBehavior? r height (createBehavior? r height ctx' behavior).2 exit).1)
    (last : AllTwins Transition.pristine (fun t => (t.outline .transition).labels)
      (createTransitions r height
        (createBehavior? r height (createBehavior? r height ctx behavior).2 exit).2 transitions).1
      (createTransitions r height
        (createBehavior? r height (createBehavior? r height ctx' behavior).2 exit).2
        transitions).1) :
    Twins AnyNode.pristine (fun n => (n.outline part).labels)
      (instantiate r height ctx type typeName
        (.state id endEvent behavior exit transitions)).1.toOption
      (instantiate r height ctx' type typeName
        (.state id endEvent behavior exit transitions)).1.toOption := by
  unfold instantiate
  split
  · rename_i suited
    subst suited
    refine .some ?_ (builtin_node builtin fun o member => ?_)
    · simp only [AnyNode.pristine, State.pristine, first.same, second.same, last.same]
    · rcases List.mem_append.mp member with earlier | later
      · rcases List.mem_append.mp earlier with earlier | later
        · obtain ⟨b, inside, rfl⟩ := List.mem_map.mp earlier
          exact first.builtin b (Option.mem_toList.mp inside)
        · obtain ⟨b, inside, rfl⟩ := List.mem_map.mp later
          exact second.builtin b (Option.mem_toList.mp inside)
      · obtain ⟨t, inside, rfl⟩ := List.mem_map.mp later
        exact last.builtin t inside
  · exact .none

end Instances

section Rows

variable {α : Type} {form : α → α} {labels : α → List Label}
  {make : Context → Config → Option α × Context}

theorem createRow_twins {cs : List Config}
    (each : ∀ c ∈ cs, ∀ ctx ctx', Twins form labels (make ctx c).1 (make ctx' c).1)
    (ctx ctx' : Context) :
    AllTwins form labels (createRow make ctx cs).1 (createRow make ctx' cs).1 := by
  induction cs generalizing ctx ctx' with
  | nil => exact .nil
  | cons c rest ih =>
    obtain ⟨first, later⟩ := List.forall_mem_cons.mp each
    exact (first ctx ctx').cons (ih later _ _)

theorem createOption_twins {c? : Option Config}
    (each : ∀ c ∈ c?.toList, ∀ ctx ctx', Twins form labels (make ctx c).1 (make ctx' c).1)
    (ctx ctx' : Context) :
    Twins form labels (createOption make ctx c?).1 (createOption make ctx' c?).1 := by
  cases c? with
  | none => exact .none
  | some c => exact each c (List.mem_singleton_self c) ctx ctx'

end Rows

def Config.Pairs (r : Registry) (c : Config) : Prop :=
  ∀ (height : Nat) (part : Part) (ctx ctx' : Context),
    Twins AnyNode.pristine (fun n => (n.outline part).labels)
      (create r height ctx c).1 (create r height ctx' c).1

section Places

variable {r : Registry} {c : Config} (pairs : c.Pairs r)
include pairs

theorem createFor_twins {height : Nat} {α : Type} {fits : AnyNode (Behavior height) → Option α}
    {form : α → α} {labels : α → List Label} (part : Part)
    (formed : ∀ n, (fits n).map form = fits n.pristine)
    (kept : ∀ n a, fits n = some a → (n.outline part).labels = labels a) (ctx ctx' : Context) :
    Twins form labels (createFor r height fits ctx c).1 (createFor r height fits ctx' c).1 :=
  fit_twins part formed kept (pairs height part ctx ctx')

theorem createBehavior_twins (part : Part) (height : Nat) (ctx ctx' : Context) :
    Twins Lasting.pristine (fun b => (outline part b).labels)
      (createBehavior r height ctx c).1 (createBehavior r height ctx' c).1 := by
  cases height with
  | zero => exact .none
  | succ height => exact createFor_twins pairs part ofAny?_pristine (behavior_kept part) ctx ctx'

theorem createCondition_twins (height : Nat) (ctx ctx' : Context) :
    Twins Condition.pristine (fun k => (k.outline .condition).labels)
      (createFor r height AnyNode.condition? ctx c).1
      (createFor r height AnyNode.condition? ctx' c).1 :=
  createFor_twins pairs .condition condition?_pristine (condition_kept .condition) ctx ctx'

end Places

theorem instantiate_twins {r : Registry} {body : Body} (below : ∀ c ∈ body.children, c.Pairs r)
    (height : Nat) (part : Part) (ctx ctx' : Context) {type : NodeType}
    (builtin : type ∈ NodeType.builtins) (typeName : String) :
    Twins AnyNode.pristine (fun n => (n.outline part).labels)
      (instantiate r height ctx type typeName body).1.toOption
      (instantiate r height ctx' type typeName body).1.toOption := by
  cases body with
  | composite children =>
    apply composite_twins r height part ctx ctx' builtin typeName
    rw [createBehaviors_eq, createBehaviors_eq]
    exact createRow_twins
      (fun c member => createBehavior_twins (below c member) .child height) ctx ctx'
  | negation condition =>
    apply negation_twins r height part ctx ctx' builtin typeName
    rw [createCondition?_eq, createCondition?_eq]
    exact createOption_twins
      (fun c member => createCondition_twins (below c member) height) ctx ctx'
  | junction conditions =>
    apply junction_twins r height part ctx ctx' builtin typeName
    rw [createConditions_eq, createConditions_eq]
    exact createRow_twins
      (fun c member => createCondition_twins (below c member) height) ctx ctx'
  | fsm initial states =>
    have made := createRow_twins (fun c member => createFor_twins (below c member)
      .state (state?_pristine (β := Behavior height)) (state_kept .state)) ctx ctx'
    rw [Body.children, ← createStates_eq r height ctx 0 ∅, ← createStates_eq r height ctx' 0 ∅]
      at made
    exact fsm_twins r height part ctx ctx' builtin typeName made
      (index_createStates r height ctx ctx' 0 ∅ states)
  | state id endEvent behavior exit transitions =>
    obtain ⟨pair, moves⟩ := List.forall_mem_append.mp below
    obtain ⟨behaviors, exits⟩ := List.forall_mem_append.mp pair
    have first := createOption_twins
      (fun c member => createBehavior_twins (behaviors c member) .behavior height) ctx ctx'
    rw [← createBehavior?_eq, ← createBehavior?_eq] at first
    have second := createOption_twins
      (fun c member => createBehavior_twins (exits c member) .exit height)
      (createBehavior? r height ctx behavior).2 (createBehavior? r height ctx' behavior).2
    rw [← createBehavior?_eq, ← createBehavior?_eq] at second
    have last := createRow_twins (fun c member => createFor_twins (moves c member)
      .transition (transition?_pristine (β := Behavior height)) (transition_kept .transition))
      (createBehavior? r height (createBehavior? r height ctx behavior).2 exit).2
      (createBehavior? r height (createBehavior? r height ctx' behavior).2 exit).2
    rw [← createTransitions_eq, ← createTransitions_eq] at last
    exact state_twins r height part ctx ctx' builtin typeName first second last
  | transition condition onTrue onFalse interval =>
    apply transition_twins r height part ctx ctx' builtin typeName
    rw [createCondition?_eq, createCondition?_eq]
    exact createOption_twins
      (fun c member => createCondition_twins (below c member) height) ctx ctx'
  | _ => exact leaf_twins part builtin typeName _ ctx ctx'

/-- What a configuration is to its parent does not show in the names below it. -/
theorem Config.labels_outline (part part' : Part) (c : Config) :
    (c.outline part).labels = (c.outline part').labels := by
  obtain ⟨typeName, category, body⟩ := c
  rw [outline, outline, Outline.labels_node, Outline.labels_node]

theorem exists_part {body : Body} {c : Config} (member : c ∈ body.children) :
    ∃ part, c.outline part ∈ body.parts := by
  cases body with
  | composite children =>
    refine ⟨.child, ?_⟩
    rw [Body.parts, listOutline_eq]
    exact List.mem_map_of_mem member
  | negation condition =>
    refine ⟨.condition, ?_⟩
    rw [Body.parts, optionOutline_eq]
    exact List.mem_map_of_mem member
  | junction conditions =>
    refine ⟨.condition, ?_⟩
    rw [Body.parts, listOutline_eq]
    exact List.mem_map_of_mem member
  | fsm initial states =>
    refine ⟨.state, ?_⟩
    rw [Body.parts, statesOutline_eq, listOutline_eq]
    exact List.mem_map_of_mem member
  | state id endEvent behavior exit transitions =>
    rw [Body.parts, optionOutline_eq, optionOutline_eq, listOutline_eq]
    rcases List.mem_append.mp member with pair | move
    · rcases List.mem_append.mp pair with first | second
      · exact ⟨.behavior, List.mem_append_left _
          (List.mem_append_left _ (List.mem_map_of_mem first))⟩
      · exact ⟨.exit, List.mem_append_left _
          (List.mem_append_right _ (List.mem_map_of_mem second))⟩
    · exact ⟨.transition, List.mem_append_right _ (List.mem_map_of_mem move)⟩
  | transition condition onTrue onFalse interval =>
    refine ⟨.condition, ?_⟩
    rw [Body.parts, optionOutline_eq]
    exact List.mem_map_of_mem member
  | _ => cases member

theorem create_twins (r : Registry) (height : Nat) (part : Part) (ctx ctx' : Context) (c : Config)
    (scripted : ∀ name ∈ (c.outline part).labels, r.Scripted name) :
    Twins AnyNode.pristine (fun n => (n.outline part).labels)
      (create r height ctx c).1 (create r height ctx' c).1 := by
  induction c using Config.byChildren generalizing height part ctx ctx' with
  | node typeName category body ih =>
    rw [Config.outline, Outline.labels_node, List.forall_mem_cons] at scripted
    have below : ∀ c ∈ body.children, c.Pairs r := by
      intro c member height part ctx ctx'
      obtain ⟨place, inside⟩ := exists_part member
      apply ih c member
      intro name label
      rw [c.labels_outline _ place] at label
      exact scripted.2 name (List.mem_flatMap_of_mem inside label)
    rw [fst_create, fst_create]
    cases found : r.find? typeName with
    | none => exact .none
    | some entry =>
      exact instantiate_twins below height part ctx ctx' (scripted.1 entry found) typeName

end SkillScript
