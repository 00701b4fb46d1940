import SkillScript.Proofs.Tree.Images
import SkillScript.Proofs.Tree.Rows
/-!
# Creations of greater height

How high the trees may become in which a node is created makes no difference to the
node, if it fits in. Nor does it matter how many nodes there are already, or which have
ended: a creation looks at the scope and at how many behaviors of the host have started.
-/
set_option autoImplicit false
namespace SkillScript

/-- A relation that holds between contexts after the same creations and releases if it held before,
and that does not let them differ in what creations look at. -/
structure Steady (R : Context → Context → Prop) : Prop where
  scope {a b : Context} (related : R a b) : a.toScope = b.toScope
  started {a b : Context} (related : R a b) : a.started = b.started
  written (f : Scope → Scope) {a b : Context} (related : R a b) :
    R { a with toScope := f a.toScope } { b with toScope := f b.toScope }
  opened (number : Option Nat) {a b : Context} (related : R a b) :
    R { a with toCensus := a.toCensus.opened number } { b with toCensus := b.toCensus.opened number }
  closed (number : Option Nat) {a b : Context} (related : R a b) :
    R { a with toCensus := a.toCensus.closed number } { b with toCensus := b.toCensus.closed number }
  born {a b : Context} (related : R a b) : R a.born b.born
  buried {a b : Context} (related : R a b) : R a.buried b.buried

theorem Steady.eq : Steady Eq := by
  constructor <;> (intros; subst_vars; rfl)

structure Context.Level (a b : Context) : Prop where
  scope : a.toScope = b.toScope
  started : a.started = b.started

theorem Steady.level : Steady Context.Level where
  scope related := related.scope
  started related := related.started
  written f _ _ related := ⟨congrArg f related.scope, related.started⟩
  opened number _ _ related := by
    cases number with
    | none => exact related
    | some n => exact ⟨related.scope, congrArg (· + 1) related.started⟩
  closed number _ _ related := by
    cases number <;> exact ⟨related.scope, related.started⟩
  born related := ⟨related.scope, related.started⟩
  buried related := ⟨related.scope, related.started⟩

variable {R : Context → Context → Prop} (steady : Steady R)

/-! ## Releases -/

theorem related_foldl {α : Type} {f : Context → α → Context}
    (kept : ∀ {a b} (x : α), R a b → R (f a x) (f b x)) (l : List α) {a b : Context}
    (related : R a b) : R (l.foldl f a) (l.foldl f b) := by
  induction l generalizing a b with
  | nil => exact related
  | cons x rest ih => exact ih (kept x related)

class Behaves.Impartial (β : Type) [Behaves β] : Prop where
  destroy {R : Context → Context → Prop} (steady : Steady R) {a b : Context} (related : R a b)
    (x : β) : R (destroy a x) (destroy b x)

instance : Behaves.Impartial Empty where
  destroy _ _ _ _ x := nomatch x

theorem Behaves.Impartial.release {β : Type} [Behaves β] [Behaves.Impartial β] (steady : Steady R)
    {a b : Context} (related : R a b) (x : β) : R (Behaves.release a x) (Behaves.release b x) :=
  steady.buried (destroy steady related x)

section

include steady

namespace Condition

mutual

theorem steady_destroy {a b : Context} (related : R a b) :
    ∀ c : Condition, R (c.destroy a) (c.destroy b)
  | .sensor _ x => steady.written (fun s => { s with bus := (x.deactivate s.bus).2 }) related
  | .gate _ _ children => steady_releaseAll related children

theorem steady_releaseAll {a b : Context} (related : R a b) :
    ∀ cs : List Condition, R (releaseAll a cs) (releaseAll b cs)
  | [] => related
  | c :: rest => steady_releaseAll (steady.buried (steady_destroy related c)) rest

end

end Condition

theorem Transition.steady_release {a b : Context} (related : R a b) (t : Transition) :
    R (t.release a) (t.release b) :=
  steady.buried (steady.buried (Condition.steady_destroy steady related t.condition))

variable {β : Type} [Behaves β] [Behaves.Impartial β]

theorem State.steady_release {a b : Context} (related : R a b) (s : State β) :
    R (s.release a) (s.release b) := by
  have each {a b : Context} (x : β) (related : R a b) :
      R (Behaves.release a x) (Behaves.release b x) :=
    Behaves.Impartial.release steady related x
  have behaviors := related_foldl each s.behavior.toList related
  have exits := related_foldl each s.exit.toList behaviors
  exact steady.buried
    (related_foldl (fun t related => t.steady_release steady related) s.transitions exits)

end

instance Node.impartial {β : Type} [Behaves β] [Behaves.Impartial β] :
    Behaves.Impartial (Node β) where
  destroy {R} steady {a b} related n := by
    have each {a b : Context} (x : β) (related : R a b) :
        R (Behaves.release a x) (Behaves.release b x) :=
      Behaves.Impartial.release steady related x
    show R (n.logic.onDestroy a) (n.logic.onDestroy b)
    cases n.logic with
    | task t => exact steady.closed t.number? (steady.written t.destroy related)
    | sequence s => exact related_foldl each s.children related
    | parallel p => exact related_foldl each _ related
    | machine m =>
      have states {a b : Context} (s : State β) (related : R a b) :
          R (s.release a) (s.release b) := State.steady_release steady related s
      exact related_foldl states m.states related

instance Behavior.impartial : (height : Nat) → Behaves.Impartial (Behavior height)
  | 0 => inferInstanceAs (Behaves.Impartial Empty)
  | height + 1 =>
    have := impartial height
    inferInstanceAs (Behaves.Impartial (Node (Behavior height)))

/-! ## Creations -/

/-- What was created is an image of what was created elsewhere. -/
structure Lifted {α γ : Type} (R : Context → Context → Prop) (f : α → γ) (p : α × Context)
    (p' : γ × Context) : Prop where
  made : p'.1 = f p.1
  effects : R p.2 p'.2

section Fit

variable {β γ α δ : Type} [Behaves β] [Behaves γ] [Behaves.Impartial β] {f : β → γ} {g : α → δ}
  {fits : AnyNode β → Option α} {fits' : AnyNode γ → Option δ}
  {p : Option (AnyNode β) × Context} {p' : Option (AnyNode γ) × Context}

theorem AnyNode.steady_release (steady : Steady R) {a b : Context} (related : R a b)
    (n : AnyNode β) : R (n.release a) (n.release b) := by
  cases n with
  | behavior n => exact Behaves.Impartial.release steady related n
  | condition c => exact steady.buried (c.steady_destroy steady related)
  | state s => exact s.steady_release steady related
  | transition t => exact t.steady_release steady related

theorem fit_lifted (steady : Steady R) (respects : Behaves.Respects f)
    (same : ∀ n, fits' (n.map f) = (fits n).map g)
    (lifted : Lifted R (Option.map (AnyNode.map f)) p p') :
    Lifted R (Option.map g) (AnyNode.fit fits p) (AnyNode.fit fits' p') := by
  obtain ⟨o, ctx⟩ := p
  obtain ⟨o', ctx'⟩ := p'
  obtain ⟨made, related⟩ := lifted
  cases made
  cases o with
  | none => exact ⟨rfl, related⟩
  | some n =>
    have place := same n
    simp only [AnyNode.fit, place]
    cases fits n with
    | some a => exact ⟨rfl, related⟩
    | none =>
      have released := n.steady_release steady related
      rw [← AnyNode.release_map respects ctx'] at released
      exact ⟨rfl, released⟩

end Fit

theorem ofAny?_map {height : Nat} (n : AnyNode (Behavior height)) :
    Behavior.ofAny? (n.map Behavior.raise) = (Behavior.ofAny? n).map Behavior.raise := by
  cases n <;> rfl

section Maps

variable {β γ : Type} (f : β → γ)

theorem condition?_map (n : AnyNode β) : (n.map f).condition? = n.condition?.map id := by
  cases n <;> rfl

theorem state?_map (n : AnyNode β) : (n.map f).state? = n.state?.map (State.map f) := by
  cases n <;> rfl

theorem transition?_map (n : AnyNode β) : (n.map f).transition? = n.transition?.map id := by
  cases n <;> rfl

end Maps

theorem Lifted.cons {α γ : Type} {g : α → γ} {o : Option α} {o' : Option γ} {l : List α}
    {l' : List γ} (head : o' = o.map g) (tail : l' = l.map g) :
    o'.toList ++ l' = (o.toList ++ l).map g := by
  rw [head, tail, List.map_append, Option.toList_map]

/-- Images are released like what they are images of. -/
theorem released_lifted {β γ : Type} [Behaves β] [Behaves γ] [Behaves.Impartial β] {f : β → γ}
    (steady : Steady R) (respects : Behaves.Respects f) (l : List (State β)) {a b : Context}
    (related : R a b) :
    R (l.foldl State.release a) ((l.map (State.map f)).foldl State.release b) := by
  induction l generalizing a b with
  | nil => exact related
  | cons s rest ih =>
    refine ih ?_
    rw [s.release_map respects b]
    exact s.steady_release steady related

theorem leaf_lifted {β γ : Type} (steady : Steady R) (f : β → γ) (type : NodeType)
    (typeName : String) (body : Body) {ctx ctx' : Context} (related : R ctx ctx') :
    Lifted R (Except.map (AnyNode.map f)) (leaf type typeName body ctx)
      (leaf type typeName body ctx') := by
  have scope := steady.scope related
  have started := steady.started related
  cases type with
  | behavior t =>
    have same : Task.create? ctx.started t body ctx.toScope =
        Task.create? ctx'.started t body ctx'.toScope := by
      rw [scope, started]
    simp only [leaf, same]
    cases Task.create? ctx'.started t body ctx'.toScope with
    | none => exact ⟨rfl, related⟩
    | some made => exact ⟨rfl, steady.opened _ (steady.written (fun _ => made.2) related)⟩
  | condition t =>
    cases body with
    | probe p =>
      simp only [leaf]
      split
      · exact ⟨rfl, related⟩
      · exact ⟨rfl, related⟩
    | _ => exact ⟨rfl, related⟩
  | state => exact ⟨rfl, related⟩
  | transition => exact ⟨rfl, related⟩

section Rows

variable {α γ : Type} {g : α → γ} {make : Context → Config → Option α × Context}
  {make' : Context → Config → Option γ × Context}

theorem createRow_lifted {cs : List Config}
    (each : ∀ c ∈ cs, ∀ a b, R a b → Lifted R (Option.map g) (make a c) (make' b c))
    {a b : Context} (related : R a b) :
    Lifted R (List.map g) (createRow make a cs) (createRow make' b cs) := by
  induction cs generalizing a b with
  | nil => exact ⟨rfl, related⟩
  | cons c rest ih =>
    obtain ⟨first, later⟩ := List.forall_mem_cons.mp each
    have head := first a b related
    have tail := ih later head.effects
    exact ⟨Lifted.cons head.made tail.made, tail.effects⟩

theorem createOption_lifted {c? : Option Config}
    (each : ∀ c ∈ c?.toList, ∀ a b, R a b → Lifted R (Option.map g) (make a c) (make' b c))
    {a b : Context} (related : R a b) :
    Lifted R (Option.map g) (createOption make a c?) (createOption make' b c?) := by
  cases c? with
  | none => exact ⟨rfl, related⟩
  | some c => exact each c (List.mem_singleton_self c) a b related

end Rows

def Config.Lifts (R : Context → Context → Prop) (r : Registry) (c : Config) : Prop :=
  ∀ height a b, R a b → c.height ≤ height →
    Lifted R (Option.map (AnyNode.map Behavior.raise)) (create r height a c)
      (create r (height + 1) b c)

section Places

variable {r : Registry} {c : Config} {height : Nat}
include steady

theorem createFor_lifted {α δ : Type} {g : α → δ}
    {fits : AnyNode (Behavior height) → Option α}
    {fits' : AnyNode (Behavior (height + 1)) → Option δ}
    (same : ∀ n, fits' (n.map Behavior.raise) = (fits n).map g) (lifts : c.Lifts R r)
    (lower : c.height < height) (a b : Context) (related : R a b) :
    Lifted R (Option.map g) (createFor r height fits a c) (createFor r (height + 1) fits' b c) :=
  fit_lifted steady (Behavior.respects_raise height) same
    (lifts height a b related (Nat.le_of_lt lower))

theorem createBehavior_lifted (lifts : c.Lifts R r) (lower : c.height < height) (a b : Context)
    (related : R a b) :
    Lifted R (Option.map Behavior.raise) (createBehavior r height a c)
      (createBehavior r (height + 1) b c) := by
  cases height with
  | zero => exact absurd lower (Nat.not_lt_zero _)
  | succ height =>
    exact fit_lifted steady (Behavior.respects_raise height) ofAny?_map
      (lifts height a b related (Nat.le_of_lt_succ lower))

theorem createCondition_lifted (lifts : c.Lifts R r) (lower : c.height < height) (a b : Context)
    (related : R a b) :
    Lifted R (Option.map id) (createFor r height AnyNode.condition? a c)
      (createFor r (height + 1) AnyNode.condition? b c) :=
  createFor_lifted steady (condition?_map _) lifts lower a b related

end Places

/-- States that are lifted one by one take the same positions. -/
theorem createStates_lifted {r : Registry} {height : Nat} {cs : List (String × Config)}
    (each : ∀ c ∈ cs.map Prod.snd, ∀ a b, R a b →
      Lifted R (Option.map (State.map Behavior.raise)) (createFor r height AnyNode.state? a c)
        (createFor r (height + 1) AnyNode.state? b c))
    {a b : Context} (related : R a b) (next : Nat) (index : Table String Nat) :
    (createStates r (height + 1) b next index cs).1 =
        (createStates r height a next index cs).1.map (State.map Behavior.raise) ∧
      (createStates r (height + 1) b next index cs).2.1 =
        (createStates r height a next index cs).2.1 ∧
      R (createStates r height a next index cs).2.2
        (createStates r (height + 1) b next index cs).2.2 := by
  induction cs generalizing a b next index with
  | nil => exact ⟨rfl, rfl, related⟩
  | cons c rest ih =>
    obtain ⟨first, later⟩ := List.forall_mem_cons.mp each
    have head := first a b related
    unfold createFor at head
    unfold createStates
    generalize AnyNode.fit AnyNode.state? (create r height a c.2) = p at head ⊢
    generalize AnyNode.fit AnyNode.state? (create r (height + 1) b c.2) = p' at head ⊢
    obtain ⟨o, after⟩ := p
    obtain ⟨o', after'⟩ := p'
    obtain ⟨made, effects⟩ := head
    cases made
    cases o with
    | none => exact ih later effects next index
    | some s =>
      obtain ⟨states, positions, effects⟩ := ih later effects (next + 1) (index.insert c.1 next)
      exact ⟨congrArg (_ :: ·) states, positions, effects⟩

theorem instantiate_lifted (steady : Steady R) {r : Registry} {body : Body}
    (below : ∀ c ∈ body.children, c.Lifts R r) (height : Nat) {a b : Context} (related : R a b)
    (type : NodeType) (typeName : String) (enough : body.height ≤ height) :
    Lifted R (Except.map (AnyNode.map Behavior.raise)) (instantiate r height a type typeName body)
      (instantiate r (height + 1) b type typeName body) := by
  have lower := body.height_le_iff.mp enough
  cases body with
  | composite children =>
    have lifted := createRow_lifted
      (fun c member => createBehavior_lifted steady (below c member) (lower c member)) related
    rw [Body.children, ← createBehaviors_eq, ← createBehaviors_eq] at lifted
    unfold instantiate
    split
    · refine ⟨?_, lifted.effects⟩
      dsimp only
      rw [lifted.made]
      rfl
    · refine ⟨?_, lifted.effects⟩
      have lanes (l : List (Behavior height)) :
          (l.map Behavior.raise).map (fun c => ({ child := c } : Lane _)) =
            (l.map fun c => ({ child := c } : Lane _)).map (Lane.map Behavior.raise) := by
        rw [List.map_map, List.map_map]
        rfl
      dsimp only
      rw [lifted.made, lanes]
      rfl
    · exact ⟨rfl, related⟩
  | negation condition =>
    have lifted := createOption_lifted
      (fun c member => createCondition_lifted steady (below c member) (lower c member)) related
    rw [← createCondition?_eq, ← createCondition?_eq] at lifted
    unfold instantiate
    split
    · generalize createCondition? r height a condition = p at lifted ⊢
      generalize createCondition? r (height + 1) b condition = p' at lifted ⊢
      obtain ⟨o, after⟩ := p
      obtain ⟨o', after'⟩ := p'
      obtain ⟨made, effects⟩ := lifted
      cases made
      cases o <;> exact ⟨rfl, effects⟩
    · exact ⟨rfl, related⟩
  | junction conditions =>
    have lifted := createRow_lifted
      (fun c member => createCondition_lifted steady (below c member) (lower c member)) related
    rw [Body.children, ← createConditions_eq, ← createConditions_eq] at lifted
    have same := lifted.made
    rw [List.map_id] at same
    unfold instantiate
    split
    · dsimp only
      rw [same]
      exact ⟨rfl, lifted.effects⟩
    · dsimp only
      rw [same]
      exact ⟨rfl, lifted.effects⟩
    · exact ⟨rfl, related⟩
  | fsm initial states =>
    obtain ⟨made, positions, effects⟩ := createStates_lifted
      (fun c member => createFor_lifted steady (state?_map _) (below c member) (lower c member))
      related 0 ∅
    unfold instantiate
    split
    · dsimp only
      rw [positions]
      split
      · refine ⟨?_, effects⟩
        rw [made]
        rfl
      · refine ⟨rfl, ?_⟩
        rw [made]
        exact released_lifted steady (Behavior.respects_raise height) _ effects
    · exact ⟨rfl, related⟩
  | state id endEvent behavior exit transitions =>
    obtain ⟨pair, moves⟩ := List.forall_mem_append.mp below
    obtain ⟨behaviors, exits⟩ := List.forall_mem_append.mp pair
    obtain ⟨pairLower, movesLower⟩ := List.forall_mem_append.mp lower
    obtain ⟨behaviorsLower, exitsLower⟩ := List.forall_mem_append.mp pairLower
    have first := createOption_lifted (fun c member =>
      createBehavior_lifted steady (behaviors c member) (behaviorsLower c member)) related
    rw [← createBehavior?_eq, ← createBehavior?_eq] at first
    have second := createOption_lifted (fun c member =>
      createBehavior_lifted steady (exits c member) (exitsLower c member)) first.effects
    rw [← createBehavior?_eq, ← createBehavior?_eq] at second
    have last := createRow_lifted (fun c member =>
      createFor_lifted steady (transition?_map _) (moves c member) (movesLower c member))
      second.effects
    rw [← createTransitions_eq, ← createTransitions_eq] at last
    have same := last.made
    rw [List.map_id] at same
    unfold instantiate
    split
    · refine ⟨?_, last.effects⟩
      dsimp only
      rw [first.made, second.made, same]
      rfl
    · exact ⟨rfl, related⟩
  | transition condition onTrue onFalse interval =>
    have lifted := createOption_lifted
      (fun c member => createCondition_lifted steady (below c member) (lower c member)) related
    rw [← createCondition?_eq, ← createCondition?_eq] at lifted
    unfold instantiate
    split
    · generalize createCondition? r height a condition = p at lifted ⊢
      generalize createCondition? r (height + 1) b condition = p' at lifted ⊢
      obtain ⟨o, after⟩ := p
      obtain ⟨o', after'⟩ := p'
      obtain ⟨made, effects⟩ := lifted
      cases made
      cases o with
      | none => exact ⟨rfl, effects⟩
      | some c =>
        refine ⟨?_, effects⟩
        have vars : after.vars = after'.vars := congrArg Scope.vars (steady.scope effects)
        dsimp only [Option.map_some, id]
        rw [vars]
        rfl
    · exact ⟨rfl, related⟩
  | _ => exact leaf_lifted steady Behavior.raise type typeName _ related

theorem create_lifted (steady : Steady R) (r : Registry) (height : Nat) {ctx ctx' : Context}
    (related : R ctx ctx') (c : Config) (enough : c.height ≤ height) :
    Lifted R (Option.map (AnyNode.map Behavior.raise)) (create r height ctx c)
      (create r (height + 1) ctx' c) := by
  induction c using Config.byChildren generalizing height ctx ctx' with
  | node typeName category body below =>
    have lifts : ∀ c ∈ body.children, c.Lifts R r :=
      fun c member height _ _ related enough => below c member height related enough
    unfold create
    cases r.find? typeName with
    | none => exact ⟨rfl, related⟩
    | some entry =>
      have lifted :=
        instantiate_lifted steady lifts height related entry.implementation typeName enough
      dsimp only
      generalize instantiate r height ctx entry.implementation typeName body = p at lifted ⊢
      generalize instantiate r (height + 1) ctx' entry.implementation typeName body = p' at lifted ⊢
      obtain ⟨o, after⟩ := p
      obtain ⟨o', after'⟩ := p'
      obtain ⟨made, effects⟩ := lifted
      cases made
      cases o with
      | ok n => exact ⟨rfl, steady.born effects⟩
      | error e => exact ⟨rfl, effects⟩

theorem createBehaviors_lifted (steady : Steady R) (r : Registry) (height : Nat)
    {ctx ctx' : Context} (related : R ctx ctx') (cs : List Config)
    (enough : listHeight cs ≤ height) :
    Lifted R (List.map Behavior.raise) (createBehaviors r height ctx cs)
      (createBehaviors r (height + 1) ctx' cs) := by
  rw [createBehaviors_eq, createBehaviors_eq]
  refine createRow_lifted ?_ related
  intro c member
  exact createBehavior_lifted steady
    (fun height a b related enough => create_lifted steady r height related c enough)
    ((listHeight_le_iff cs).mp enough c member)

end SkillScript
