import SkillScript.Node.Handle
import SkillScript.Proofs.Status.Node
import SkillScript.Proofs.Tree.Rows
/-!
# Created trees are in order

Every node is created at rest, with everything below it at rest, and in strict
order. A machine is created with its states at the positions that its index names,
its initial state among them. Creating and releasing nodes refuses nothing.
-/
set_option autoImplicit false
namespace SkillScript

/-! ## Releases -/

class Behaves.Lenient (β : Type) [Behaves β] : Prop where
  refusals_release (ctx : Context) (b : β) : (release ctx b).refusals = ctx.refusals

instance : Behaves.Lenient Empty where
  refusals_release _ b := nomatch b

theorem refusals_foldl {α : Type} {f : Context → α → Context}
    (same : ∀ ctx a, (f ctx a).refusals = ctx.refusals) (ctx : Context) (l : List α) :
    (l.foldl f ctx).refusals = ctx.refusals := by
  induction l generalizing ctx with
  | nil => rfl
  | cons a rest ih => exact (ih _).trans (same ctx a)

namespace Condition

mutual

theorem refusals_release (ctx : Context) :
    ∀ c : Condition, (c.release ctx).refusals = ctx.refusals
  | .sensor _ _ => rfl
  | .gate _ _ children => refusals_releaseAll ctx children

theorem refusals_releaseAll (ctx : Context) :
    ∀ cs : List Condition, (releaseAll ctx cs).refusals = ctx.refusals
  | [] => rfl
  | c :: rest => by
    have head := refusals_release ctx c
    rw [releaseAll, refusals_releaseAll _ rest]
    exact head

end

end Condition

theorem Transition.refusals_release (ctx : Context) (t : Transition) :
    (t.release ctx).refusals = ctx.refusals :=
  t.condition.refusals_release ctx

variable {β : Type} [Behaves β]

theorem State.refusals_release [Behaves.Lenient β] (ctx : Context) (s : State β) :
    (s.release ctx).refusals = ctx.refusals := by
  show (s.destroy ctx).refusals = ctx.refusals
  unfold destroy
  dsimp only
  rw [refusals_foldl Transition.refusals_release,
    refusals_foldl Behaves.Lenient.refusals_release,
    refusals_foldl Behaves.Lenient.refusals_release]

instance Node.lenient [Behaves.Lenient β] : Behaves.Lenient (Node β) where
  refusals_release ctx n := by
    show (n.logic.onDestroy ctx).refusals = ctx.refusals
    cases n.logic with
    | task t => rfl
    | sequence s => exact refusals_foldl Behaves.Lenient.refusals_release ctx s.children
    | parallel p => exact refusals_foldl Behaves.Lenient.refusals_release ctx _
    | machine m => exact refusals_foldl State.refusals_release ctx m.states

instance Behavior.lenient : (height : Nat) → Behaves.Lenient (Behavior height)
  | 0 => inferInstanceAs (Behaves.Lenient Empty)
  | height + 1 =>
    have := lenient height
    inferInstanceAs (Behaves.Lenient (Node (Behavior height)))

/-! ## Creation -/

def AnyNode.Fresh [Ordered β] (strict : Bool) : AnyNode β → Prop
  | behavior n => n.active = false ∧ Ordered.Orderly strict n
  | condition c => c.isActive = false ∧ c.Orderly
  | state s => s.active = false ∧ s.Orderly strict
  | transition t => t.active = false ∧ t.Orderly

/-- What a creation returned is fresh, if anything, and nothing was refused on the way. -/
structure Begun {α : Type} (fresh : α → Prop) (before : Context) (p : Option α × Context) :
    Prop where
  fresh : ∀ a ∈ p.1, fresh a
  granted : p.2.refusals = before.refusals

theorem Begun.nothing {α : Type} {fresh : α → Prop} {before after : Context}
    (granted : after.refusals = before.refusals) : Begun fresh before (none, after) :=
  ⟨by simp, granted⟩

theorem Begun.made {α : Type} {fresh : α → Prop} {before after : Context} {a : α}
    (freshly : fresh a) (granted : after.refusals = before.refusals) :
    Begun fresh before (some a, after) := by
  refine ⟨?_, granted⟩
  intro a' same
  cases same
  exact freshly

structure Instantiated [Ordered β] (strict : Bool) (before : Context)
    (p : Except NodeError (AnyNode β) × Context) : Prop where
  fresh : ∀ n, p.1 = .ok n → n.Fresh strict
  granted : p.2.refusals = before.refusals

theorem Instantiated.failed [Ordered β] {strict : Bool} {before after : Context} (e : NodeError)
    (granted : after.refusals = before.refusals) :
    Instantiated (β := β) strict before (.error e, after) :=
  ⟨by simp, granted⟩

theorem Instantiated.made [Ordered β] {strict : Bool} {before after : Context} {n : AnyNode β}
    (fresh : n.Fresh strict) (granted : after.refusals = before.refusals) :
    Instantiated strict before (.ok n, after) := by
  refine ⟨?_, granted⟩
  intro n' same
  cases same
  exact fresh

theorem fit_begun [Ordered β] [Behaves.Lenient β] {α : Type} {strict : Bool}
    {fits : AnyNode β → Option α} {fresh : α → Prop} {before : Context}
    {p : Option (AnyNode β) × Context}
    (kept : ∀ n a, fits n = some a → n.Fresh strict → fresh a)
    (begun : Begun (AnyNode.Fresh strict) before p) : Begun fresh before (AnyNode.fit fits p) := by
  obtain ⟨node, ctx⟩ := p
  cases node with
  | none => exact .nothing begun.granted
  | some n =>
    simp only [AnyNode.fit]
    cases fitting : fits n with
    | some a => exact .made (kept n a fitting (begun.fresh n rfl)) begun.granted
    | none =>
      refine .nothing ?_
      have released : (n.release ctx).refusals = ctx.refusals := by
        cases n with
        | behavior n => exact Behaves.Lenient.refusals_release ctx n
        | condition c => exact c.refusals_release ctx
        | state s => exact s.refusals_release ctx
        | transition t => exact t.refusals_release ctx
      exact released.trans begun.granted

theorem leaf_instantiated [Ordered β] (strict : Bool) (type : NodeType) (typeName : String)
    (body : Body) (ctx : Context) :
    Instantiated strict ctx (leaf (β := β) type typeName body ctx) := by
  unfold leaf
  cases type with
  | behavior t =>
    dsimp only
    split
    · exact .made ⟨rfl, trivial⟩ rfl
    · exact .failed _ rfl
  | condition t =>
    cases body with
    | probe p =>
      dsimp only
      split
      · refine .made ⟨rfl, ?_⟩ rfl
        cases p <;> trivial
      · exact .failed _ rfl
    | _ => exact .failed _ rfl
  | state => exact .failed _ rfl
  | transition => exact .failed _ rfl

structure AllBegun {α : Type} (fresh : α → Prop) (before : Context) (p : List α × Context) :
    Prop where
  fresh : ∀ a ∈ p.1, fresh a
  granted : p.2.refusals = before.refusals

theorem AllBegun.nil {α : Type} {fresh : α → Prop} (ctx : Context) :
    AllBegun fresh ctx ([], ctx) :=
  ⟨by simp, rfl⟩

theorem Begun.cons {α : Type} {fresh : α → Prop} {before : Context} {p : Option α × Context}
    {q : List α × Context} (head : Begun fresh before p) (tail : AllBegun fresh p.2 q) :
    AllBegun fresh before (p.1.toList ++ q.1, q.2) := by
  refine ⟨?_, tail.granted.trans head.granted⟩
  intro a member
  rcases List.mem_append.mp member with first | later
  · exact head.fresh a (Option.mem_toList.mp first)
  · exact tail.fresh a later

def Behavior.Fresh {height : Nat} (strict : Bool) (b : Behavior height) : Prop :=
  Behaves.isActive b = false ∧ Ordered.Orderly strict b

def Condition.Fresh (c : Condition) : Prop :=
  c.isActive = false ∧ c.Orderly

def Transition.Fresh (t : Transition) : Prop :=
  t.active = false ∧ t.Orderly

def State.Fresh [Ordered β] (strict : Bool) (s : State β) : Prop :=
  s.active = false ∧ s.Orderly strict

theorem behavior_fresh {height : Nat} (strict : Bool) (n : AnyNode (Behavior height))
    (b : Behavior (height + 1)) (fits : Behavior.ofAny? n = some b) (fresh : n.Fresh strict) :
    b.Fresh strict := by
  cases n <;> cases fits
  exact fresh

theorem condition_fresh [Ordered β] (strict : Bool) (n : AnyNode β) (c : Condition)
    (fits : n.condition? = some c) (fresh : n.Fresh strict) : c.Fresh := by
  cases n <;> cases fits
  exact fresh

theorem state_fresh [Ordered β] (strict : Bool) (n : AnyNode β) (s : State β)
    (fits : n.state? = some s) (fresh : n.Fresh strict) : s.Fresh strict := by
  cases n <;> cases fits
  exact fresh

theorem transition_fresh [Ordered β] (strict : Bool) (n : AnyNode β) (t : Transition)
    (fits : n.transition? = some t) (fresh : n.Fresh strict) : t.Fresh := by
  cases n <;> cases fits
  exact fresh

theorem createRow_begun {α : Type} {fresh : α → Prop}
    {make : Context → Config → Option α × Context} {cs : List Config} {ctx : Context}
    {p : List α × Context} (made : createRow make ctx cs = p)
    (each : ∀ c ∈ cs, ∀ ctx, Begun fresh ctx (make ctx c)) : AllBegun fresh ctx p := by
  subst made
  induction cs generalizing ctx with
  | nil => exact .nil ctx
  | cons c rest ih =>
    obtain ⟨first, later⟩ := List.forall_mem_cons.mp each
    exact (first ctx).cons (ih later)

theorem createOption_begun {α : Type} {fresh : α → Prop}
    {make : Context → Config → Option α × Context} {c? : Option Config} {ctx : Context}
    {p : Option α × Context} (made : createOption make ctx c? = p)
    (each : ∀ c ∈ c?.toList, ∀ ctx, Begun fresh ctx (make ctx c)) : Begun fresh ctx p := by
  subst made
  cases c? with
  | none => exact .nothing rfl
  | some c => exact each c (List.mem_singleton_self c) ctx

def Config.Begins (strict : Bool) (r : Registry) (c : Config) : Prop :=
  ∀ height ctx, Begun (AnyNode.Fresh strict) ctx (create r height ctx c)

variable {strict : Bool} {r : Registry}

theorem createBehavior_begun {c : Config} (begins : c.Begins strict r) (height : Nat)
    (ctx : Context) : Begun (Behavior.Fresh strict) ctx (createBehavior r height ctx c) := by
  cases height with
  | zero => exact .nothing rfl
  | succ height => exact fit_begun (behavior_fresh strict) (begins height ctx)

theorem createFor_begun {height : Nat} {α : Type} {fits : AnyNode (Behavior height) → Option α}
    {fresh : α → Prop} (kept : ∀ n a, fits n = some a → n.Fresh strict → fresh a) {c : Config}
    (begins : c.Begins strict r) (ctx : Context) : Begun fresh ctx (createFor r height fits ctx c) :=
  fit_begun kept (begins height ctx)

theorem createCondition_begun {height : Nat} {c : Config} (begins : c.Begins strict r)
    (ctx : Context) : Begun Condition.Fresh ctx (createFor r height AnyNode.condition? ctx c) :=
  createFor_begun (condition_fresh strict) begins ctx

theorem instantiate_begun {body : Body} (below : ∀ c ∈ body.children, c.Begins strict r)
    (height : Nat) (ctx : Context) (type : NodeType) (typeName : String) :
    Instantiated strict ctx (instantiate r height ctx type typeName body) := by
  have outcome := instantiate_outcome r height ctx type typeName body
  generalize instantiate r height ctx type typeName body = p at outcome ⊢
  cases outcome with
  | childless => exact leaf_instantiated strict type typeName body ctx
  | unsuited _ _ e => exact .failed e rfl
  | sequence made =>
    have begun := createRow_begun made fun c member => createBehavior_begun (below c member) height
    refine .made ⟨rfl, ?_, nofun⟩ begun.granted
    intro i b found
    simpa [Behavior.Fresh] using begun.fresh b (List.mem_of_getElem? found)
  | parallel made =>
    have begun := createRow_begun made fun c member => createBehavior_begun (below c member) height
    refine .made ⟨rfl, ?_, nofun⟩ begun.granted
    intro l member
    obtain ⟨b, inside, rfl⟩ := List.mem_map.mp member
    simpa [Behavior.Fresh] using begun.fresh b inside
  | negation made =>
    have begun := createOption_begun made fun c member => createCondition_begun (below c member)
    exact .made ⟨rfl, begun.fresh _ rfl, trivial⟩ begun.granted
  | empty e made =>
    have begun := createOption_begun made fun c member => createCondition_begun (below c member)
    exact .failed e begun.granted
  | junction made =>
    have begun := createRow_begun made fun c member => createCondition_begun (below c member)
    exact .made ⟨rfl, (Condition.orderlyAll_iff _ _).mpr begun.fresh⟩ begun.granted
  | machine made positions known =>
    have begun := createRow_begun made fun c member =>
      createFor_begun (state_fresh strict) (below c member)
    refine .made ⟨rfl, positions, known, nofun, ?_, nofun⟩ begun.granted
    intro i s found
    simpa [State.Fresh] using begun.fresh s (List.mem_of_getElem? found)
  | astray e made =>
    have begun := createRow_begun made fun c member =>
      createFor_begun (state_fresh strict) (below c member)
    exact .failed e ((refusals_foldl State.refusals_release _ _).trans begun.granted)
  | state first second last =>
    obtain ⟨pair, moves⟩ := List.forall_mem_append.mp below
    obtain ⟨behaviors, exits⟩ := List.forall_mem_append.mp pair
    have behaviorBegun := createOption_begun first fun c member =>
      createBehavior_begun (behaviors c member) height
    have exitBegun := createOption_begun second fun c member =>
      createBehavior_begun (exits c member) height
    have transitionsBegun := createRow_begun last fun c member =>
      createFor_begun (transition_fresh strict) (moves c member)
    exact .made ⟨rfl, behaviorBegun.fresh, exitBegun.fresh, transitionsBegun.fresh⟩
      (transitionsBegun.granted.trans (exitBegun.granted.trans behaviorBegun.granted))
  | transition made =>
    have begun := createOption_begun made fun c member => createCondition_begun (below c member)
    exact .made ⟨rfl, (begun.fresh _ rfl).1, (begun.fresh _ rfl).2⟩ begun.granted
  | unconditioned e made =>
    have begun := createOption_begun made fun c member => createCondition_begun (below c member)
    exact .failed e begun.granted

theorem create_begun (strict : Bool) (r : Registry) (height : Nat) (ctx : Context) (c : Config) :
    Begun (AnyNode.Fresh strict) ctx (create r height ctx c) := by
  induction c using Config.byChildren generalizing height ctx with
  | node typeName category body below =>
    have begun := fun type => instantiate_begun below height ctx type typeName
    have creation := create_creation r height ctx typeName category body
    generalize create r height ctx ⟨typeName, category, body⟩ = p at creation ⊢
    cases creation with
    | unknown => exact .nothing rfl
    | @made type n after initialized =>
      have made := begun type
      rw [initialized] at made
      exact .made (made.fresh n rfl) made.granted
    | @failed type e after initialized =>
      have failed := begun type
      rw [initialized] at failed
      exact .nothing failed.granted

end SkillScript
