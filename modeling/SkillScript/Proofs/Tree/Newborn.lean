import SkillScript.Proofs.Tree.Create
import SkillScript.Proofs.Tree.Pristine
import SkillScript.Proofs.Tree.Rows
/-!
# Created nodes

What a creation returns has not done anything yet, and nothing below it has: no node
is active or has begun, no state has ended, no position was taken, and conditions
are as their configuration describes them. What holds of every such node and is
kept by every call holds of a node for ever.
-/
set_option autoImplicit false
namespace SkillScript

class Nascent (β : Type) where
  Newborn : β → Prop

instance : Nascent Empty where
  Newborn b := nomatch b

def Condition.Newborn (c : Condition) : Prop :=
  c.pristine = c

theorem Condition.newborn_gate (g : Gate) {children : List Condition}
    (newborn : ∀ c ∈ children, c.Newborn) : (gate false g children).Newborn := by
  rw [Condition.Newborn, pristine, pristineAll_eq, List.map_congr_left newborn, List.map_id']

structure Transition.Newborn (t : Transition) : Prop where
  active : t.active = false
  condition : t.condition.Newborn
  evaluations : t.evaluations = 0

variable {β : Type} [Nascent β]

structure State.Newborn (s : State β) : Prop where
  active : s.active = false
  behavior : ∀ b ∈ s.behavior, Nascent.Newborn b
  exit : ∀ b ∈ s.exit, Nascent.Newborn b
  transitions : ∀ t ∈ s.transitions, t.Newborn
  ended : s.ended = false

structure Sequence.Newborn (s : Sequence β) : Prop where
  children : ∀ c ∈ s.children, Nascent.Newborn c
  index : s.index = 0
  started : s.started = false

structure Parallel.Newborn (p : Parallel β) : Prop where
  lanes : ∀ l ∈ p.lanes, Nascent.Newborn l.child ∧ l.finished = false
  started : p.started = false

structure Machine.Newborn (m : Machine β) : Prop where
  states : ∀ s ∈ m.states, s.Newborn
  current : m.current = none
  switches : m.switches = 0

def Logic.Newborn : Logic β → Prop
  | task _ => True
  | sequence s => s.Newborn
  | parallel p => p.Newborn
  | machine m => m.Newborn

structure Node.Newborn (n : Node β) : Prop where
  active : n.active = false
  begun : n.begun = false
  logic : n.logic.Newborn

instance Node.nascent : Nascent (Node β) where
  Newborn n := n.Newborn

instance Behavior.nascent : (height : Nat) → Nascent (Behavior height)
  | 0 => inferInstanceAs (Nascent Empty)
  | height + 1 =>
    let _ := nascent height
    inferInstanceAs (Nascent (Node (Behavior height)))

namespace AnyNode

def Newborn : AnyNode β → Prop
  | behavior n => n.Newborn
  | condition c => c.Newborn
  | state s => s.Newborn
  | transition t => t.Newborn

theorem newborn_condition (n : AnyNode β) (c : Condition) (fits : n.condition? = some c)
    (newborn : n.Newborn) : c.Newborn := by
  cases n <;> cases fits
  exact newborn

theorem newborn_state (n : AnyNode β) (s : State β) (fits : n.state? = some s)
    (newborn : n.Newborn) : s.Newborn := by
  cases n <;> cases fits
  exact newborn

theorem newborn_transition (n : AnyNode β) (t : Transition) (fits : n.transition? = some t)
    (newborn : n.Newborn) : t.Newborn := by
  cases n <;> cases fits
  exact newborn

theorem newborn_behavior {height : Nat} (n : AnyNode (Behavior height)) (b : Behavior (height + 1))
    (fits : Behavior.ofAny? n = some b) (newborn : n.Newborn) : Nascent.Newborn b := by
  cases n <;> cases fits
  exact newborn

/-- What fits a place is newborn if what was created for it is. -/
theorem newborn_fit [Behaves β] {α : Type} {fits : AnyNode β → Option α} {P : α → Prop}
    (passes : ∀ n a, fits n = some a → n.Newborn → P a) {p : Option (AnyNode β) × Context}
    (newborn : ∀ n ∈ p.1, n.Newborn) : ∀ a ∈ (fit fits p).1, P a := by
  intro a made
  rw [fst_fit] at made
  obtain ⟨n, created, fitting⟩ := Option.bind_eq_some_iff.mp made
  exact passes n a fitting (newborn n created)

end AnyNode

theorem leaf_newborn {type : NodeType} {typeName : String} {body : Body} {ctx : Context}
    {n : AnyNode β} (made : (leaf type typeName body ctx).1 = .ok n) : n.Newborn := by
  unfold leaf at made
  dsimp only at made
  split at made
  · split at made
    · cases made
      exact ⟨rfl, rfl, trivial⟩
    · cases made
  · split at made
    · cases made
      rename_i p _
      cases p <;> rfl
    · cases made
  · cases made

section Rows

variable {α : Type} {P : α → Prop} {make : Context → Config → Option α × Context} {ctx : Context}

theorem createRow_newborn {cs : List Config} {p : List α × Context}
    (made : createRow make ctx cs = p) (each : ∀ c ∈ cs, ∀ ctx, ∀ a ∈ (make ctx c).1, P a) :
    ∀ a ∈ p.1, P a := by
  subst made
  induction cs generalizing ctx with
  | nil => nofun
  | cons c rest ih =>
    obtain ⟨first, later⟩ := List.forall_mem_cons.mp each
    intro a member
    rcases List.mem_append.mp member with head | tail
    · exact first ctx a (Option.mem_toList.mp head)
    · exact ih later a tail

theorem createOption_newborn {c? : Option Config} {p : Option α × Context}
    (made : createOption make ctx c? = p)
    (each : ∀ c ∈ c?.toList, ∀ ctx, ∀ a ∈ (make ctx c).1, P a) : ∀ a ∈ p.1, P a := by
  subst made
  cases c? with
  | none => nofun
  | some c => exact each c (List.mem_singleton_self c) ctx

end Rows

def Config.Bears (r : Registry) (c : Config) : Prop :=
  ∀ height ctx, ∀ n ∈ (create r height ctx c).1, n.Newborn

variable {r : Registry}

theorem createBehavior_newborn {c : Config} (bears : c.Bears r) (height : Nat) (ctx : Context) :
    ∀ b ∈ (createBehavior r height ctx c).1, Nascent.Newborn b := by
  cases height with
  | zero => nofun
  | succ height => exact AnyNode.newborn_fit AnyNode.newborn_behavior (bears height ctx)

theorem createFor_newborn {height : Nat} {α : Type} {fits : AnyNode (Behavior height) → Option α}
    {P : α → Prop} (passes : ∀ n a, fits n = some a → n.Newborn → P a) {c : Config}
    (bears : c.Bears r) (ctx : Context) : ∀ a ∈ (createFor r height fits ctx c).1, P a :=
  AnyNode.newborn_fit passes (bears height ctx)

theorem createCondition_newborn {height : Nat} {c : Config} (bears : c.Bears r) (ctx : Context) :
    ∀ k ∈ (createFor r height AnyNode.condition? ctx c).1, k.Newborn :=
  createFor_newborn AnyNode.newborn_condition bears ctx

theorem instantiate_newborn {body : Body} (below : ∀ c ∈ body.children, c.Bears r) (height : Nat)
    (ctx : Context) (type : NodeType) (typeName : String) :
    ∀ n, (instantiate r height ctx type typeName body).1 = .ok n → n.Newborn := by
  have outcome := instantiate_outcome r height ctx type typeName body
  generalize instantiate r height ctx type typeName body = p at outcome ⊢
  cases outcome with
  | childless => exact fun _ => leaf_newborn
  | sequence made =>
    rintro _ ⟨⟩
    exact ⟨rfl, rfl, createRow_newborn made fun c member =>
      createBehavior_newborn (below c member) height, rfl, rfl⟩
  | parallel made =>
    have born := createRow_newborn made fun c member =>
      createBehavior_newborn (below c member) height
    rintro _ ⟨⟩
    refine ⟨rfl, rfl, ?_, rfl⟩
    intro l member
    obtain ⟨b, inside, rfl⟩ := List.mem_map.mp member
    exact ⟨born b inside, rfl⟩
  | negation made =>
    have born := createOption_newborn made fun c member => createCondition_newborn (below c member)
    rintro _ ⟨⟩
    exact Condition.newborn_gate .not (List.forall_mem_singleton.mpr (born _ rfl))
  | junction made =>
    rintro _ ⟨⟩
    exact Condition.newborn_gate _ (createRow_newborn made fun c member =>
      createCondition_newborn (below c member))
  | machine made positions known =>
    rintro _ ⟨⟩
    exact ⟨rfl, rfl, createRow_newborn made fun c member =>
      createFor_newborn AnyNode.newborn_state (below c member), rfl, rfl⟩
  | state first second last =>
    obtain ⟨pair, moves⟩ := List.forall_mem_append.mp below
    obtain ⟨behaviors, exits⟩ := List.forall_mem_append.mp pair
    have behaviorBorn := createOption_newborn first fun c member =>
      createBehavior_newborn (behaviors c member) height
    have exitBorn := createOption_newborn second fun c member =>
      createBehavior_newborn (exits c member) height
    have transitionsBorn := createRow_newborn last fun c member =>
      createFor_newborn AnyNode.newborn_transition (moves c member)
    rintro _ ⟨⟩
    exact ⟨rfl, behaviorBorn, exitBorn, transitionsBorn, rfl⟩
  | transition made =>
    have born := createOption_newborn made fun c member => createCondition_newborn (below c member)
    rintro _ ⟨⟩
    exact ⟨rfl, born _ rfl, rfl⟩
  | _ =>
    intro n made
    cases made

theorem create_newborn (r : Registry) (height : Nat) (ctx : Context) (c : Config) :
    ∀ n ∈ (create r height ctx c).1, n.Newborn := by
  induction c using Config.byChildren generalizing height ctx with
  | node typeName category body below =>
    intro n created
    rw [fst_create] at created
    obtain ⟨entry, found, made⟩ := Option.bind_eq_some_iff.mp created
    have newborn := instantiate_newborn below height ctx entry.implementation typeName n
    cases result : (instantiate r height ctx entry.implementation typeName body).1 with
    | error e =>
      rw [result] at made
      cases made
    | ok n' =>
      rw [result] at made newborn
      cases made
      exact newborn rfl

end SkillScript
