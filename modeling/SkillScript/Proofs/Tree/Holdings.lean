import SkillScript.Proofs.Reentry.Condition
import SkillScript.Proofs.Status.Create
import SkillScript.Proofs.Tree.Pristine
/-!
# What a tree holds

A tree holds the hooks of the behaviors that the host runs, and the receivers of its
sensors. Hooks belong to the form of a tree and never change. Receivers come and go,
and a tree at rest has none. A release runs hooks, ends receivers, and does nothing
else to the scope: whatever outlives the hooks and the receivers of a tree outlives
the tree.
-/
set_option autoImplicit false
namespace SkillScript

structure Hooks.Keep (h : Hooks) (I : Scope → Prop) : Prop where
  onInitialize : ∀ hook ∈ h.onInitialize, ∀ view s, I s → I (hook view s).2
  onDestroy : ∀ hook ∈ h.onDestroy, ∀ view s, I s → I (hook view s).2

/-- Hooks that do nothing keep everything. -/
theorem Hooks.Keep.absent {h : Hooks} (noInitialize : h.onInitialize = none)
    (noDestroy : h.onDestroy = none) (I : Scope → Prop) : h.Keep I where
  onInitialize := by simp [noInitialize]
  onDestroy := by simp [noDestroy]

/-- What hooks do to a scope: when their behavior comes to life or ends, and while it runs. -/
structure Hooks.Obey (h : Hooks) (still busy : Scope → Scope → Prop) : Prop where
  onInitialize : ∀ hook ∈ h.onInitialize, ∀ view s, still s (hook view s).2
  onBegin : ∀ hook ∈ h.onBegin, ∀ view s, busy s (hook view s).2
  onUpdate : ∀ hook ∈ h.onUpdate, ∀ step view s, busy s (hook step view s).2.2
  onDestroy : ∀ hook ∈ h.onDestroy, ∀ view s, still s (hook view s).2

structure Outlives (I : Scope → Prop) (hs : List Hooks) (rs : List Receiver) : Prop where
  hooks : ∀ h ∈ hs, h.Keep I
  receivers : ∀ receiver ∈ rs, ∀ s : Scope, I s → I { s with bus := s.bus.unsubscribe receiver }

theorem Outlives.mono {I : Scope → Prop} {hs hs' : List Hooks} {rs rs' : List Receiver}
    (outlives : Outlives I hs' rs') (hooks : hs ⊆ hs') (receivers : rs ⊆ rs') :
    Outlives I hs rs where
  hooks h member := outlives.hooks h (hooks member)
  receivers receiver member := outlives.receivers receiver (receivers member)

theorem subset_flatMap_of_mem {α γ : Type} (f : α → List γ) {l : List α} {a : α}
    (member : a ∈ l) : f a ⊆ l.flatMap f := by
  intro c inside
  exact List.mem_flatMap.mpr ⟨a, member, inside⟩

theorem keeps_foldl {α : Type} {I : Scope → Prop} {f : Context → α → Context} {l : List α}
    (keeps : ∀ a ∈ l, ∀ ctx, I ctx.toScope → I (f ctx a).toScope) {ctx : Context}
    (holds : I ctx.toScope) : I (l.foldl f ctx).toScope := by
  induction l generalizing ctx with
  | nil => exact holds
  | cons a rest ih =>
    have first := keeps a (List.mem_cons_self ..) ctx holds
    exact ih (fun b member => keeps b (List.mem_cons_of_mem _ member)) first

/-- Behaviors that hold hooks and receivers, and nothing else that a release could end. -/
class Holding (β : Type) [Behaves β] [Lasting β] [Ordered β] where
  hooks : β → List Hooks
  receivers : β → List Receiver
  hooks_pristine (b : β) : hooks (pristine b) = hooks b
  receivers_resting {strict : Bool} {b : β} (orderly : Ordered.Orderly strict b)
    (resting : Behaves.isActive b = false) : receivers b = []
  release_keeps {I : Scope → Prop} (ctx : Context) (b : β)
    (outlives : Outlives I (hooks b) (receivers b)) (holds : I ctx.toScope) :
    I (Behaves.release ctx b).toScope

instance : Holding Empty where
  hooks b := nomatch b
  receivers b := nomatch b
  hooks_pristine b := nomatch b
  receivers_resting {_} b := nomatch b
  release_keeps _ b := nomatch b

/-! ## Conditions -/

namespace Condition

mutual

def receivers : Condition → List Receiver
  | sensor _ x => x.receiver?.toList
  | gate _ _ children => receiversAll children

def receiversAll : List Condition → List Receiver
  | [] => []
  | c :: rest => receivers c ++ receiversAll rest

end

mutual

theorem receivers_resting : ∀ {c : Condition}, c.Orderly → c.isActive = false → c.receivers = []
  | .sensor active x, orderly, resting => by
    cases resting
    rw [receivers, Sensor.receiver?_of_listens orderly]
    rfl
  | .gate active g children, orderly, resting => by
    cases resting
    exact receiversAll_resting orderly

theorem receiversAll_resting : ∀ {cs : List Condition}, OrderlyAll false cs → receiversAll cs = []
  | [], _ => rfl
  | c :: rest, orderly => by
    have head := receivers_resting orderly.1.2 orderly.1.1
    have tail := receiversAll_resting orderly.2
    rw [receiversAll, head, tail]
    rfl

end

mutual

theorem release_keeps {I : Scope → Prop} (ctx : Context) : ∀ c : Condition,
    Outlives I [] c.receivers → I ctx.toScope → I (c.release ctx).toScope
  | .sensor _ x, outlives, holds => by
    cases x with
    | event name ownerOnly receiver fired =>
      cases receiver with
      | none => exact holds
      | some receiver => exact outlives.receivers receiver (List.mem_cons_self ..) _ holds
    | _ => exact holds
  | .gate _ _ children, outlives, holds => releaseAll_keeps ctx children outlives holds

theorem releaseAll_keeps {I : Scope → Prop} (ctx : Context) : ∀ cs : List Condition,
    Outlives I [] (receiversAll cs) → I ctx.toScope → I (releaseAll ctx cs).toScope
  | [], _, holds => holds
  | c :: rest, outlives, holds => by
    have head := release_keeps ctx c
      (outlives.mono (List.Subset.refl _) (List.subset_append_left ..)) holds
    exact releaseAll_keeps _ rest
      (outlives.mono (List.Subset.refl _) (List.subset_append_right ..)) head

end

end Condition

namespace Transition

def receivers (t : Transition) : List Receiver :=
  t.condition.receivers

theorem receivers_resting {t : Transition} (orderly : t.Orderly) (resting : t.active = false) :
    t.receivers = [] :=
  Condition.receivers_resting orderly.condition (orderly.runs.trans resting)

theorem release_keeps {I : Scope → Prop} (ctx : Context) (t : Transition)
    (outlives : Outlives I [] t.receivers) (holds : I ctx.toScope) :
    I (t.release ctx).toScope :=
  t.condition.release_keeps ctx outlives holds

end Transition

/-! ## States and logics -/

variable {β : Type} [Behaves β] [Lasting β] [Ordered β] [Holding β]

/-- What outlives all elements of a list outlives their releases. -/
theorem Outlives.foldl {α : Type} {I : Scope → Prop} {release : Context → α → Context}
    {hooks : α → List Hooks} {receivers : α → List Receiver}
    (keeps : ∀ ctx a, Outlives I (hooks a) (receivers a) → I ctx.toScope →
      I (release ctx a).toScope)
    {l : List α} (outlives : Outlives I (l.flatMap hooks) (l.flatMap receivers)) {ctx : Context}
    (holds : I ctx.toScope) : I (l.foldl release ctx).toScope := by
  refine keeps_foldl ?_ holds
  intro a member ctx
  exact keeps ctx a
    (outlives.mono (subset_flatMap_of_mem hooks member) (subset_flatMap_of_mem receivers member))

namespace State

def hooks (s : State β) : List Hooks :=
  s.behavior.toList.flatMap Holding.hooks ++ s.exit.toList.flatMap Holding.hooks

def receivers (s : State β) : List Receiver :=
  s.behavior.toList.flatMap Holding.receivers ++ s.exit.toList.flatMap Holding.receivers ++
    s.transitions.flatMap Transition.receivers

@[simp]
theorem hooks_pristine (s : State β) : s.pristine.hooks = s.hooks := by
  simp [hooks, pristine, Option.toList_map, List.flatMap_map, Holding.hooks_pristine]

theorem receivers_resting {strict : Bool} {s : State β} (orderly : s.Orderly strict)
    (resting : s.active = false) : s.receivers = [] := by
  have behavior : s.behavior.toList.flatMap Holding.receivers = [] := by
    rw [List.flatMap_eq_nil_iff]
    intro b member
    obtain ⟨runs, below⟩ := orderly.behavior b (Option.mem_toList.mp member)
    exact Holding.receivers_resting below (runs.trans resting)
  have exit : s.exit.toList.flatMap Holding.receivers = [] := by
    rw [List.flatMap_eq_nil_iff]
    intro b member
    obtain ⟨runs, below⟩ := orderly.exit b (Option.mem_toList.mp member)
    exact Holding.receivers_resting below runs
  have transitions : s.transitions.flatMap Transition.receivers = [] := by
    rw [List.flatMap_eq_nil_iff]
    intro t member
    obtain ⟨runs, below⟩ := orderly.transitions t member
    exact Transition.receivers_resting below (runs.trans resting)
  rw [receivers, behavior, exit, transitions]
  rfl

theorem release_keeps {I : Scope → Prop} (ctx : Context) (s : State β)
    (outlives : Outlives I s.hooks s.receivers) (holds : I ctx.toScope) :
    I (s.release ctx).toScope := by
  have behavior : I (s.behavior.toList.foldl Behaves.release ctx).toScope := by
    refine (outlives.mono ?_ ?_).foldl Holding.release_keeps holds
    · exact List.subset_append_left ..
    · exact List.Subset.trans (List.subset_append_left ..) (List.subset_append_left ..)
  have exit := by
    refine (outlives.mono ?_ ?_).foldl (l := s.exit.toList) Holding.release_keeps behavior
    · exact List.subset_append_right ..
    · exact List.Subset.trans (List.subset_append_right ..) (List.subset_append_left ..)
  refine keeps_foldl (l := s.transitions) ?_ exit
  intro t member ctx
  refine t.release_keeps ctx (outlives.mono (List.nil_subset _) ?_)
  exact List.Subset.trans (subset_flatMap_of_mem Transition.receivers member)
    (List.subset_append_right ..)

end State

namespace Task

def hooks : Task → List Hooks
  | delegate _ host _ => [host.hooks]
  | _ => []

@[simp]
theorem hooks_pristine (t : Task) : t.pristine.hooks = t.hooks := by
  cases t <;> rfl

theorem destroy_keeps {I : Scope → Prop} (s : Scope) (t : Task)
    (outlives : Outlives I t.hooks []) (holds : I s) : I (t.destroy s) := by
  cases t with
  | delegate number host finished =>
    have kept := (outlives.hooks host.hooks (List.mem_cons_self ..)).onDestroy
    simp only [destroy, Delegate.run]
    cases destroys : host.hooks.onDestroy with
    | none => exact holds
    | some hook => exact kept hook destroys _ s holds
  | _ => exact holds

end Task

namespace Logic

def hooks : Logic β → List Hooks
  | task t => t.hooks
  | sequence s => s.children.flatMap Holding.hooks
  | parallel p => p.lanes.flatMap fun l => Holding.hooks l.child
  | machine m => m.states.flatMap State.hooks

def receivers : Logic β → List Receiver
  | task _ => []
  | sequence s => s.children.flatMap Holding.receivers
  | parallel p => p.lanes.flatMap fun l => Holding.receivers l.child
  | machine m => m.states.flatMap State.receivers

theorem hooks_pristine (l : Logic β) : l.pristine.hooks = l.hooks := by
  cases l with
  | task t => exact t.hooks_pristine
  | sequence s =>
    simp [pristine, hooks, Sequence.pristine, List.flatMap_map, Holding.hooks_pristine]
  | parallel p =>
    simp [pristine, hooks, Parallel.pristine, Lane.pristine, List.flatMap_map,
      Holding.hooks_pristine]
  | machine m => simp [pristine, hooks, Machine.pristine, List.flatMap_map]

theorem receivers_resting {strict : Bool} {l : Logic β} (orderly : l.Orderly strict false) :
    l.receivers = [] := by
  cases l with
  | task t => rfl
  | sequence s =>
    rw [receivers, List.flatMap_eq_nil_iff]
    intro b member
    obtain ⟨i, found⟩ := List.mem_iff_getElem?.mp member
    obtain ⟨runs, below⟩ := orderly.children i b found
    exact Holding.receivers_resting below (by simpa using runs)
  | parallel p =>
    rw [receivers, List.flatMap_eq_nil_iff]
    intro lane member
    obtain ⟨runs, below⟩ := orderly.lanes lane member
    exact Holding.receivers_resting below (by simpa using runs)
  | machine m =>
    rw [receivers, List.flatMap_eq_nil_iff]
    intro s member
    obtain ⟨i, found⟩ := List.mem_iff_getElem?.mp member
    obtain ⟨runs, below⟩ := orderly.states i s found
    exact State.receivers_resting below (by simpa using runs)

theorem onDestroy_keeps {I : Scope → Prop} (ctx : Context) (l : Logic β)
    (outlives : Outlives I l.hooks l.receivers) (holds : I ctx.toScope) :
    I (l.onDestroy ctx).toScope := by
  cases l with
  | task t => exact t.destroy_keeps ctx.toScope outlives holds
  | sequence s => exact outlives.foldl Holding.release_keeps holds
  | parallel p =>
    have children : Outlives I ((p.lanes.map (·.child)).flatMap Holding.hooks)
        ((p.lanes.map (·.child)).flatMap Holding.receivers) := by
      rw [List.flatMap_map, List.flatMap_map]
      exact outlives
    exact children.foldl Holding.release_keeps holds
  | machine m => exact outlives.foldl State.release_keeps holds

end Logic

namespace Node

instance holding : Holding (Node β) where
  hooks n := n.logic.hooks
  receivers n := n.logic.receivers
  hooks_pristine n := n.logic.hooks_pristine
  receivers_resting {strict n} orderly resting := by
    have resting : n.active = false := resting
    have orderly : n.logic.Orderly strict n.active := orderly
    rw [resting] at orderly
    exact Logic.receivers_resting orderly
  release_keeps ctx n outlives holds := n.logic.onDestroy_keeps ctx outlives holds

end Node

instance Behavior.holding : (height : Nat) → Holding (Behavior height)
  | 0 => inferInstanceAs (Holding Empty)
  | height + 1 =>
    let _ := holding height
    inferInstanceAs (Holding (Node (Behavior height)))

/-- Behaviors of one form hold the same hooks. -/
theorem Holding.hooks_congr {b b' : β} (same : pristine b = pristine b') :
    Holding.hooks b = Holding.hooks b' := by
  rw [← hooks_pristine, same, hooks_pristine]

namespace AnyNode

def hooks : AnyNode β → List Hooks
  | behavior n => Holding.hooks n
  | state s => s.hooks
  | _ => []

/-- The release of a node at rest keeps whatever its hooks keep. -/
theorem release_keeps {I : Scope → Prop} {strict : Bool} (ctx : Context) {n : AnyNode β}
    (fresh : n.Fresh strict) (kept : ∀ h ∈ n.hooks, h.Keep I) (holds : I ctx.toScope) :
    I (n.release ctx).toScope := by
  cases n with
  | behavior n =>
    refine Holding.release_keeps ctx n ⟨kept, ?_⟩ holds
    rw [Holding.receivers_resting fresh.2 fresh.1]
    nofun
  | condition c =>
    refine c.release_keeps ctx ⟨nofun, ?_⟩ holds
    rw [Condition.receivers_resting fresh.2 fresh.1]
    nofun
  | state s =>
    refine s.release_keeps ctx ⟨kept, ?_⟩ holds
    rw [State.receivers_resting fresh.2 fresh.1]
    nofun
  | transition t =>
    refine t.release_keeps ctx ⟨nofun, ?_⟩ holds
    rw [Transition.receivers_resting fresh.2 fresh.1]
    nofun

end AnyNode

end SkillScript
