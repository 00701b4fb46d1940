import SkillScript.Proofs.History
import SkillScript.Proofs.Number.Difference
import SkillScript.Proofs.Status.Create
import SkillScript.Proofs.Status.Truthful
import SkillScript.Proofs.Timing.Forward
import SkillScript.Proofs.Tree.Below
import SkillScript.Proofs.Tree.Confined
import SkillScript.Proofs.Tree.Newborn
import SkillScript.Script.Build
/-!
# What updates leave over

An update leaves over no more of a step than there was, and nothing at all while there
is something left to do. A timer takes what it still has left, and the difference is
not rounded past the step. A sequence hands on what one child leaves over, and a
parallel leaves over the least of what its children do, so neither can make time. A
machine takes every step whole. Behaviors that the host runs have to keep to this
themselves.
-/
set_option autoImplicit false
namespace SkillScript

open Number

/-- What an update may leave over of a step. -/
structure Leftover (step left : Float32) (stops : Bool) : Prop where
  proper : Proper left
  within : left ≤ step
  spent : stops = false → left = 0

section Steps

variable {step left least : Float32} {stops : Bool}

namespace Leftover

/-- Everything may be left over when nothing is left to do. -/
theorem whole (proper : Proper step) : Leftover step step true :=
  ⟨proper, proper.le_refl, nofun⟩

theorem nothing (proper : Proper step) (stops : Bool) : Leftover step 0 stops :=
  ⟨proper_zero, proper.zero_le, fun _ => rfl⟩

end Leftover

/-! ## Tasks -/

/-- A timer whose time was more than the step has taken all of it. -/
theorem Timer.leftover_advance {t : Timer} (owed : ¬ t.remaining < 0) (σ : Settings)
    (proper : Proper step) :
    Leftover step (atLeastZero (step - (t.advance σ step).1)) (t.advance σ step).2.done := by
  obtain ⟨d, known⟩ := proper.quanta
  obtain ⟨rest, within⟩ := atLeastZero_sub_le known owed
  refine ⟨rest, within, fun running => ?_⟩
  show atLeastZero (step - Number.minNum step t.remaining) = 0
  by_cases nan : t.remaining.isNaN = true
  · rw [minNum_of_isNaN nan proper.number]
    exact atLeastZero_sub_self known
  · obtain ⟨n, counting⟩ := Proper.quanta ⟨Bool.eq_false_iff.mpr nan, owed⟩
    rw [minNum_eq known counting]
    split
    · rename_i less
      -- The timer has run out within the step, so it is done.
      have gone : quanta? (t.remaining - t.remaining) = some 0 :=
        quanta_sub_self counting counting (less.trans_le le_top).ne
      have taken : (t.advance σ step).1 = t.remaining := by
        show Number.minNum step t.remaining = t.remaining
        rw [minNum_eq known counting, if_pos less]
      have done : (t.advance σ step).2.done = true := by
        show ((if σ.isZero (t.remaining - (t.advance σ step).1) then 0
          else t.remaining - (t.advance σ step).1) == 0) = true
        rw [taken]
        split
        · rfl
        · exact (beq_zero_iff gone).mpr rfl
      rw [done] at running
      cases running
    · exact atLeastZero_sub_self known

theorem Timer.not_remaining_lt {t : Timer} (owed : ¬ t.remaining < 0) (σ : Settings)
    (forward : ¬ step < 0) : ¬ (t.advance σ step).2.remaining < 0 := by
  show ¬ (if σ.isZero (t.remaining - Number.minNum step t.remaining) then 0
    else t.remaining - Number.minNum step t.remaining) < 0
  split
  · exact proper_zero.nonneg
  · exact not_sub_minNum_lt forward owed

theorem Timer.not_start_lt (duration : Float32) : ¬ (Timer.start duration).remaining < 0 := by
  simp only [start]
  split
  · exact proper_zero.nonneg
  · rename_i good
    simp only [Bool.or_eq_true, decide_eq_true_eq, not_or] at good
    exact good.1

end Steps

def Hooks.Thrifty (h : Hooks) : Prop :=
  ∀ hook ∈ h.onUpdate, ∀ (step : Float32) (view : DelegateView) (s : Scope), Proper step →
    Leftover step (hook step view s).1 (view.finished || (hook step view s).2.1)

namespace Task

/-- A timer that is under way has no negative time left, and the hooks are thrifty. -/
def Thrifty (begun : Bool) : Task → Prop
  | wait _ timer => begun = true → ¬ timer.remaining < 0
  | healthOverTime _ timer _ => begun = true → ¬ timer.remaining < 0
  | delegate _ host _ => host.hooks.Thrifty
  | _ => True

variable {t : Task} {begun : Bool}

theorem Thrifty.reset (thrifty : t.Thrifty begun) (s : Scope) : (t.reset s).Thrifty false := by
  cases t with
  | delegate number host finished => exact thrifty
  | deed d => trivial
  | waitCheck attrs predicate elapsed satisfied => trivial
  | _ => nofun

theorem Thrifty.begin (thrifty : t.Thrifty false) (s : Scope) : (t.begin s).1.Thrifty true := by
  cases t with
  | wait c timer => exact fun _ => Timer.not_start_lt _
  | healthOverTime c timer flow => exact fun _ => Timer.not_start_lt _
  | delegate number host finished => exact thrifty
  | _ => trivial

theorem Thrifty.update (thrifty : t.Thrifty true) {step : Float32} (forward : ¬ step < 0)
    (s : Scope) : (t.update step s).2.1.Thrifty true := by
  cases t with
  | wait c timer =>
    simp only [Task.update]
    split
    · exact thrifty
    · exact fun _ => Timer.not_remaining_lt (thrifty rfl) s.settings forward
  | healthOverTime c timer flow =>
    simp only [Task.update]
    split
    · exact thrifty
    · exact fun _ => Timer.not_remaining_lt (thrifty rfl) s.settings forward
  | deed d => trivial
  | waitCheck attrs predicate elapsed satisfied =>
    simp only [Task.update]
    split
    · trivial
    · split <;> trivial
  | delegate number host finished =>
    simp only [Task.update]
    split <;> exact thrifty

theorem Thrifty.of_hooks (thrifty : ∀ h ∈ t.hooks, h.Thrifty) : t.Thrifty false := by
  cases t with
  | delegate number host finished => exact thrifty host.hooks (List.mem_singleton_self _)
  | deed d => trivial
  | waitCheck attrs predicate elapsed satisfied => trivial
  | _ => nofun

theorem Thrifty.leftover (thrifty : t.Thrifty true) {step : Float32} (proper : Proper step)
    (s : Scope) : Leftover step (t.update step s).1 (t.update step s).2.1.canStop := by
  cases t with
  | wait c timer =>
    simp only [Task.update]
    split
    · rename_i done
      simp only [canStop, done]
      exact .whole proper
    · exact Timer.leftover_advance (thrifty rfl) s.settings proper
  | healthOverTime c timer flow =>
    simp only [Task.update]
    split
    · rename_i done
      simp only [canStop, done]
      exact .whole proper
    · exact Timer.leftover_advance (thrifty rfl) s.settings proper
  | deed d => exact .whole proper
  | waitCheck attrs predicate elapsed satisfied =>
    simp only [Task.update]
    split
    · exact .whole proper
    · split
      · exact .whole proper
      · exact .nothing proper _
  | delegate number host finished =>
    simp only [Task.update]
    cases hooked : host.hooks.onUpdate with
    | none =>
      simp only [canStop, hooked, Option.isNone_none, Bool.or_true]
      exact .whole proper
    | some hook =>
      simp only [canStop, hooked, Option.isNone_some, Bool.or_false]
      exact thrifty hook hooked step _ s proper

end Task

/-! ## Trees -/

class Thrift (β : Type) where
  Thrifty : β → Prop

instance : Thrift Empty where
  Thrifty b := nomatch b

variable {β : Type}

structure Logic.Thrifty [Thrift β] (begun : Bool) (l : Logic β) : Prop where
  task : ∀ t, l = .task t → t.Thrifty begun
  below : l.Below Thrift.Thrifty

instance Node.thrift [Thrift β] : Thrift (Node β) where
  Thrifty n := n.logic.Thrifty n.begun

instance Behavior.thrift : (height : Nat) → Thrift (Behavior height)
  | 0 => inferInstanceAs (Thrift Empty)
  | height + 1 =>
    let _ := thrift height
    inferInstanceAs (Thrift (Node (Behavior height)))

class Behaves.Frugal (β : Type) [Behaves β] [Lasting β] [Ordered β] [Holding β] [Nascent β]
    [Thrift β] : Prop where
  keeps : Behaves.Keeps fun b : β => Thrift.Thrifty b
  thrifty_of_newborn {b : β} (newborn : Nascent.Newborn b)
    (hooks : ∀ h ∈ Holding.hooks b, h.Thrifty) : Thrift.Thrifty b
  leftover_update {step : Float32} (proper : Number.Proper step) (ctx : Context) {b : β}
    (orderly : Ordered.Orderly false b) (awake : isActive b = true)
    (thrifty : Thrift.Thrifty b) :
    Leftover step (update step ctx b).1 (canStop (update step ctx b).2.1)

instance : Behaves.Frugal Empty where
  keeps :=
    { activate := fun _ {b} => nomatch b
      deactivate := fun _ {b} => nomatch b
      reset := fun _ {b} => nomatch b
      update := fun _ _ {b} => nomatch b
      onTrigger := fun _ {b} => nomatch b }
  thrifty_of_newborn {b} := nomatch b
  leftover_update _ _ b := nomatch b

open Behaves.Frugal

section Logic

variable [Behaves β] [Lasting β] [Ordered β] [Holding β] [Nascent β] [Thrift β]
  [Behaves.Frugal β] [Behaves.Disciplined β] {step : Float32} {ctx : Context}

/-- A run hands on what is left over, and stops at the first child that has something to do. -/
theorem Sequence.leftover_run (ctx : Context) {started : Bool} {l : List β}
    (proper : Number.Proper step) (turn : Turn false started l)
    (thrifty : ∀ c ∈ l, Thrift.Thrifty c) :
    Leftover step (run started step ctx l).1
      (decide (l.length ≤ (run started step ctx l).2.1)) := by
  induction l generalizing started step ctx with
  | nil => exact .whole proper
  | cons c rest ih =>
    obtain ⟨first, others⟩ := List.forall_mem_cons.mp thrifty
    obtain ⟨status, order⟩ := turn.head
    obtain ⟨awake, readied⟩ := ready_orderly ctx status order
    have updated := leftover_update proper (ready started ctx c).2 readied awake
      (below_ready keeps started ctx first)
    rw [run_cons]
    dsimp only
    split
    · generalize Behaves.deactivate (β := β) _ _ = rested
      have later := ih rested.2 updated.proper turn.tail others
      refine ⟨later.proper, later.proper.le_trans later.within updated.within, fun goes => ?_⟩
      apply later.spent
      simpa using goes
    · exact .nothing proper _

omit [Behaves.Disciplined β] in
/-- A run of lanes leaves over no more than was left over before. -/
theorem Parallel.leftover_run (ctx : Context) {least : Float32} {lanes : List (Lane β)}
    (proper : Number.Proper step) (proper' : Number.Proper least) (within : least ≤ step)
    (running : Running false lanes) (thrifty : ∀ l ∈ lanes, Thrift.Thrifty l.child) :
    Leftover step (run step least ctx lanes).1 ((run step least ctx lanes).2.1.all (·.finished)) ∧
      (least = 0 → (run step least ctx lanes).1 = 0) := by
  induction lanes generalizing least ctx with
  | nil => exact ⟨⟨proper', within, nofun⟩, id⟩
  | cons l rest ih =>
    obtain ⟨first, others⟩ := List.forall_mem_cons.mp thrifty
    obtain ⟨order, orders⟩ := List.forall_mem_cons.mp running
    rw [run_cons]
    split
    · rename_i finished
      obtain ⟨later, none⟩ := ih ctx proper' within orders others
      refine ⟨⟨later.proper, later.within, fun goes => later.spent ?_⟩, none⟩
      simpa [finished] using goes
    · rename_i unfinished
      rw [Bool.not_eq_true] at unfinished
      have awake : Behaves.isActive l.child = true := by rw [order.1, unfinished]; rfl
      have updated := leftover_update proper ctx order.2 awake first
      dsimp only
      split
      · have less := proper'.minNum_le updated.proper
        have least := proper'.minNum updated.proper
        generalize Behaves.deactivate (β := β) _ _ = rested
        obtain ⟨later, none⟩ := ih rested.2 least (least.le_trans less within) orders others
        refine ⟨⟨later.proper, later.within, fun goes => later.spent ?_⟩, fun zero => none ?_⟩
        · simpa using goes
        · rw [zero]
          exact updated.proper.minNum_zero
      · -- A child that goes on takes the whole step from all.
        have later := ih (Behaves.update step ctx l.child).2.2 Number.proper_zero proper.zero_le
          orders others
        obtain ⟨later, none⟩ := later
        exact ⟨⟨later.proper, later.within, fun _ => none rfl⟩, fun _ => none rfl⟩

omit [Lasting β] [Holding β] [Nascent β] [Thrift β] [Behaves.Frugal β]
  [Behaves.Disciplined β] in
/-- There is always a state to take the step. -/
theorem Machine.left_onUpdate {strict active : Bool} {m : Machine β}
    (orderly : m.Orderly strict active) : (m.onUpdate step ctx).1 = 0 := by
  have running : ∃ i s, (m.ready ctx).1.current = some i ∧
      (m.ready ctx).1.states[i]? = some s := by
    cases current : m.current with
    | some i =>
      refine ⟨i, _, ?_, List.getElem?_eq_getElem (?_ : i < _)⟩
      · simp only [ready, current]
      · simp only [ready, current]
        exact orderly.current i current
    | none =>
      obtain ⟨i, known⟩ := Option.isSome_iff_exists.mp orderly.initial
      refine ⟨i, _, ?_, List.getElem?_eq_getElem (?_ : i < _)⟩
      · simp only [ready, current, enterInitial, known, enterAt, actOnCurrent]
      · simp only [ready, current, enterInitial, known, enterAt, actOnCurrent, length_actAt]
        exact orderly.index _ i known
  obtain ⟨i, s, current, found⟩ := running
  simp only [onUpdate, current, found]

theorem Logic.leftover_onUpdate {l : Logic β} (proper : Number.Proper step)
    (orderly : l.Orderly false true) (thrifty : l.Thrifty true) :
    Leftover step (l.onUpdate step ctx).1 (l.onUpdate step ctx).2.1.canStop := by
  cases l with
  | task t => exact (thrifty.task t rfl).leftover proper ctx.toScope
  | sequence s =>
    have ran := Sequence.leftover_run ctx proper (Sequence.Orderly.turn orderly)
      fun c inside => thrifty.below c (List.mem_of_mem_drop inside)
    have size := Sequence.length_run s.started step ctx (s.children.drop s.index)
    refine ⟨ran.proper, ran.within, fun goes => ran.spent ?_⟩
    simp only [onUpdate, canStop, Sequence.canStop, Sequence.onUpdate_eq, decide_eq_false_iff_not,
      List.length_append, List.length_take, size, List.length_drop] at goes ⊢
    omega
  | parallel p =>
    have readied := Parallel.Orderly.ready orderly ctx
    have running := readied.1.running readied.2
    have children : ∀ lane ∈ (p.ready ctx).1.lanes, Thrift.Thrifty lane.child := by
      unfold Parallel.ready
      split
      · exact thrifty.below
      · exact Parallel.below_start keeps ctx thrifty.below
    exact (Parallel.leftover_run _ proper proper proper.le_refl running children).1
  | machine m =>
    have taken : ((machine m).onUpdate step ctx).1 = 0 := Machine.left_onUpdate orderly
    rw [taken]
    exact .nothing proper _

end Logic

namespace Node

section Begin

variable [Thrift β] {n : Node β}

theorem thrifty_begin (thrifty : n.logic.Thrifty n.begun) (ctx : Context) :
    (n.begin ctx).1.logic.Thrifty true := by
  unfold begin
  split
  · rename_i begun
    rw [begun] at thrifty
    exact thrifty
  · rename_i unbegun
    rw [Bool.not_eq_true] at unbegun
    rw [unbegun] at thrifty
    refine ⟨?_, thrifty.below.onBegin ctx⟩
    intro t made
    cases placed : n.logic with
    | task t' =>
      rw [placed] at made
      cases made
      exact (thrifty.task t' placed).begin ctx.toScope
    | _ =>
      rw [placed] at made
      cases made

/-- A call that leaves tasks alone leaves them thrifty. -/
theorem thrifty_of_below {l l' : Logic β} {begun : Bool} (thrifty : l.Thrifty begun)
    (tasks : ∀ t, l' = .task t → l = .task t) (below : l'.Below Thrift.Thrifty) :
    l'.Thrifty begun :=
  ⟨fun t made => thrifty.task t (tasks t made), below⟩

end Begin

section Laws

variable [Behaves β] [Lasting β] [Ordered β] [Holding β] [Nascent β] [Thrift β]
  [Behaves.Frugal β]

theorem thrifty_onUpdate {l : Logic β} {step : Float32} (forward : ¬ step < 0) (ctx : Context)
    (thrifty : l.Thrifty true) : (l.onUpdate step ctx).2.1.Thrifty true := by
  refine ⟨?_, thrifty.below.onUpdate keeps step ctx⟩
  intro t made
  cases l with
  | task t' =>
    cases made
    exact (thrifty.task t' rfl).update forward ctx.toScope
  | _ => cases made

theorem keeps_thrifty : Behaves.Keeps fun n : Node β => Thrift.Thrifty n where
  activate ctx n thrifty := by
    show (n.activate ctx).1.logic.Thrifty (n.activate ctx).1.begun
    have thrifty : n.logic.Thrifty n.begun := thrifty
    unfold activate
    split
    · exact thrifty
    · refine thrifty_of_below thrifty (fun t made => ?_) (thrifty.below.onActivate keeps ctx)
      cases placed : n.logic <;> rw [placed] at made <;> cases made
      rfl
  deactivate ctx n thrifty := by
    show (n.deactivate ctx).1.logic.Thrifty (n.deactivate ctx).1.begun
    have thrifty : n.logic.Thrifty n.begun := thrifty
    unfold deactivate
    split
    · refine thrifty_of_below thrifty (fun t made => ?_) (thrifty.below.onDeactivate keeps ctx)
      cases placed : n.logic <;> rw [placed] at made <;> cases made
      rfl
    · exact thrifty
  reset ctx n thrifty := by
    show (n.logic.onReset ctx).1.Thrifty false
    have thrifty : n.logic.Thrifty n.begun := thrifty
    refine ⟨fun t made => ?_, thrifty.below.onReset keeps ctx⟩
    cases placed : n.logic with
    | task t' =>
      rw [placed] at made
      cases made
      exact (thrifty.task t' placed).reset ctx.toScope
    | _ =>
      rw [placed] at made
      cases made
  update step ctx n thrifty := by
    show (n.update step ctx).2.1.logic.Thrifty (n.update step ctx).2.1.begun
    have thrifty : n.logic.Thrifty n.begun := thrifty
    unfold update
    split
    · dsimp only
      rw [begun_begin]
      exact thrifty_onUpdate (Number.not_clipped_lt step) _ (thrifty_begin thrifty ctx)
    · exact thrifty
  onTrigger tag n thrifty := by
    show (n.onTrigger tag).logic.Thrifty (n.onTrigger tag).begun
    have thrifty : n.logic.Thrifty n.begun := thrifty
    unfold onTrigger
    split
    · refine thrifty_of_below thrifty (fun t made => ?_) (thrifty.below.onTrigger keeps tag)
      cases placed : n.logic <;> rw [placed] at made <;> cases made
      rfl
    · exact thrifty

instance frugal [Behaves.Disciplined β] : Behaves.Frugal (Node β) where
  keeps := keeps_thrifty
  thrifty_of_newborn {n} newborn hooks := by
    have fresh : n.begun = false := Node.Newborn.begun newborn
    have logic : n.logic.Newborn := Node.Newborn.logic newborn
    have hooks : ∀ h ∈ n.logic.hooks, h.Thrifty := hooks
    show n.logic.Thrifty n.begun
    rw [fresh]
    cases placed : n.logic with
    | task t =>
      rw [placed] at hooks
      refine ⟨?_, trivial⟩
      intro t' made
      cases made
      exact Task.Thrifty.of_hooks hooks
    | sequence s =>
      rw [placed] at logic hooks
      refine ⟨nofun, fun c member => ?_⟩
      exact thrifty_of_newborn (logic.children c member) fun h inside =>
        hooks h (List.mem_flatMap_of_mem member inside)
    | parallel p =>
      rw [placed] at logic hooks
      refine ⟨nofun, fun l member => ?_⟩
      exact thrifty_of_newborn (logic.lanes l member).1 fun h inside =>
        hooks h (List.mem_flatMap_of_mem member inside)
    | machine m =>
      rw [placed] at logic hooks
      refine ⟨nofun, fun s member => ?_⟩
      have held : ∀ h ∈ s.hooks, h.Thrifty := fun h inside =>
        hooks h (List.mem_flatMap_of_mem member inside)
      have born := logic.states s member
      refine ⟨fun b placed => ?_, fun b placed => ?_⟩
      · exact thrifty_of_newborn (born.behavior b placed) fun h inside =>
          held h (List.mem_append_left _
            (List.mem_flatMap_of_mem (Option.mem_toList.mpr placed) inside))
      · exact thrifty_of_newborn (born.exit b placed) fun h inside =>
          held h (List.mem_append_right _
            (List.mem_flatMap_of_mem (Option.mem_toList.mpr placed) inside))
  leftover_update {step} proper ctx n orderly awake thrifty := by
    have active : n.active = true := awake
    have order : n.logic.Orderly false n.active := orderly
    have thrifty : n.logic.Thrifty n.begun := thrifty
    show Leftover step (n.update step ctx).1 (n.update step ctx).2.1.logic.canStop
    rw [active] at order
    rw [update, if_pos active, if_neg proper.nonneg]
    exact Logic.leftover_onUpdate proper (orderly_begin ctx order) (thrifty_begin thrifty ctx)

end Laws

end Node

instance Behavior.frugal : (height : Nat) → Behaves.Frugal (Behavior height)
  | 0 => inferInstanceAs (Behaves.Frugal Empty)
  | height + 1 =>
    have := frugal height
    inferInstanceAs (Behaves.Frugal (Node (Behavior height)))

/-! ## Updates by an owner -/

theorem Number.atLeastZero_of_number {step : Float32} (number : step.isNaN = false) :
    atLeastZero step = if step < 0 then 0 else step := by
  have zero : ¬ (0 : Float32).isNaN = true := by decide
  rw [atLeastZero, maxNum, if_neg (Bool.eq_false_iff.mp number), if_neg zero]

/-- Order and thrift together. -/
theorem Behaves.keeps_orderly_thrifty (height : Nat) :
    Behaves.Keeps fun n : Node (Behavior height) =>
      Ordered.Orderly false n ∧ Thrift.Thrifty n where
  activate ctx _ holds :=
    ⟨Behaves.Disciplined.orderly_activate ctx holds.1, keeps.activate ctx holds.2⟩
  deactivate ctx _ holds :=
    ⟨Behaves.Disciplined.orderly_deactivate ctx holds.1, keeps.deactivate ctx holds.2⟩
  reset ctx _ holds :=
    ⟨Behaves.Disciplined.orderly_reset ctx holds.1 nofun, keeps.reset ctx holds.2⟩
  update step ctx _ holds :=
    ⟨Behaves.Disciplined.orderly_update step ctx holds.1, keeps.update step ctx holds.2⟩
  onTrigger tag _ holds :=
    ⟨Behaves.Disciplined.orderly_onTrigger tag holds.1, keeps.onTrigger tag holds.2⟩

/-- Whatever its history, an update of an active behavior leaves over at least zero and at most the
step, a negative step counting as zero, and it leaves over zero while something is left to do. This
holds for every step that is a number, if the hooks that the host runs on updates keep to it. -/
theorem updates_leave_no_used_time (r : Registry) (ctx₀ : Context) (c : Config) (h : Handle)
    (before : List (Context × Handle.Call)) (ctx : Context) (step : Float32)
    (thrifty : ∀ hooks ∈ c.hooks, hooks.Thrifty)
    (created : (Handle.create? r ctx₀ (some .behavior) c).1 = some h)
    (active : (h.run before).status = .active) (number : step.isNaN = false) :
    0 ≤ ((h.run before).update step ctx).1 ∧
      ((h.run before).update step ctx).1 ≤ Number.maxNum step 0 ∧
      (((h.run before).update step ctx).2.1.canStop? = some false →
        ((h.run before).update step ctx).1 = 0) := by
  obtain ⟨n₀, made, rfl⟩ := Handle.create?_behavior created
  have newborn : Nascent.Newborn n₀ := create_newborn r c.height ctx₀ c _ made
  have own : Holding.hooks n₀ ⊆ c.hooks := by
    have confined := (create_confined r c.height ctx₀ c).made
    rw [made, AnyNode.hooks?_some] at confined
    exact confined
  have orderly := (create_begun false r c.height ctx₀ c).fresh _ made
  have saved : Thrift.Thrifty n₀ :=
    thrifty_of_newborn newborn fun hooks member => thrifty hooks (own member)
  obtain ⟨n, ran, order, kept⟩ :=
    Handle.exists_run (Behaves.keeps_orderly_thrifty c.height) ⟨orderly.2, saved⟩ before
  rw [ran] at active ⊢
  have awake : n.active = true := by
    by_contra resting
    rw [Bool.not_eq_true] at resting
    simp [Handle.status, AnyNode.isActive, resting] at active
  have proper : Number.Proper (if step < 0 then 0 else step) := by
    rw [← Number.atLeastZero_of_number number]
    exact Number.proper_atLeastZero step
  have ran := leftover_update proper ctx order awake kept
  have clamped : n.update (if step < 0 then 0 else step) ctx = n.update step ctx := by
    simp only [Node.update, awake, if_true, if_neg (Number.not_clipped_lt step)]
  have same : Behaves.update (if step < 0 then 0 else step) ctx n = n.update step ctx := clamped
  rw [same] at ran
  have bound : Number.maxNum step 0 = if step < 0 then 0 else step :=
    Number.atLeastZero_of_number number
  rw [bound]
  refine ⟨ran.proper.zero_le, ran.within, fun goes => ran.spent ?_⟩
  exact Option.some.inj goes

def twoWaits : Config :=
  Build.sequence [Build.wait 1, Build.wait 2]

theorem updates_leave_no_used_time_of_twoWaits :
    ∃ h, (Handle.create? .standard emptyStage (some .behavior) twoWaits).1 = some h ∧
      (((h.run [(emptyStage, .activate)]).update 2 emptyStage).2.1.canStop? = some false ∧
        ((h.run [(emptyStage, .activate)]).update 2 emptyStage).1 = 0) := by
  have hookless : twoWaits.hooks = [] := rfl
  obtain ⟨h, created⟩ : ∃ h,
      (Handle.create? .standard emptyStage (some .behavior) twoWaits).1 = some h := ⟨_, rfl⟩
  have active : (h.run [(emptyStage, .activate)]).status = .active := by
    cases created
    decide +kernel
  have goes : ((h.run [(emptyStage, .activate)]).update 2 emptyStage).2.1.canStop? =
      some false := by
    cases created
    decide +kernel
  obtain ⟨-, -, spent⟩ := updates_leave_no_used_time .standard emptyStage twoWaits h
    [(emptyStage, .activate)] emptyStage 2 (by rw [hookless]; nofun) created active (by decide)
  exact ⟨h, created, goes, spent goes⟩

end SkillScript
