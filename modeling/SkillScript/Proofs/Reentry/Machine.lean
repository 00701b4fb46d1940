import SkillScript.Proofs.Reentry.Composite
import SkillScript.Proofs.Reentry.State
import SkillScript.Proofs.Status.Node
/-!
# Machines that look alike

Machines look alike if they run the same state and it looks alike. What the other
states were before does not count, since a state is entered before it runs.
-/
set_option autoImplicit false
namespace SkillScript

open Behaves

variable {β : Type} [Behaves β] [Ordered β] [Lasting β] [Outlined β] {k j : Nat}

/-- What nodes of a pair do, while both are active or both rest. -/
structure Logic.Paired (active : Bool) (l l' : Logic β) : Prop where
  left : l.Orderly false active
  right : l'.Orderly false active
  type : NodeType.behavior l.type ∈ NodeType.builtins
  below : ∀ o ∈ l.parts, ∀ label ∈ o.labels, label.type ∈ NodeType.builtins
  made : l.pristine = l'.pristine

namespace Logic

omit [Ordered β] in
theorem parts_congr {l l' : Logic β} (same : l.pristine = l'.pristine) : l.parts = l'.parts := by
  rw [← parts_pristine, same, parts_pristine]

namespace Paired

variable {active : Bool}

theorem of_pristine {l l' : Logic β} (paired : l.Paired active l') {after : Bool}
    {d d' : Logic β} (left : d.Orderly false after) (right : d'.Orderly false after)
    (same : d.pristine = l.pristine) (same' : d'.pristine = l'.pristine) :
    d.Paired after d' where
  left := left
  right := right
  type := by
    rw [← type_pristine d, same, type_pristine]
    exact paired.type
  below := by
    rw [parts_congr same]
    exact paired.below
  made := same.trans (paired.made.trans same'.symm)

theorem sequence {s s' : Sequence β} (paired : Paired active (.sequence s) (.sequence s')) :
    s.Paired active s' := by
  have made := paired.made
  simp only [pristine, Sequence.pristine, sequence.injEq, Sequence.mk.injEq, and_true] at made
  have orders (s : Sequence β) (orderly : s.Orderly false active) :
      ∀ c ∈ s.children, Ordered.Orderly false c := by
    intro c member
    obtain ⟨i, bound, rfl⟩ := List.mem_iff_getElem.mp member
    exact (orderly.children i _ (List.getElem?_eq_getElem bound)).2
  have pairs := forall₂_of_map_eq made
    (fun c inside => And.intro inside (orders s paired.left c inside)) (orders s' paired.right)
  refine ⟨paired.left, paired.right, pairs.imp fun c c' pair => ?_⟩
  obtain ⟨same, ⟨inside, order⟩, order'⟩ := pair
  refine ⟨order, order', fun l label => ?_, same⟩
  rw [Outlined.labels_outline .root .child] at label
  exact paired.below _ (List.mem_map_of_mem inside) l label

theorem parallel {p p' : Parallel β} (paired : Paired active (.parallel p) (.parallel p')) :
    p.Paired active p' := by
  have made := paired.made
  simp only [pristine, Parallel.pristine, parallel.injEq, Parallel.mk.injEq, and_true] at made
  have pairs := forall₂_of_map_eq made
    (fun l inside => And.intro inside (paired.left.lanes l inside).2)
    (fun l inside => (paired.right.lanes l inside).2)
  refine ⟨paired.left, paired.right, pairs.imp fun c c' pair => ?_⟩
  obtain ⟨same, ⟨inside, order⟩, order'⟩ := pair
  refine ⟨order, order', fun l label => ?_, congrArg Lane.child same⟩
  rw [Outlined.labels_outline .root .child] at label
  exact paired.below _ (List.mem_map_of_mem inside) l label

end Paired

end Logic

namespace Machine

def Paired (active : Bool) (m m' : Machine β) : Prop :=
  Logic.Paired active (.machine m) (.machine m')

namespace Paired

variable {active : Bool} {m m' : Machine β}

theorem pristine_eq (paired : m.Paired active m') : m.pristine = m'.pristine := by
  have made := paired.made
  simpa only [Logic.pristine, Logic.machine.injEq] using made

theorem index_eq (paired : m.Paired active m') : m.index = m'.index := by
  have made := paired.pristine_eq
  simp only [Machine.pristine, Machine.mk.injEq] at made
  exact made.2.1

theorem initial_eq (paired : m.Paired active m') : m.initial = m'.initial := by
  have made := paired.pristine_eq
  simp only [Machine.pristine, Machine.mk.injEq] at made
  exact made.2.2.1

theorem states (paired : m.Paired active m') : List.Forall₂ State.Paired m.states m'.states := by
  have made := paired.pristine_eq
  simp only [Machine.pristine, Machine.mk.injEq] at made
  have orders (m : Machine β) (orderly : m.Orderly false active) :
      ∀ s ∈ m.states, s.Orderly false := by
    intro s member
    obtain ⟨i, bound, rfl⟩ := List.mem_iff_getElem.mp member
    exact (orderly.states i _ (List.getElem?_eq_getElem bound)).2
  have pairs := forall₂_of_map_eq made.1
    (fun s inside => And.intro inside (orders m paired.left s inside)) (orders m' paired.right)
  refine pairs.imp fun s s' pair => ?_
  obtain ⟨same, ⟨inside, order⟩, order'⟩ := pair
  exact ⟨order, order', paired.below _ (List.mem_map_of_mem inside), same⟩

theorem currentState (paired : m.Paired active m') (current : m.current = m'.current) :
    Option.Rel State.Paired m.currentState? m'.currentState? := by
  unfold currentState?
  rw [← current]
  cases m.current with
  | none => exact .none
  | some i => exact rel_getElem? paired.states i

theorem of_pristine (paired : m.Paired active m') {after : Bool} {d d' : Machine β}
    (left : d.Orderly false after) (right : d'.Orderly false after)
    (same : d.pristine = m.pristine) (same' : d'.pristine = m'.pristine) : d.Paired after d' :=
  Logic.Paired.of_pristine paired left right (congrArg Logic.machine same)
    (congrArg Logic.machine same')

end Paired

variable [Resembling β]

structure Alike (k j : Nat) (m m' : Machine β) : Prop where
  current : m.current = m'.current
  running : Option.Rel (State.Alike k j) m.currentState? m'.currentState?

section Acts

variable {f : Context → State β → State β × Context} {R S : State β → State β → Prop}
  {m m' : Machine β} {ctx ctx' : Context}

omit [Behaves β] [Ordered β] [Lasting β] [Outlined β] [Resembling β]

theorem rel_actOnCurrent (acts : ∀ s s', R s s' → S (f ctx s).1 (f ctx' s').1)
    (running : Option.Rel R m.currentState? m'.currentState?) :
    Option.Rel S (m.actOnCurrent f ctx).1.currentState?
      (m'.actOnCurrent f ctx').1.currentState? := by
  rw [currentState?_actOnCurrent, currentState?_actOnCurrent]
  exact rel_map acts running

/-- The context after an act is the one that the current state leaves, if there is one. -/
theorem alike_actOnCurrent (scopes : ctx.toScope.Alike k j ctx'.toScope)
    (acts : ∀ s s', R s s' → (f ctx s).2.toScope.Alike k j (f ctx' s').2.toScope)
    (running : Option.Rel R m.currentState? m'.currentState?) :
    (m.actOnCurrent f ctx).2.toScope.Alike k j (m'.actOnCurrent f ctx').2.toScope := by
  have after (m : Machine β) (ctx : Context) : (m.actOnCurrent f ctx).2 =
      m.currentState?.elim ctx fun s => (f ctx s).2 := by
    unfold actOnCurrent currentState?
    cases m.current with
    | none => rfl
    | some i =>
      simp only [actAt_eq, Option.bind_some]
      cases m.states[i]? <;> rfl
  rw [after, after]
  generalize m.currentState? = o at running ⊢
  generalize m'.currentState? = o' at running ⊢
  cases running with
  | none => exact scopes
  | some related => exact acts _ _ related

end Acts

variable {m m' : Machine β} {ctx ctx' : Context} {active : Bool}

namespace Alike

omit [Behaves β] [Ordered β] [Lasting β] [Outlined β] in
theorem canStop (alike : m.Alike k j m') : m.canStop = m'.canStop := by
  have running := alike.running
  unfold Machine.canStop
  generalize m.currentState? = o at running ⊢
  generalize m'.currentState? = o' at running ⊢
  cases running with
  | none => rfl
  | @some s s' same =>
    have size := same.transitions.length_eq
    have none : s.transitions.isEmpty = s'.transitions.isEmpty := by
      rw [Bool.eq_iff_iff, List.isEmpty_iff_length_eq_zero, List.isEmpty_iff_length_eq_zero, size]
    simp only [Option.any_some, same.ended, none]

variable [Behaves.Quiet β] [Repeatable β]

theorem onDeactivate (alike : m.Alike k j m') (paired : m.Paired active m')
    (scopes : ctx.toScope.Alike k j ctx'.toScope) :
    Alike k j (m.onDeactivate ctx).1 (m'.onDeactivate ctx').1 where
  current := by simp [Machine.onDeactivate, alike.current]
  running := rel_actOnCurrent (fun _ _ pair => pair.2.deactivate pair.1 scopes)
    (rel_and (paired.currentState alike.current) alike.running)

omit [Quiet β] in
theorem onTrigger (alike : m.Alike k j m') (paired : m.Paired active m') (tag : String) :
    Alike k j (m.onTrigger tag) (m'.onTrigger tag) := by
  have triggered (m : Machine β) : (m.onTrigger tag).current = m.current ∧
      (m.onTrigger tag).currentState? = m.currentState?.map (State.onTrigger tag) := by
    unfold Machine.onTrigger currentState?
    cases current : m.current with
    | none => simp [current]
    | some i => simp
  refine ⟨by rw [(triggered m).1, (triggered m').1, alike.current], ?_⟩
  rw [(triggered m).2, (triggered m').2]
  exact rel_map (fun _ _ pair => pair.2.onTrigger pair.1 tag)
    (rel_and (paired.currentState alike.current) alike.running)

end Alike

omit [Ordered β] [Lasting β] [Outlined β] in
/-- What the states were before does not show after a reset. -/
theorem alike_reset (m m' : Machine β) (ctx ctx' : Context) :
    Alike k j (m.onReset ctx).1 (m'.onReset ctx').1 :=
  ⟨rfl, .none⟩

variable [Behaves.Disciplined β] [Behaves.Quiet β] [Repeatable β]

/-- Entering the state at a position of machines that run none. -/
theorem alike_enterAt (scopes : ctx.toScope.Alike k j ctx'.toScope) (paired : m.Paired false m')
    (i : Nat) : Alike k j (m.enterAt ctx i).1 (m'.enterAt ctx' i).1 := by
  have resting (m : Machine β) (orderly : m.Orderly false false) :
      ∀ s ∈ m.states, s.active = false := by
    intro s member
    obtain ⟨i, bound, rfl⟩ := List.mem_iff_getElem.mp member
    simpa using (orderly.states i _ (List.getElem?_eq_getElem bound)).1
  have pairs := forall₂_members paired.states (resting m paired.left) (resting m' paired.right)
  refine ⟨by simp [enterAt], ?_⟩
  exact rel_actOnCurrent
    (fun _ _ pair => State.alike_enter scopes pair.1 pair.2.1 pair.2.2) (rel_getElem? pairs i)

theorem alike_enterInitial (scopes : ctx.toScope.Alike k j ctx'.toScope)
    (paired : m.Paired false m') :
    Alike k j (m.enterInitial ctx).1 (m'.enterInitial ctx').1 := by
  unfold enterInitial
  rw [← paired.index_eq, ← paired.initial_eq]
  split
  · rename_i missing
    have initial := paired.left.initial
    rw [missing] at initial
    cases initial
  · exact alike_enterAt scopes paired _

namespace Alike

theorem onActivate (alike : m.Alike k j m') (paired : m.Paired false m')
    (scopes : ctx.toScope.Alike k j ctx'.toScope) :
    Alike k j (m.onActivate ctx).1 (m'.onActivate ctx').1 := by
  unfold Machine.onActivate
  rw [← alike.current]
  split
  · refine ⟨by simp [alike.current], ?_⟩
    exact rel_actOnCurrent (fun _ _ pair => pair.2.activate pair.1 scopes)
      (rel_and (paired.currentState alike.current) alike.running)
  · exact alike_enterInitial scopes paired

theorem switchTo (alike : m.Alike k j m') (paired : m.Paired true m')
    (scopes : ctx.toScope.Alike k j ctx'.toScope) (target : String) :
    Alike k j (m.switchTo ctx target).1 (m'.switchTo ctx' target).1 ∧
      (m.switchTo ctx target).2.toScope.Alike k j (m'.switchTo ctx' target).2.toScope := by
  unfold Machine.switchTo
  rw [← paired.index_eq]
  split
  · exact ⟨alike, scopes⟩
  · rename_i next _
    have pairs := rel_and (paired.currentState alike.current) alike.running
    have later := alike_actOnCurrent scopes
      (fun _ _ pair => (pair.2.leave pair.1 scopes).2) pairs
    have left := paired.of_pristine (paired.left.leaveCurrent ctx)
      (paired.right.leaveCurrent ctx') (m.pristine_actOnCurrent State.pristine_leave ctx)
      (m'.pristine_actOnCurrent State.pristine_leave ctx')
    have entered := alike_enterAt later left next
    exact ⟨⟨entered.current, entered.running⟩,
      Context.alike_of_mute later (mute_enterAt _ _ next) (mute_enterAt _ _ next)⟩

theorem advance (alike : m.Alike k j m') (paired : m.Paired true m') (step : Float32)
    (scopes : ctx.toScope.Alike k j ctx'.toScope) {i : Nat} {s s' : State β}
    (current : m.current = some i) (found : m.states[i]? = some s)
    (found' : m'.states[i]? = some s') :
    Alike k j (m.advance step ctx i s).1 (m'.advance step ctx' i s').1 ∧
      (m.advance step ctx i s).2.toScope.Alike k j (m'.advance step ctx' i s').2.toScope := by
  have current' : m'.current = some i := alike.current.symm.trans current
  have pair := rel_and (paired.currentState alike.current) alike.running
  simp only [currentState?, current, current', Option.bind_some, found, found'] at pair
  obtain ⟨states, same⟩ : s.Paired s' ∧ s.Alike k j s' := by
    cases pair
    assumption
  obtain ⟨updated, moved⟩ := same.update states step scopes
  obtain ⟨target, ticked, later⟩ := updated.checkTransitions step moved
  obtain ⟨status, order⟩ := Orderly.tick states.left step ctx
  obtain ⟨status', order'⟩ := Orderly.tick states.right step ctx'
  have kept := paired.of_pristine (paired.left.set found status order)
    (paired.right.set found' status' order') (m.pristine_set found (pristine_tick step ctx s))
    (m'.pristine_set found' (pristine_tick step ctx' s'))
  have after : Alike k j { m with states := m.states.set i (tick step ctx s).2.1 }
      { m' with states := m'.states.set i (tick step ctx' s').2.1 } := by
    refine ⟨alike.current, ?_⟩
    have bound := (List.getElem?_eq_some_iff.mp found).1
    have bound' := (List.getElem?_eq_some_iff.mp found').1
    simp only [currentState?, current, current', Option.bind_some,
      List.getElem?_set_self bound, List.getElem?_set_self bound']
    exact .some ticked
  have named : (tick step ctx s).1 = (tick step ctx' s').1 := target
  unfold Machine.advance
  dsimp only
  rw [← named]
  split
  · exact ⟨after, later⟩
  · exact after.switchTo kept later _

theorem ready (alike : m.Alike k j m') (paired : m.Paired true m')
    (scopes : ctx.toScope.Alike k j ctx'.toScope) :
    Alike k j (m.ready ctx).1 (m'.ready ctx').1 ∧
      (m.ready ctx).2.toScope.Alike k j (m'.ready ctx').2.toScope := by
  unfold Machine.ready
  rw [← alike.current]
  split
  · exact ⟨alike, scopes⟩
  · rename_i none
    have resting := paired.of_pristine (paired.left.idle none)
      (paired.right.idle (alike.current.symm.trans none)) rfl rfl
    exact ⟨alike_enterInitial scopes resting,
      Context.alike_of_mute scopes (m.mute_enterInitial ctx) (m'.mute_enterInitial ctx')⟩

theorem onUpdate (alike : m.Alike k j m') (paired : m.Paired true m') (step : Float32)
    (scopes : ctx.toScope.Alike k j ctx'.toScope) :
    Agree k j (Alike k j) (m.onUpdate step ctx) (m'.onUpdate step ctx') := by
  obtain ⟨readied, later⟩ := alike.ready paired scopes
  have begun := paired.of_pristine (paired.left.ready ctx).1 (paired.right.ready ctx').1
    (m.pristine_ready ctx) (m'.pristine_ready ctx')
  unfold Machine.onUpdate
  dsimp only
  rw [← readied.current]
  split
  · exact ⟨rfl, readied, later⟩
  · rename_i i current
    have pair := rel_getElem? begun.states i
    cases found : (m.ready ctx).1.states[i]? with
    | none =>
      cases found' : (m'.ready ctx').1.states[i]? with
      | none => exact ⟨rfl, readied, later⟩
      | some s' =>
        rw [found, found'] at pair
        cases pair
    | some s =>
      cases found' : (m'.ready ctx').1.states[i]? with
      | none =>
        rw [found, found'] at pair
        cases pair
      | some s' =>
        obtain ⟨advanced, last⟩ := readied.advance begun step later current found found'
        exact ⟨rfl, advanced, last⟩

end Alike

end Machine

end SkillScript
