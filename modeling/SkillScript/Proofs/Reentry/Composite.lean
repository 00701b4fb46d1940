import SkillScript.Proofs.Reentry.Pairs
import SkillScript.Proofs.Status.Composite
/-!
# Sequences and parallels that look alike

Sequences look alike if the child whose turn it is does, once it was started;
parallels if all children that are not through do. What the other children were
before does not count, since a child is entered before it runs.
-/
set_option autoImplicit false
namespace SkillScript

open Behaves

variable {β : Type} [Behaves β] [Ordered β] [Lasting β] [Outlined β] [Resembling β] {k j : Nat}

namespace Sequence

structure Paired (active : Bool) (s s' : Sequence β) : Prop where
  left : s.Orderly false active
  right : s'.Orderly false active
  children : List.Forall₂ Behaves.Paired s.children s'.children

structure Alike (k j : Nat) (s s' : Sequence β) : Prop where
  index : s.index = s'.index
  started : s.started = s'.started
  running : s.started = true →
    Option.Rel (Resembling.Alike k j) s.children[s.index]? s'.children[s.index]?

section Resting

omit [Resembling β]

omit [Lasting β] [Outlined β] in
theorem resting_of_mem {s : Sequence β} (orderly : s.Orderly false false) :
    ∀ c ∈ s.children, isActive c = false := by
  intro c member
  obtain ⟨i, bound, rfl⟩ := List.mem_iff_getElem.mp member
  exact orderly.resting (List.getElem?_eq_getElem bound)

theorem Paired.resting {s s' : Sequence β} (paired : Paired false s s') :
    List.Forall₂ (fun c c' => Behaves.Paired c c' ∧ isActive c = false ∧ isActive c' = false)
      s.children s'.children :=
  forall₂_members paired.children (resting_of_mem paired.left) (resting_of_mem paired.right)

end Resting

variable {s s' : Sequence β} {ctx ctx' : Context} {active : Bool}

namespace Alike

theorem canStop (alike : s.Alike k j s') (paired : Paired active s s') :
    s.canStop = s'.canStop := by
  rw [Sequence.canStop, Sequence.canStop, paired.children.length_eq, alike.index]

variable [Repeatable β]

theorem onDeactivate (alike : s.Alike k j s') (paired : Paired active s s')
    (scopes : ctx.toScope.Alike k j ctx'.toScope) :
    Alike k j (s.onDeactivate ctx).1 (s'.onDeactivate ctx').1 := by
  refine ⟨alike.index, alike.started, fun started => ?_⟩
  simp only [Sequence.onDeactivate, ← alike.index]
  exact rel_actAt (fun c c' pair => Repeatable.alike_deactivate scopes pair.1 pair.2) s.index
    (rel_and (rel_getElem? paired.children s.index) (alike.running started))

theorem onTrigger (alike : s.Alike k j s') (paired : Paired active s s') (tag : String) :
    Alike k j (s.onTrigger tag) (s'.onTrigger tag) := by
  refine ⟨alike.index, alike.started, fun started => ?_⟩
  simp only [Sequence.onTrigger, ← alike.index, List.getElem?_modify]
  exact rel_map (fun c c' pair => by simpa using Repeatable.alike_onTrigger tag pair.1 pair.2)
    (rel_and (rel_getElem? paired.children s.index) (alike.running started))

end Alike

variable [Behaves.Disciplined β] [Behaves.Quiet β] [Repeatable β]

theorem alike_start (scopes : ctx.toScope.Alike k j ctx'.toScope) (paired : Paired false s s')
    (index : s.index = s'.index) : Alike k j (s.start ctx).1 (s'.start ctx').1 := by
  refine ⟨index, rfl, fun _ => ?_⟩
  simp only [start, ← index]
  exact rel_actAt (fun c c' pair => Behaves.alike_enter scopes pair.1 pair.2.1 pair.2.2) s.index
    (rel_getElem? paired.resting s.index)

theorem alike_ready {started : Bool} (scopes : ctx.toScope.Alike k j ctx'.toScope) {c c' : β}
    (paired : Behaves.Paired c c') (status : isActive c = started)
    (status' : isActive c' = started) (running : started = true → Resembling.Alike k j c c') :
    Behaves.Paired (ready started ctx c).1 (ready started ctx' c').1 ∧
      Resembling.Alike k j (ready started ctx c).1 (ready started ctx' c').1 ∧
      (ready started ctx c).2.toScope.Alike k j (ready started ctx' c').2.toScope := by
  cases started with
  | true => exact ⟨paired, running rfl, scopes⟩
  | false =>
    exact ⟨paired.enter ctx ctx', Behaves.alike_enter scopes paired status status',
      Context.alike_of_mute scopes (mute_enter ctx c) (mute_enter ctx' c')⟩

omit [Ordered β] [Lasting β] [Outlined β] [Disciplined β] [Quiet β] [Repeatable β] in
/-- What the children were before does not show after a reset. -/
theorem alike_reset (s s' : Sequence β) (ctx ctx' : Context) :
    Alike k j (s.onReset ctx).1 (s'.onReset ctx').1 :=
  ⟨rfl, rfl, nofun⟩

/-- Runs leave the same of the step, get equally far and stop at children that look alike. -/
theorem alike_run (started : Bool) (step : Float32) (scopes : ctx.toScope.Alike k j ctx'.toScope)
    {l l' : List β} (pairs : List.Forall₂ Behaves.Paired l l') (turn : Turn false started l)
    (turn' : Turn false started l')
    (running : started = true → Option.Rel (Resembling.Alike k j) l[0]? l'[0]?) :
    (run started step ctx l).1 = (run started step ctx' l').1 ∧
      (run started step ctx l).2.1 = (run started step ctx' l').2.1 ∧
      Option.Rel (Resembling.Alike k j)
        (run started step ctx l).2.2.1[(run started step ctx l).2.1]?
        (run started step ctx' l').2.2.1[(run started step ctx l).2.1]? ∧
      (run started step ctx l).2.2.2.toScope.Alike k j
        (run started step ctx' l').2.2.2.toScope := by
  induction pairs generalizing started step ctx ctx' with
  | nil => exact ⟨rfl, rfl, .none, scopes⟩
  | @cons c c' rest rest' head tail ih =>
    have first : started = true → Resembling.Alike k j c c' := by
      intro begun
      cases running begun with
      | some alike => exact alike
    obtain ⟨paired, alike, later⟩ := alike_ready scopes head turn.head.1 turn'.head.1 first
    have ran := Repeatable.update_agree step later paired alike
    have still := paired.update step step (ready started ctx c).2 (ready started ctx' c').2
    have ends := Repeatable.canStop_eq still ran.nodes
    rw [run_cons, run_cons]
    dsimp only
    generalize update step (ready started ctx c).2 (ready started ctx c).1 = u at ran ends ⊢
    generalize update step (ready started ctx' c').2 (ready started ctx' c').1 = u' at ran ends ⊢
    have rested := Context.alike_of_mute ran.scopes (Quiet.mute_deactivate u.2.2 u.2.1)
      (Quiet.mute_deactivate u'.2.2 u'.2.1)
    obtain ⟨left, through, stopped, last⟩ := ih false u.1 rested turn.tail turn'.tail nofun
    rw [← ends]
    split
    · rw [← ran.left]
      exact ⟨left, congrArg (· + 1) through, stopped, last⟩
    · exact ⟨rfl, rfl, .some ran.nodes, ran.scopes⟩

omit [Ordered β] [Lasting β] [Outlined β] [Resembling β] [Disciplined β] [Quiet β]
  [Repeatable β] in
/-- The child at the index after an update is the one at which the run stopped. -/
theorem getElem?_onUpdate (step : Float32) (ctx : Context) (s : Sequence β) :
    (s.onUpdate step ctx).2.1.children[(s.onUpdate step ctx).2.1.index]? =
      (run s.started step ctx (s.children.drop s.index)).2.2.1[
        (run s.started step ctx (s.children.drop s.index)).2.1]? := by
  have size := length_run s.started step ctx (s.children.drop s.index)
  rw [onUpdate_eq]
  generalize run s.started step ctx (s.children.drop s.index) = r at size ⊢
  rw [List.length_drop] at size
  have taken : (s.children.take s.index).length = min s.index s.children.length :=
    List.length_take
  dsimp only
  rw [List.getElem?_append_right (by omega), taken]
  by_cases inside : s.index ≤ s.children.length
  · congr 1
    omega
  · rw [List.getElem?_eq_none (by omega), List.getElem?_eq_none (by omega)]

namespace Alike

theorem onActivate (alike : s.Alike k j s') (paired : Paired false s s')
    (scopes : ctx.toScope.Alike k j ctx'.toScope) :
    Alike k j (s.onActivate ctx).1 (s'.onActivate ctx').1 := by
  unfold Sequence.onActivate
  rw [← alike.started]
  split
  · rename_i started
    refine ⟨alike.index, rfl, fun _ => ?_⟩
    dsimp only
    rw [← alike.index]
    exact rel_actAt (fun c c' pair => Repeatable.alike_activate scopes pair.1 pair.2) s.index
      (rel_and (rel_getElem? paired.children s.index) (alike.running started))
  · exact alike_start scopes paired alike.index

theorem onUpdate (alike : s.Alike k j s') (paired : Paired true s s') (step : Float32)
    (scopes : ctx.toScope.Alike k j ctx'.toScope) :
    Agree k j (Alike k j) (s.onUpdate step ctx) (s'.onUpdate step ctx') := by
  have turn' := paired.right.turn
  rw [← alike.started, ← alike.index] at turn'
  have running (started : s.started = true) : Option.Rel (Resembling.Alike k j)
      (s.children.drop s.index)[0]? (s'.children.drop s.index)[0]? := by
    rw [List.getElem?_drop, List.getElem?_drop]
    exact alike.running started
  obtain ⟨left, through, stopped, later⟩ := alike_run s.started step scopes
    (List.forall₂_drop s.index paired.children) paired.left.turn turn' running
  have here := s.getElem?_onUpdate step ctx
  have there := s'.getElem?_onUpdate step ctx'
  rw [← alike.started, ← alike.index, ← through] at there
  have index : (s.onUpdate step ctx).2.1.index = (s'.onUpdate step ctx').2.1.index := by
    simp only [onUpdate_eq, ← alike.started, ← alike.index, through]
  refine ⟨?_, ⟨index, rfl, fun _ => ?_⟩, ?_⟩
  · simp only [onUpdate_eq, ← alike.started, ← alike.index, left]
  · rw [here, index, there]
    exact stopped
  · simp only [onUpdate_eq, ← alike.started, ← alike.index]
    exact later

end Alike

end Sequence

structure Lane.Alike (k j : Nat) (started : Bool) (l l' : Lane β) : Prop where
  finished : l.finished = l'.finished
  child : started = true → l.finished = false → Resembling.Alike k j l.child l'.child

namespace Parallel

structure Paired (active : Bool) (p p' : Parallel β) : Prop where
  left : p.Orderly false active
  right : p'.Orderly false active
  lanes : List.Forall₂ (fun l l' => Behaves.Paired l.child l'.child) p.lanes p'.lanes

structure Alike (k j : Nat) (p p' : Parallel β) : Prop where
  started : p.started = p'.started
  lanes : List.Forall₂ (Lane.Alike k j p.started) p.lanes p'.lanes

variable {p p' : Parallel β} {ctx ctx' : Context} {active : Bool}

namespace Alike

omit [Behaves β] [Ordered β] [Lasting β] [Outlined β] in
theorem canStop (alike : p.Alike k j p') : p.canStop = p'.canStop := by
  have same (l l' : List (Lane β)) (lanes : List.Forall₂ (Lane.Alike k j p.started) l l') :
      l.all (·.finished) = l'.all (·.finished) := by
    induction lanes with
    | nil => rfl
    | cons head tail ih => rw [List.all_cons, List.all_cons, head.finished, ih]
  exact same p.lanes p'.lanes alike.lanes

variable [Repeatable β]

theorem onTrigger (alike : p.Alike k j p') (paired : Paired active p p') (tag : String) :
    Alike k j (p.onTrigger tag) (p'.onTrigger tag) := by
  refine ⟨alike.started, forall₂_map (fun l l' pair => ?_) (forall₂_and paired.lanes alike.lanes)⟩
  obtain ⟨pair, same⟩ := pair
  rw [← same.finished]
  split
  · exact same
  · refine ⟨rfl, fun started unfinished => ?_⟩
    exact Repeatable.alike_onTrigger tag pair (same.child started unfinished)

variable [Behaves.Quiet β]

theorem onDeactivate (alike : p.Alike k j p') (paired : Paired active p p')
    (scopes : ctx.toScope.Alike k j ctx'.toScope) :
    Alike k j (p.onDeactivate ctx).1 (p'.onDeactivate ctx').1 := by
  refine ⟨alike.started, forall₂_actAll (mute_act Quiet.mute_deactivate)
    (fun ctx ctx' scopes l l' pair => ?_) scopes (forall₂_and paired.lanes alike.lanes)⟩
  obtain ⟨pair, same⟩ := pair
  refine ⟨same.finished, fun started unfinished => ?_⟩
  exact Repeatable.alike_deactivate scopes pair (same.child started unfinished)

end Alike

variable [Behaves.Disciplined β] [Behaves.Quiet β] [Repeatable β]

/-- Entering all children of parallels that run none of them. -/
theorem alike_start (scopes : ctx.toScope.Alike k j ctx'.toScope)
    (pairs : List.Forall₂ (fun l l' => Behaves.Paired l.child l'.child ∧
      isActive l.child = false ∧ isActive l'.child = false) p.lanes p'.lanes) :
    List.Forall₂ (fun l l' => Behaves.Paired l.child l'.child ∧ Lane.Alike k j true l l')
      (p.start ctx).1.lanes (p'.start ctx').1.lanes := by
  have reopened : List.Forall₂ (fun l l' => (Behaves.Paired l.child l'.child ∧
      isActive l.child = false ∧ isActive l'.child = false) ∧ l.finished = l'.finished)
      (p.lanes.map Lane.reopen) (p'.lanes.map Lane.reopen) :=
    forall₂_map (fun l l' pair => ⟨pair, rfl⟩) pairs
  refine forall₂_actAll (mute_act mute_enter) (fun ctx ctx' scopes l l' pair => ?_)
    scopes reopened
  obtain ⟨⟨pair, status, status'⟩, same⟩ := pair
  exact ⟨pair.enter ctx ctx', same, fun _ _ => Behaves.alike_enter scopes pair status status'⟩

omit [Disciplined β] [Repeatable β] in
/-- What the lanes were before does not show after a reset. -/
theorem alike_reset (scopes : ctx.toScope.Alike k j ctx'.toScope) (paired : Paired active p p') :
    Alike k j (p.onReset ctx).1 (p'.onReset ctx').1 := by
  have rested : List.Forall₂ (fun _ _ => True)
      (actAll (Lane.act deactivate) ctx p.lanes).1 (actAll (Lane.act deactivate) ctx' p'.lanes).1 :=
    forall₂_actAll (mute_act Quiet.mute_deactivate) (fun _ _ _ _ _ _ => trivial) scopes paired.lanes
  exact ⟨rfl, forall₂_map (fun _ _ _ => ⟨rfl, nofun⟩) rested⟩

/-- Runs of lanes that look alike leave the same of the step. -/
theorem alike_run (step least : Float32) (scopes : ctx.toScope.Alike k j ctx'.toScope)
    {lanes lanes' : List (Lane β)}
    (pairs : List.Forall₂ (fun l l' => Behaves.Paired l.child l'.child ∧ Lane.Alike k j true l l')
      lanes lanes') :
    Agree k j (List.Forall₂ (Lane.Alike k j true)) (run step least ctx lanes)
      (run step least ctx' lanes') := by
  induction pairs generalizing least ctx ctx' with
  | nil => exact ⟨rfl, .nil, scopes⟩
  | @cons l l' rest rest' head tail ih =>
    obtain ⟨head, same⟩ := head
    rw [run_cons, run_cons, ← same.finished]
    split
    · have later := ih least scopes
      exact ⟨later.left, .cons same later.nodes, later.scopes⟩
    · rename_i unfinished
      have ran := Repeatable.update_agree step scopes head
        (same.child rfl (by simpa using unfinished))
      have ends := Repeatable.canStop_eq (head.update step step ctx ctx') ran.nodes
      dsimp only
      generalize update step ctx l.child = u at ran ends ⊢
      generalize update step ctx' l'.child = u' at ran ends ⊢
      have rested := Context.alike_of_mute ran.scopes (Quiet.mute_deactivate u.2.2 u.2.1)
        (Quiet.mute_deactivate u'.2.2 u'.2.1)
      rw [← ends, ← ran.left]
      split
      · have later := ih (Number.minNum least u.1) rested
        exact ⟨later.left, .cons ⟨rfl, nofun⟩ later.nodes, later.scopes⟩
      · have later := ih 0 ran.scopes
        exact ⟨later.left, .cons ⟨rfl, fun _ _ => ran.nodes⟩ later.nodes, later.scopes⟩

omit [Resembling β] [Disciplined β] [Quiet β] [Repeatable β] in
/-- While nothing was started, no child is active. -/
theorem Paired.resting (paired : Paired active p p')
    (idle : (active && p.started) = false) (idle' : (active && p'.started) = false) :
    List.Forall₂ (fun l l' => Behaves.Paired l.child l'.child ∧ isActive l.child = false ∧
      isActive l'.child = false) p.lanes p'.lanes := by
  refine forall₂_members paired.lanes (fun l member => ?_) fun l member => ?_
  · rw [(paired.left.lanes l member).1, idle, Bool.false_and]
  · rw [(paired.right.lanes l member).1, idle', Bool.false_and]

namespace Alike

theorem onActivate (alike : p.Alike k j p') (paired : Paired false p p')
    (scopes : ctx.toScope.Alike k j ctx'.toScope) :
    Alike k j (p.onActivate ctx).1 (p'.onActivate ctx').1 := by
  unfold Parallel.onActivate
  rw [← alike.started]
  split
  · rename_i started
    refine ⟨rfl, forall₂_actAll (mute_actIfRunning Quiet.mute_activate)
      (fun ctx ctx' scopes l l' pair => ?_) scopes (forall₂_and paired.lanes alike.lanes)⟩
    obtain ⟨pair, same⟩ := pair
    unfold Lane.actIfRunning
    by_cases finished : l.finished = true
    · rw [if_pos finished, if_pos (same.finished.symm.trans finished)]
      exact same
    · rw [if_neg finished, if_neg (by rwa [← same.finished])]
      refine ⟨same.finished, fun begun unfinished => ?_⟩
      exact Repeatable.alike_activate scopes pair (same.child begun unfinished)
  · exact ⟨rfl, (alike_start scopes (paired.resting rfl rfl)).imp fun _ _ pair => pair.2⟩

/-- Once the children were started, all that are not through look alike. -/
theorem ready (alike : p.Alike k j p') (paired : Paired true p p')
    (scopes : ctx.toScope.Alike k j ctx'.toScope) :
    List.Forall₂ (fun l l' => Behaves.Paired l.child l'.child ∧ Lane.Alike k j true l l')
        (p.ready ctx).1.lanes (p'.ready ctx').1.lanes ∧
      (p.ready ctx).1.started = true ∧ (p'.ready ctx').1.started = true ∧
      (p.ready ctx).2.toScope.Alike k j (p'.ready ctx').2.toScope := by
  unfold Parallel.ready
  rw [← alike.started]
  split
  · rename_i started
    have lanes := alike.lanes
    rw [started] at lanes
    exact ⟨forall₂_and paired.lanes lanes, started, alike.started.symm.trans started, scopes⟩
  · rename_i unstarted
    rw [Bool.not_eq_true] at unstarted
    have idle' : (true && p'.started) = false := by rw [← alike.started, unstarted]; rfl
    have resting := paired.resting (by rw [unstarted]; rfl) idle'
    exact ⟨alike_start scopes resting, rfl, rfl,
      Context.alike_of_mute scopes (p.mute_start ctx) (p'.mute_start ctx')⟩

theorem onUpdate (alike : p.Alike k j p') (paired : Paired true p p') (step : Float32)
    (scopes : ctx.toScope.Alike k j ctx'.toScope) :
    Agree k j (Alike k j) (p.onUpdate step ctx) (p'.onUpdate step ctx') := by
  obtain ⟨lanes, started, started', later⟩ := alike.ready paired scopes
  have ran := alike_run step step later lanes
  refine ⟨ran.left, ⟨started.trans started'.symm, ?_⟩, ran.scopes⟩
  simp only [Parallel.onUpdate, started]
  exact ran.nodes

end Alike

end Parallel

end SkillScript
