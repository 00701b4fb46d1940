import SkillScript.Proofs.Status.State
/-!
# Sequences and parallels keep their order

A sequence that is updated hands its turn from child to child: those that get
through are put to rest, the next one is entered, and the one that goes on stays
active. A parallel puts every child to rest as soon as it is through. Both enter
only children that rest.
-/
set_option autoImplicit false
namespace SkillScript

open Behaves.Disciplined

variable {β : Type} [Behaves β] [Ordered β] [Behaves.Disciplined β] {strict active : Bool}

namespace Sequence

theorem ready_orderly {started : Bool} (ctx : Context) {c : β}
    (status : Behaves.isActive c = started) (orderly : Ordered.Orderly strict c) :
    Behaves.isActive (ready started ctx c).1 = true ∧
      Ordered.Orderly strict (ready started ctx c).1 := by
  cases started with
  | true => exact ⟨status, orderly⟩
  | false => exact ⟨Behaves.isActive_enter ctx c, Behaves.orderly_enter ctx orderly fun _ => status⟩

/-- The first child is active if it was started, the others rest. -/
def Turn (strict started : Bool) (l : List β) : Prop :=
  ∀ i c, l[i]? = some c →
    Behaves.isActive c = (started && i == 0) ∧ Ordered.Orderly strict c

omit [Behaves.Disciplined β] in
theorem Turn.head {started : Bool} {c : β} {rest : List β}
    (turn : Turn strict started (c :: rest)) :
    Behaves.isActive c = started ∧ Ordered.Orderly strict c := by
  simpa using turn 0 c rfl

omit [Behaves.Disciplined β] in
theorem Turn.tail {started : Bool} {c : β} {rest : List β}
    (turn : Turn strict started (c :: rest)) :
    Turn strict false rest := by
  intro i c' found
  simpa using turn (i + 1) c' (by simpa using found)

/-- The child at which a run stops is active, all others rest. -/
theorem orderly_run (started : Bool) (step : Float32) (ctx : Context) {l : List β}
    (turn : Turn strict started l) :
    ∀ i c, (run started step ctx l).2.2.1[i]? = some c →
      Behaves.isActive c = (i == (run started step ctx l).2.1) ∧ Ordered.Orderly strict c := by
  induction l generalizing started step ctx with
  | nil =>
    intro i c found
    simp [run] at found
  | cons c rest ih =>
    obtain ⟨status, order⟩ := turn.head
    obtain ⟨awake, readied⟩ := ready_orderly ctx status order
    have updated := orderly_update step (ready started ctx c).2 readied
    rw [run_cons]
    dsimp only
    split
    · intro i c' found
      cases i with
      | zero =>
        simp only [List.getElem?_cons_zero, Option.some.injEq] at found
        subst found
        exact ⟨by simp, orderly_deactivate _ updated⟩
      | succ i =>
        simp only [List.getElem?_cons_succ] at found
        have later := ih false _ _ turn.tail i c' found
        simpa using later
    · intro i c' found
      cases i with
      | zero =>
        simp only [List.getElem?_cons_zero, Option.some.injEq] at found
        subst found
        exact ⟨by simp [awake], updated⟩
      | succ i =>
        simp only [List.getElem?_cons_succ] at found
        simpa using turn.tail i c' found

theorem refusals_run [Behaves.Quiet β] (started : Bool) (step : Float32) (ctx : Context)
    {l : List β} (turn : Turn strict started l) :
    (run started step ctx l).2.2.2.refusals = ctx.refusals := by
  induction l generalizing started step ctx with
  | nil => rfl
  | cons c rest ih =>
    obtain ⟨status, order⟩ := turn.head
    obtain ⟨awake, readied⟩ := ready_orderly ctx status order
    have updated := refusals_update step (ready started ctx c).2 readied awake
    have same : (ready started ctx c).2.refusals = ctx.refusals := by
      cases started <;> simp [ready]
    rw [run_cons]
    dsimp only
    split
    · simp [ih _ _ _ turn.tail, updated, same]
    · exact updated.trans same

omit [Ordered β] [Behaves.Disciplined β] in
theorem length_run (started : Bool) (step : Float32) (ctx : Context) (l : List β) :
    (run started step ctx l).2.2.1.length = l.length := by
  induction l generalizing started step ctx with
  | nil => rfl
  | cons c rest ih =>
    rw [run_cons]
    dsimp only
    split <;> simp [ih]

omit [Ordered β] [Behaves.Disciplined β] in
theorem onUpdate_eq (step : Float32) (ctx : Context) (s : Sequence β) :
    s.onUpdate step ctx =
      let ran := run s.started step ctx (s.children.drop s.index)
      (ran.1,
        { children := s.children.take s.index ++ ran.2.2.1
          index := s.index + ran.2.1
          started := true },
        ran.2.2.2) :=
  rfl

namespace Orderly

variable {s : Sequence β}

omit [Behaves.Disciplined β] in
/-- While a sequence rests, so do all its children. -/
theorem resting (orderly : s.Orderly strict false) {i : Nat} {c : β}
    (found : s.children[i]? = some c) : Behaves.isActive c = false := by
  simpa using (orderly.children i c found).1

theorem start (orderly : s.Orderly strict false) (ctx : Context) :
    (s.start ctx).1.Orderly strict true := by
  refine ⟨?_, fun _ _ => rfl⟩
  intro i c found
  rcases getElem?_actAt_eq_some found with ⟨turn, c', inside, rfl⟩ | ⟨other, inside⟩
  · have order := (orderly.children i c' inside).2
    refine ⟨?_, Behaves.orderly_enter ctx order fun _ => orderly.resting inside⟩
    simp [Sequence.start, turn]
  · refine ⟨?_, (orderly.children i c inside).2⟩
    simp [Sequence.start, other, orderly.resting inside]

theorem onActivate (orderly : s.Orderly strict false) (ctx : Context) :
    (s.onActivate ctx).1.Orderly strict true := by
  unfold Sequence.onActivate
  split
  · rename_i started
    refine ⟨?_, fun _ _ => started⟩
    intro i c found
    rcases getElem?_actAt_eq_some found with ⟨turn, c', inside, rfl⟩ | ⟨other, inside⟩
    · exact ⟨by simp [turn, started], orderly_activate ctx (orderly.children i c' inside).2⟩
    · exact ⟨by simp [other, orderly.resting inside], (orderly.children i c inside).2⟩
  · exact orderly.start ctx

theorem onDeactivate (orderly : s.Orderly strict true) (ctx : Context) :
    (s.onDeactivate ctx).1.Orderly strict false := by
  refine ⟨?_, nofun⟩
  intro i c found
  rcases getElem?_actAt_eq_some found with ⟨turn, c', inside, rfl⟩ | ⟨other, inside⟩
  · exact ⟨by simp, orderly_deactivate ctx (orderly.children i c' inside).2⟩
  · obtain ⟨status, order⟩ := orderly.children i c inside
    exact ⟨by simp [status, other], order⟩

theorem onReset (orderly : s.Orderly strict active) (resting : strict = true → active = false)
    (ctx : Context) : (s.onReset ctx).1.Orderly strict active := by
  have rested : ∀ (i : Nat) (c : β), (s.onReset ctx).1.children[i]? = some c →
      Behaves.isActive c = false ∧ Ordered.Orderly strict c := by
    intro i c found
    cases started : s.started with
    | true =>
      simp only [Sequence.onReset, started, if_true] at found
      rcases getElem?_actAt_eq_some found with ⟨turn, c', inside, rfl⟩ | ⟨other, inside⟩
      · exact ⟨by simp, orderly_deactivate ctx (orderly.children i c' inside).2⟩
      · obtain ⟨status, order⟩ := orderly.children i c inside
        exact ⟨by simp [status, other], order⟩
    | false =>
      simp only [Sequence.onReset, started] at found
      obtain ⟨status, order⟩ := orderly.children i c found
      exact ⟨by simp [status, started], order⟩
  refine ⟨?_, ?_⟩
  · intro i c found
    obtain ⟨status, order⟩ := rested i c found
    exact ⟨by simp [status, Sequence.onReset], order⟩
  · intro strictly awake
    rw [resting strictly] at awake
    cases awake

omit [Behaves.Disciplined β] in
theorem turn (orderly : s.Orderly strict true) :
    Turn strict s.started (s.children.drop s.index) := by
  intro i c found
  rw [List.getElem?_drop] at found
  obtain ⟨status, order⟩ := orderly.children (s.index + i) c found
  have first : (s.index + i == s.index) = (i == 0) := by
    rw [Bool.eq_iff_iff]
    simp only [beq_iff_eq]
    omega
  exact ⟨by rw [status, first, Bool.true_and], order⟩

theorem onUpdate (orderly : s.Orderly strict true) (step : Float32) (ctx : Context) :
    (s.onUpdate step ctx).2.1.Orderly strict true := by
  refine ⟨?_, fun _ _ => rfl⟩
  intro i c found
  have ran := orderly_run s.started step ctx orderly.turn
  have size := length_run s.started step ctx (s.children.drop s.index)
  rw [onUpdate_eq] at found ⊢
  generalize run s.started step ctx (s.children.drop s.index) = r at ran size found ⊢
  rw [List.length_drop] at size
  rw [List.getElem?_append] at found
  split at found
  · rename_i before
    rw [List.length_take] at before
    have earlier : i < s.index := by omega
    rw [List.getElem?_take, if_pos earlier] at found
    obtain ⟨status, order⟩ := orderly.children i c found
    have passed : i ≠ s.index := by omega
    have missed : i ≠ s.index + r.2.1 := by omega
    rw [status, beq_false_of_ne passed, beq_false_of_ne missed]
    exact ⟨by simp, order⟩
  · rename_i notBefore
    rw [List.length_take] at notBefore found
    have bound := (List.getElem?_eq_some_iff.mp found).1
    have taken : min s.index s.children.length = s.index := by omega
    rw [taken] at found notBefore
    obtain ⟨status, order⟩ := ran _ c found
    have shifted : (i - s.index == r.2.1) = (i == s.index + r.2.1) := by
      rw [Bool.eq_iff_iff]
      simp only [beq_iff_eq]
      omega
    exact ⟨by rw [status, shifted, Bool.true_and, Bool.true_and], order⟩

theorem refusals_onUpdate [Behaves.Quiet β] (orderly : s.Orderly strict true) (step : Float32)
    (ctx : Context) : (s.onUpdate step ctx).2.2.refusals = ctx.refusals :=
  refusals_run s.started step ctx orderly.turn

theorem onTrigger (orderly : s.Orderly strict active) (tag : String) :
    (s.onTrigger tag).Orderly strict active := by
  refine ⟨?_, orderly.started⟩
  intro i c found
  simp only [Sequence.onTrigger, List.getElem?_modify] at found
  obtain ⟨c', inside, rfl⟩ := Option.map_eq_some_iff.mp found
  obtain ⟨status, order⟩ := orderly.children i c' inside
  split
  · exact ⟨(isActive_onTrigger tag c').trans status, orderly_onTrigger tag order⟩
  · exact ⟨status, order⟩

end Orderly

end Sequence

namespace Parallel

/-- Every child that is not through is active, the others rest. -/
def Running (strict : Bool) (lanes : List (Lane β)) : Prop :=
  ∀ l ∈ lanes, Behaves.isActive l.child = !l.finished ∧ Ordered.Orderly strict l.child

theorem orderly_run (step least : Float32) (ctx : Context) {lanes : List (Lane β)}
    (running : Running strict lanes) : Running strict (run step least ctx lanes).2.1 := by
  induction lanes generalizing least ctx with
  | nil => exact running
  | cons l rest ih =>
    obtain ⟨⟨status, order⟩, others⟩ := List.forall_mem_cons.mp running
    have updated := orderly_update step ctx order
    rw [run_cons]
    split
    · exact List.forall_mem_cons.mpr ⟨⟨status, order⟩, ih _ _ others⟩
    · rename_i unfinished
      dsimp only
      split
      · exact List.forall_mem_cons.mpr
          ⟨⟨by simp, orderly_deactivate _ updated⟩, ih _ _ others⟩
      · refine List.forall_mem_cons.mpr ⟨⟨?_, updated⟩, ih _ _ others⟩
        simpa [unfinished] using status

theorem refusals_run [Behaves.Quiet β] (step least : Float32) (ctx : Context)
    {lanes : List (Lane β)} (running : Running strict lanes) :
    (run step least ctx lanes).2.2.refusals = ctx.refusals := by
  induction lanes generalizing least ctx with
  | nil => rfl
  | cons l rest ih =>
    obtain ⟨⟨status, order⟩, others⟩ := List.forall_mem_cons.mp running
    rw [run_cons]
    split
    · exact ih _ _ others
    · rename_i unfinished
      have awake : Behaves.isActive l.child = true := by simpa [unfinished] using status
      have updated := refusals_update step ctx order awake
      dsimp only
      split <;> simp [ih _ _ others, updated]

namespace Orderly

variable {p : Parallel β}

/-- Entering all children of a parallel that runs none of them. -/
theorem start (ctx : Context)
    (rests : ∀ l ∈ p.lanes, Behaves.isActive l.child = false ∧ Ordered.Orderly strict l.child) :
    (p.start ctx).1.Orderly strict true := by
  refine ⟨?_, fun _ _ => rfl⟩
  intro l member
  obtain ⟨opened, inside, ctx', rfl⟩ := mem_actAll member
  obtain ⟨l', inside', rfl⟩ := List.mem_map.mp inside
  obtain ⟨resting, order⟩ := rests l' inside'
  exact ⟨Behaves.isActive_enter .., Behaves.orderly_enter ctx' order fun _ => resting⟩

theorem onActivate (orderly : p.Orderly strict false) (ctx : Context) :
    (p.onActivate ctx).1.Orderly strict true := by
  unfold Parallel.onActivate
  split
  · rename_i started
    refine ⟨?_, fun _ _ => started⟩
    intro l member
    obtain ⟨l', inside, ctx', rfl⟩ := mem_actAll member
    obtain ⟨status, order⟩ := orderly.lanes l' inside
    unfold Lane.actIfRunning
    split
    · rename_i finished
      exact ⟨by simpa [finished] using status, order⟩
    · rename_i unfinished
      exact ⟨by simp [Lane.act, started, unfinished], orderly_activate ctx' order⟩
  · refine start ctx fun l member => ?_
    simpa using orderly.lanes l member

theorem onDeactivate (orderly : p.Orderly strict true) (ctx : Context) :
    (p.onDeactivate ctx).1.Orderly strict false := by
  refine ⟨?_, nofun⟩
  intro l member
  obtain ⟨l', inside, ctx', rfl⟩ := mem_actAll member
  exact ⟨by simp [Lane.act], orderly_deactivate ctx' (orderly.lanes l' inside).2⟩

theorem onReset (orderly : p.Orderly strict active) (resting : strict = true → active = false)
    (ctx : Context) : (p.onReset ctx).1.Orderly strict active := by
  refine ⟨?_, ?_⟩
  · intro l member
    obtain ⟨acted, inside, rfl⟩ := List.mem_map.mp member
    obtain ⟨l', inside', ctx', rfl⟩ := mem_actAll inside
    refine ⟨?_, orderly_deactivate ctx' (orderly.lanes l' inside').2⟩
    simp [Lane.act, Lane.reopen, Parallel.onReset]
  · intro strictly awake
    rw [resting strictly] at awake
    cases awake

/-- Once the children were started, each of them runs until it is through. -/
theorem ready (orderly : p.Orderly strict true) (ctx : Context) :
    (p.ready ctx).1.Orderly strict true ∧ (p.ready ctx).1.started = true := by
  unfold Parallel.ready
  split
  · rename_i started
    exact ⟨orderly, started⟩
  · rename_i unstarted
    refine ⟨start ctx fun l member => ?_, rfl⟩
    simpa [unstarted] using orderly.lanes l member

omit [Behaves.Disciplined β] in
theorem running (orderly : p.Orderly strict true) (started : p.started = true) :
    Running strict p.lanes := by
  intro l member
  simpa [started] using orderly.lanes l member

theorem onUpdate (orderly : p.Orderly strict true) (step : Float32) (ctx : Context) :
    (p.onUpdate step ctx).2.1.Orderly strict true := by
  obtain ⟨readied, started⟩ := orderly.ready ctx
  have ran := orderly_run step step (p.ready ctx).2 (readied.running started)
  refine ⟨?_, readied.started⟩
  intro l member
  obtain ⟨status, order⟩ := ran l member
  refine ⟨?_, order⟩
  simp [Parallel.onUpdate, started, status]

theorem refusals_onUpdate [Behaves.Quiet β] (orderly : p.Orderly strict true) (step : Float32)
    (ctx : Context) : (p.onUpdate step ctx).2.2.refusals = ctx.refusals := by
  obtain ⟨readied, started⟩ := orderly.ready ctx
  have ran := refusals_run step step (p.ready ctx).2 (readied.running started)
  have same : (p.ready ctx).2.refusals = ctx.refusals := by
    unfold Parallel.ready
    split
    · rfl
    · exact Context.refusals_eq_of_mute (p.mute_start ctx)
  exact ran.trans same

theorem onTrigger (orderly : p.Orderly strict active) (tag : String) :
    (p.onTrigger tag).Orderly strict active := by
  refine ⟨?_, orderly.started⟩
  intro l member
  obtain ⟨l', inside, rfl⟩ := List.mem_map.mp member
  obtain ⟨status, order⟩ := orderly.lanes l' inside
  split
  · exact ⟨status, order⟩
  · exact ⟨(isActive_onTrigger tag l'.child).trans status, orderly_onTrigger tag order⟩

end Orderly

end Parallel

end SkillScript
