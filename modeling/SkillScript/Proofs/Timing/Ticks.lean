import SkillScript.Proofs.History
import SkillScript.Proofs.Timing.Update
/-!
# Timing does not depend on how time is cut into ticks

A plain tree is entered and updated tick by tick. As long as the timers are exact, it
can stop just when the ticks add up to its length, and the update that brings it there
returns what the time so far exceeds the length by. Nothing of this depends on how long
the single ticks are.
-/
set_option autoImplicit false
namespace SkillScript

open Number

structure Tick where
  step : Float32
  ctx : Context

def Tick.size (t : Tick) : ℕ∞ :=
  (quanta? t.step).getD 0

def elapsed (ticks : List Tick) : ℕ∞ :=
  (ticks.map Tick.size).sum

theorem elapsed_append (ticks : List Tick) (t : Tick) :
    elapsed (ticks ++ [t]) = elapsed ticks + t.size := by
  simp [elapsed]

def played {β : Type} [Behaves β] (b : β) (ticks : List Tick) : β :=
  ticks.foldl (fun b t => (Behaves.update t.step t.ctx b).2.1) b

/-- Ticks that are not negative, for which the timers of a tree are exact. -/
structure Precise {β : Type} [Behaves β] [Lasting β] [Timed β] (b : β) (ticks : List Tick) :
    Prop where
  nonneg : ∀ t ∈ ticks, 0 ≤ t.step
  finite : elapsed ticks ≠ ⊤
  exact : ∀ before t, before ++ [t] <+: ticks →
    Exact t.ctx.settings (Timed.spans 0 b) (elapsed before) (elapsed (before ++ [t]))

/-- Durations and ticks that are whole numbers, with totals of at most 24 bits. -/
structure Whole {β : Type} [Behaves β] [Lasting β] [Timed β] (b : β) (ticks : List Tick) :
    Prop where
  nonneg : ∀ t ∈ ticks, 0 ≤ t.step
  durations : ∀ s ∈ Timed.spans 0 b, IsWhole s.duration
  sizes : ∀ t ∈ ticks, IsWhole t.size
  length_lt : Timed.length b < wholes
  elapsed_lt : elapsed ticks < wholes
  tolerance : ∀ t ∈ ticks, t.ctx.settings.timeEpsilon < 1

theorem isWhole_elapsed {ticks : List Tick} (sizes : ∀ t ∈ ticks, IsWhole t.size) :
    IsWhole (elapsed ticks) := by
  induction ticks with
  | nil => exact IsWhole.zero
  | cons t rest ih =>
    obtain ⟨head, tail⟩ := List.forall_mem_cons.mp sizes
    exact head.add (ih tail)

theorem elapsed_mono {before ticks : List Tick} (first : before <+: ticks) :
    elapsed before ≤ elapsed ticks := by
  obtain ⟨rest, rfl⟩ := first
  rw [elapsed, elapsed, List.map_append, List.sum_append]
  exact le_self_add

variable {β : Type} [Behaves β] [Lasting β] [Timed β] {b : β} {ticks : List Tick}

theorem Whole.precise [Scheduled β] (whole : Whole b ticks) : Precise b ticks where
  nonneg := whole.nonneg
  finite := (whole.elapsed_lt.trans (ENat.natCast_lt_top _)).ne
  exact before t first := by
    have inside : t ∈ ticks := first.subset (List.mem_append_right _ (List.mem_singleton_self t))
    have starts := Scheduled.isWhole_start whole.durations IsWhole.zero
    have until' : IsWhole (elapsed (before ++ [t])) :=
      isWhole_elapsed fun t' member => whole.sizes t' (first.subset member)
    refine Exact.of_isWhole (whole.tolerance t inside) starts whole.durations (fun s member => ?_)
      until' ((elapsed_mono first).trans_lt whole.elapsed_lt)
    have within := Scheduled.finish_le member
    rw [zero_add] at within
    exact within.trans_lt whole.length_lt

namespace Precise

theorem of_append {t : Tick} (precise : Precise b (ticks ++ [t])) : Precise b ticks where
  nonneg t' member := precise.nonneg t' (List.mem_append_left _ member)
  finite := by
    have finite := precise.finite
    rw [elapsed_append] at finite
    exact (WithTop.add_ne_top.mp finite).1
  exact before t' first := precise.exact before t' (first.trans (List.prefix_append ..))

/-- The last tick as a step in quanta. -/
theorem step {t : Tick} {e : Nat} (precise : Precise b (ticks ++ [t]))
    (since : elapsed ticks = e) :
    ∃ δ : Nat, quanta? t.step = some (δ : ℕ∞) ∧ elapsed (ticks ++ [t]) = (e + δ : Nat) := by
  obtain ⟨n, known⟩ := quanta_of_le quanta_zero
    (precise.nonneg t (List.mem_append_right _ (List.mem_singleton_self t)))
  have size : t.size = n := by
    rw [Tick.size, known]
    rfl
  have finite := precise.finite
  rw [elapsed_append, size, since] at finite
  obtain ⟨δ, rfl⟩ := ENat.ne_top_iff_exists.mp (WithTop.add_ne_top.mp finite).2
  exact ⟨δ, known, by rw [elapsed_append, size, since, Nat.cast_add]⟩

end Precise

omit [Lasting β] [Timed β] in
theorem played_append (b : β) (ticks : List Tick) (t : Tick) :
    played b (ticks ++ [t]) = (Behaves.update t.step t.ctx (played b ticks)).2.1 := by
  rw [played, List.foldl_append]
  rfl

omit [Timed β] in
theorem pristine_played (b : β) (ticks : List Tick) : pristine (played b ticks) = pristine b := by
  induction ticks using List.reverseRecOn with
  | nil => rfl
  | append_singleton ticks t ih => rw [played_append, Lasting.pristine_update, ih]

variable [Ordered β] [Holding β] [Punctual β] [Effective β]

/-- One more tick of a tree that has kept to its schedule. -/
theorem updated_played {d : β} {t : Tick} {p : Phase} (plain : Timed.Plain b)
    (same : pristine d = pristine b) (precise : Precise b (ticks ++ [t]))
    (here : Timed.At p d) (since : elapsed ticks = p.elapsed) :
    ∃ δ : Nat, elapsed (ticks ++ [t]) = (p.elapsed + δ : Nat) ∧
      Updated b p δ t.ctx.settings (Behaves.update t.step t.ctx d) := by
  obtain ⟨δ, known, later⟩ := precise.step since
  have exact : Exact t.ctx.settings (Timed.spans (0 : Nat) d) (0 + p.elapsed : Nat)
      (0 + (p.elapsed + δ) : Nat) := by
    rw [Nat.zero_add, Nat.zero_add, Nat.cast_zero, Timed.spans_congr same, ← since, ← later]
    exact precise.exact ticks t List.prefix_rfl
  exact ⟨δ, later, (Timed.updated (plain.congr same) here known exact).congr same⟩

/-- After some ticks a tree stands where its schedule says. -/
theorem at_played (plain : Timed.Plain b) (ctx : Context) (precise : Precise b ticks) :
    ∃ p : Phase, Timed.At p (played (Behaves.enter ctx b).1 ticks) ∧
      elapsed ticks = p.elapsed ∧ (p = .entered ↔ ticks = []) := by
  induction ticks using List.reverseRecOn with
  | nil => exact ⟨.entered, Punctual.at_enter ctx plain, rfl, iff_of_true rfl rfl⟩
  | append_singleton ticks t ih =>
    obtain ⟨p, here, since, -⟩ := ih precise.of_append
    have same := (pristine_played _ ticks).trans (Behaves.pristine_enter ctx b)
    obtain ⟨δ, later, updated⟩ := updated_played plain same precise here since
    rw [played_append]
    exact ⟨.after (p.elapsed + δ), updated.onTime.here, later, iff_of_false (by simp) (by simp)⟩

/-- The last tick decides whether the tree can stop, and leaves the surplus over if it could not
stop before. -/
theorem timing_played {t : Tick} (plain : Timed.Plain b) (ctx : Context)
    (precise : Precise b (ticks ++ [t])) :
    let before := played (Behaves.enter ctx b).1 ticks
    let ran := Behaves.update t.step t.ctx before
    (canStop ran.2.1 = true ↔ Timed.length b ≤ elapsed (ticks ++ [t])) ∧
      ((ticks ≠ [] → canStop before = false) →
        quanta? ran.1 = some (elapsed (ticks ++ [t]) - Timed.length b)) := by
  intro before ran
  obtain ⟨p, here, since, first⟩ := at_played plain ctx precise.of_append
  have same := (pristine_played _ ticks).trans (Behaves.pristine_enter ctx b)
  obtain ⟨δ, later, updated⟩ := updated_played plain same precise here since
  rw [later]
  refine ⟨updated.stops, fun unfinished => updated.onTime.left ?_⟩
  cases p with
  | entered => trivial
  | after e =>
    have going := unfinished fun none => by simpa using first.mpr none
    have through := Punctual.canStop_iff (plain.congr same) here
    rw [Timed.length_congr same] at through
    exact not_le.mp fun passed => Bool.eq_false_iff.mp going (through.mpr passed)

/-- The tick in which an exit behavior is run to completion. -/
def exitTick (ctx : Context) (b : β) : Tick :=
  ⟨ctx.settings.exitStep, (Behaves.enter ctx b).2⟩

/-- A tree that is run in one long update gets through. -/
theorem canStop_complete [Behaves.Quiet β] (plain : Timed.Plain b) (ctx : Context)
    (precise : Precise b [exitTick ctx b]) (long : Timed.length b ≤ elapsed [exitTick ctx b]) :
    canStop (State.complete ctx b).1 = true := by
  have settings := Context.settings_eq_of_mute (Behaves.mute_enter ctx b)
  have whole : State.complete ctx b =
      let ran := Behaves.update (exitTick ctx b).step (exitTick ctx b).ctx (Behaves.enter ctx b).1
      Behaves.deactivate ran.2.2 ran.2.1 := by
    simp only [State.complete, settings, exitTick]
  have same := (Lasting.pristine_update (exitTick ctx b).step (exitTick ctx b).ctx
    (Behaves.enter ctx b).1).trans (Behaves.pristine_enter ctx b)
  rw [whole, Punctual.canStop_deactivate _ (plain.congr same)]
  have alone : Precise b ([] ++ [exitTick ctx b]) := precise
  exact (timing_played plain ctx alone).1.mpr long

/-! ## A drill of two seconds -/

def aSecond : WaitConfig where
  duration := .literal 1

theorem length_aSecond : aSecond.length = (one : ℕ∞) := by
  rw [WaitConfig.length, aSecond, Param.literal, quanta_one]
  rfl

def drillPair : Parallel (Behavior 1) :=
  let cry : Node (Behavior 0) := { logic := .task (.deed (.publishEvent "Ready" [])) }
  let wait : Node (Behavior 0) := { logic := .task (.wait aSecond default) }
  { lanes := [⟨cry, false⟩, ⟨wait, false⟩] }

def drill : Behavior 3 :=
  let wait : Node (Behavior 1) := { logic := .task (.wait aSecond default) }
  let mark : Node (Behavior 1) := { logic := .task (.deed (.setVar "ready" (.bool true))) }
  let pair : Node (Behavior 1) := { logic := .parallel drillPair }
  let root : Node (Behavior 2) := { logic := .sequence { children := [wait, mark, pair] } }
  root

def shortTick : Tick :=
  ⟨1, emptyStage⟩

def longTick : Tick :=
  ⟨2, emptyStage⟩

theorem plain_drill : Timed.Plain drill := by
  have positive : (0 : Float32) ≤ 1 := by decide
  have pair : ∀ l ∈ drillPair.lanes, Timed.Plain l.child :=
    List.forall_mem_cons.mpr ⟨trivial, List.forall_mem_singleton.mpr ⟨rfl, positive⟩⟩
  exact List.forall_mem_cons.mpr ⟨⟨rfl, positive⟩,
    List.forall_mem_cons.mpr ⟨trivial, List.forall_mem_singleton.mpr pair⟩⟩

theorem length_drill : Timed.length drill = (2 * one : Nat) := by
  have length : Timed.length drill =
      aSecond.length + (0 + (max 0 (max aSecond.length 0) + 0)) := rfl
  rw [length, length_aSecond, max_eq_left zero_le, max_eq_right zero_le, zero_add, add_zero,
    ← Nat.cast_add, Nat.two_mul]

theorem size_shortTick : shortTick.size = (one : ℕ∞) := by
  rw [Tick.size, shortTick, quanta_one]
  rfl

theorem size_longTick : longTick.size = (2 * one : Nat) := by
  rw [Tick.size, longTick, quanta_two]
  rfl

theorem elapsed_drill : elapsed [shortTick, longTick] = (3 * one : Nat) := by
  have sum : elapsed [shortTick, longTick] = shortTick.size + (longTick.size + 0) := rfl
  have three : 3 * one = one + 2 * one := by ring
  rw [sum, size_shortTick, size_longTick, add_zero, three, Nat.cast_add]

theorem whole_drill : Whole drill [shortTick, longTick] where
  nonneg := List.forall_mem_cons.mpr ⟨by decide, List.forall_mem_singleton.mpr (by decide)⟩
  durations := by
    have spans : Timed.spans 0 drill =
      [⟨0, aSecond.length⟩, ⟨0 + aSecond.length + 0, aSecond.length⟩] := rfl
    have whole : IsWhole aSecond.length := ⟨1, by rw [length_aSecond, Nat.one_mul]⟩
    rw [spans]
    exact List.forall_mem_cons.mpr ⟨whole, List.forall_mem_singleton.mpr whole⟩
  sizes := List.forall_mem_cons.mpr ⟨⟨1, by rw [size_shortTick, Nat.one_mul]⟩,
    List.forall_mem_singleton.mpr ⟨2, size_longTick⟩⟩
  length_lt := by
    rw [length_drill]
    exact Nat.cast_lt.mpr (Nat.mul_lt_mul_of_pos_right (by decide) (Nat.two_pow_pos 149))
  elapsed_lt := by
    rw [elapsed_drill]
    exact Nat.cast_lt.mpr (Nat.mul_lt_mul_of_pos_right (by decide) (Nat.two_pow_pos 149))
  tolerance := List.forall_mem_cons.mpr ⟨by decide, List.forall_mem_singleton.mpr (by decide)⟩

/-! ## Ticks -/

/-- Timing does not depend on how time is cut into ticks: a tree can stop just when the ticks add
up to its length, and the update after which it can stop for the first time returns the surplus.
Whole numbers are precise, and one long update takes the tree to its end. -/
theorem timing_ignores_ticks {height : Nat} {b : Behavior height} (plain : Timed.Plain b)
    (ctx : Context) :
    (∀ ticks last, Precise b (ticks ++ [last]) →
      let entered := (Behaves.enter ctx b).1
      let ran := Behaves.update last.step last.ctx (played entered ticks)
      (canStop ran.2.1 = true ↔ Timed.length b ≤ elapsed (ticks ++ [last])) ∧
        ((∀ earlier, earlier ≠ [] → earlier <+: ticks → canStop (played entered earlier) = false) →
          canStop ran.2.1 = true →
            quanta? ran.1 = some (elapsed (ticks ++ [last]) - Timed.length b))) ∧
      (∀ ticks, Whole b ticks → Precise b ticks) ∧
      (Precise b [exitTick ctx b] → Timed.length b ≤ elapsed [exitTick ctx b] →
        canStop (State.complete ctx b).1 = true) := by
  refine ⟨fun ticks last precise => ?_, fun ticks whole => whole.precise, fun precise long =>
    canStop_complete plain ctx precise long⟩
  obtain ⟨stops, surplus⟩ := timing_played plain ctx precise
  exact ⟨stops, fun unfinished _ => surplus fun some => unfinished ticks some List.prefix_rfl⟩

/-- The drill takes two seconds, so the second of two ticks of one and two seconds is the first
after which it can stop, and leaves one second over. -/
theorem timing_ignores_ticks_of_drill :
    let entered := (Behaves.enter emptyStage drill).1
    let ran := Behaves.update longTick.step longTick.ctx (played entered [shortTick])
    canStop (played entered [shortTick]) = false ∧ canStop ran.2.1 = true ∧
      quanta? ran.1 = some (one : ℕ∞) := by
  obtain ⟨timing, precise, -⟩ := timing_ignores_ticks plain_drill emptyStage
  have exact : Precise drill ([shortTick] ++ [longTick]) := precise _ whole_drill
  have soon := (timing [] shortTick exact.of_append).1
  obtain ⟨stops, surplus⟩ := timing [shortTick] longTick exact
  have short : elapsed ([] ++ [shortTick]) = (one : ℕ∞) := by
    rw [elapsed_append, size_shortTick]
    exact zero_add _
  have total : elapsed ([shortTick] ++ [longTick]) = (3 * one : Nat) := elapsed_drill
  have going : canStop (played (Behaves.enter emptyStage drill).1 [shortTick]) = false := by
    have long : ¬ Timed.length drill ≤ elapsed ([] ++ [shortTick]) := by
      rw [short, length_drill, Nat.cast_le]
      exact Nat.not_le.mpr (lt_two_mul_self (Nat.two_pow_pos 149))
    have still := Bool.eq_false_iff.mpr fun stop => long (soon.mp stop)
    rwa [← played_append, List.nil_append] at still
  have through := stops.mpr (by
    rw [total, length_drill]
    exact Nat.cast_le.mpr (Nat.mul_le_mul_right one (by decide)))
  refine ⟨going, through, ?_⟩
  have left := surplus (fun earlier some before => ?_) through
  · rwa [total, length_drill, ← ENat.natCast_sub, ← Nat.sub_mul, Nat.one_mul] at left
  · rcases List.prefix_cons_iff.mp before with none | ⟨rest, rfl, none⟩
    · exact absurd none some
    · rw [List.prefix_nil.mp none]
      exact going

end SkillScript
