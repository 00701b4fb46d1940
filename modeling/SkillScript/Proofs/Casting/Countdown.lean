import SkillScript.Proofs.Casting.Cooling
import SkillScript.Proofs.Number.Difference
/-!
# Cooldowns run down

A cooldown can be given any single as its duration and can be ticked with any single:
negative, infinite, or no number at all. Its duration and what remains of it are
numbers all the same, and what remains lies between zero and the duration. Ticks only
take away. What is not cooling stays so until the next start, and one tick by the
duration or more ends the cooldown, even where both are infinite and their
difference is no number.
-/
set_option autoImplicit false
namespace SkillScript

namespace Cooldown

inductive Act where
  | start
  | tick (step : Float32)
  | clear
deriving DecidableEq, Repr

def act (cd : Cooldown) : Act → Cooldown
  | .start => cd.start
  | .tick step => cd.tick step
  | .clear => cd.clear

def run (cd : Cooldown) (acts : List Act) : Cooldown :=
  acts.foldl act cd

structure Proper (cd : Cooldown) : Prop where
  duration : Number.Proper cd.duration
  remaining : Number.Proper cd.remaining
  within : cd.remaining ≤ cd.duration

variable {cd : Cooldown}

namespace Proper

theorem ofDuration (duration : Float32) : (Cooldown.ofDuration duration).Proper where
  duration := Number.proper_atLeastZero duration
  remaining := Number.proper_zero
  within := (Number.proper_atLeastZero duration).zero_le

theorem start (proper : cd.Proper) : cd.start.Proper :=
  ⟨proper.duration, proper.duration, proper.duration.le_refl⟩

theorem remaining_tick_le (proper : cd.Proper) (step : Float32) :
    (cd.tick step).remaining ≤ cd.remaining :=
  proper.remaining.atLeastZero_sub_le (Number.proper_atLeastZero step)

theorem tick (proper : cd.Proper) (step : Float32) : (cd.tick step).Proper := by
  have counted : Number.Proper (cd.tick step).remaining := Number.proper_atLeastZero _
  exact ⟨proper.duration, counted, counted.le_trans (proper.remaining_tick_le step) proper.within⟩

theorem clear (proper : cd.Proper) : cd.clear.Proper :=
  ⟨proper.duration, Number.proper_zero, proper.duration.zero_le⟩

theorem act (proper : cd.Proper) (a : Act) : (cd.act a).Proper := by
  cases a with
  | start => exact proper.start
  | tick step => exact proper.tick step
  | clear => exact proper.clear

theorem run (proper : cd.Proper) (acts : List Act) : (cd.run acts).Proper := by
  induction acts generalizing cd with
  | nil => exact proper
  | cons a rest ih => exact ih (proper.act a)

theorem beq_zero (proper : cd.Proper) (ready : cd.isCooling = false) :
    (cd.remaining == 0) = true := by
  rw [isCooling, decide_eq_false_iff_not] at ready
  exact proper.remaining.beq_zero ready

/-- A tick that is no shorter than what remains ends the cooldown. -/
theorem isCooling_tick (proper : cd.Proper) {step : Float32} (enough : cd.remaining ≤ step) :
    (cd.tick step).isCooling = false := by
  have forward : Number.atLeastZero step = step :=
    (proper.remaining.of_le enough).atLeastZero_eq
  rw [isCooling, decide_eq_false_iff_not, Cooldown.tick, forward]
  exact Number.not_zero_lt_atLeastZero_sub proper.remaining enough

end Proper

theorem duration_act (cd : Cooldown) (a : Act) : (cd.act a).duration = cd.duration := by
  cases a <;> rfl

theorem duration_run (cd : Cooldown) (acts : List Act) : (cd.run acts).duration = cd.duration := by
  induction acts generalizing cd with
  | nil => rfl
  | cons a rest ih => exact (ih (cd.act a)).trans (cd.duration_act a)

theorem isCooling_act {a : Act} (ready : cd.isCooling = false) (unstarted : a ≠ .start) :
    (cd.act a).isCooling = false := by
  cases a with
  | start => exact absurd rfl unstarted
  | tick step =>
    rw [Bool.eq_false_iff]
    intro cooling
    rw [cooling_of_tick cooling] at ready
    cases ready
  | clear =>
    have zero : ¬ (0 : Float32) < 0 := by decide
    exact decide_eq_false zero

theorem isCooling_run {acts : List Act} (ready : cd.isCooling = false)
    (unstarted : .start ∉ acts) : (cd.run acts).isCooling = false := by
  induction acts generalizing cd with
  | nil => exact ready
  | cons a rest ih =>
    obtain ⟨first, later⟩ := not_or.mp (mt List.mem_cons.mpr unstarted)
    exact ih (isCooling_act ready fun same => first same.symm) later

end Cooldown

/-- Whatever a cooldown was given as its duration and whatever was done with it, duration and rest
are numbers with the rest between zero and the duration, and ticks only take away. A cooldown that
is not cooling stays so until it is started, and one that is started ends with one tick by its
duration or more. -/
theorem cooldowns_run_down (duration : Float32) (acts : List Cooldown.Act) :
    let cd := (Cooldown.ofDuration duration).run acts
    (cd.duration.isNaN = false ∧ cd.remaining.isNaN = false ∧
      0 ≤ cd.remaining ∧ cd.remaining ≤ cd.duration) ∧
    (∀ step, (cd.tick step).remaining ≤ cd.remaining) ∧
    (cd.isCooling = false → ∀ later, .start ∉ later → (cd.run later).isCooling = false) ∧
    ∀ step, cd.duration ≤ step ∨ duration ≤ step ∨ step.isInf = true ∧ 0 < step →
      (cd.start.tick step).isCooling = false := by
  intro cd
  have proper : cd.Proper := (Cooldown.Proper.ofDuration duration).run acts
  refine ⟨⟨proper.duration.number, proper.remaining.number, proper.remaining.zero_le,
    proper.within⟩, proper.remaining_tick_le, fun ready _ => Cooldown.isCooling_run ready, ?_⟩
  intro step enough
  have same : cd.duration = Number.atLeastZero duration := Cooldown.duration_run _ acts
  rcases enough with enough | enough | ⟨infinite, pos⟩
  · exact proper.start.isCooling_tick enough
  · -- A duration that does not count as it was given counts as zero, and zero never cools.
    rcases Number.atLeastZero_cases duration with zero | ⟨given, -⟩
    · refine Cooldown.isCooling_act (a := .tick step) ?_ nofun
      rw [Cooldown.isCooling_start, same, zero]
      decide
    · refine proper.start.isCooling_tick ?_
      show cd.duration ≤ step
      rwa [same, given]
  · exact proper.start.isCooling_tick (proper.duration.le_of_isInf infinite pos)

def endless : Float32 :=
  1 / 0

theorem cooldowns_run_down_of_endless :
    let cd := (Cooldown.ofDuration endless).run [.start, .tick 5, .clear]
    cd.isCooling = false ∧ .start ∉ [Cooldown.Act.tick (-1)] ∧
      (cd.run [.tick (-1)]).isCooling = false ∧
      endless.isInf = true ∧ 0 < endless ∧ cd.start.isCooling = true ∧
      (cd.start.tick endless).isCooling = false := by
  have down := cooldowns_run_down endless [.start, .tick 5, .clear]
  have ready : ((Cooldown.ofDuration endless).run [.start, .tick 5, .clear]).isCooling = false := by
    decide
  have unstarted : Cooldown.Act.start ∉ [Cooldown.Act.tick (-1)] := by decide
  have infinite : endless.isInf = true ∧ 0 < endless := by decide
  exact ⟨ready, unstarted, down.2.2.1 ready _ unstarted, infinite.1, infinite.2, by decide,
    down.2.2.2 endless (.inr (.inr infinite))⟩

end SkillScript
