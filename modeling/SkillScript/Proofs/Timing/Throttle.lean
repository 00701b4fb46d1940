import SkillScript.Proofs.History
import SkillScript.Proofs.Number.Difference
import SkillScript.Proofs.Timing.Visit
import SkillScript.Proofs.Tree.Quiet
/-!
# Throttled transitions

A transition with an interval asks its condition at most once per interval of time, and
it does not matter how the time is cut into checks: a check asks the condition just if
the time since it was asked last, or since the reset, comes up to the interval with it.
The time that goes beyond is not carried over. The condition is updated by every check,
whether it is asked or not.
-/
set_option autoImplicit false
namespace SkillScript

open Number

/-! ## The interval -/

namespace Transition

variable {t : Transition} {σ : Settings} {step : Float32} {left δ r : ℕ∞}

/-- While something is left of the interval, the condition is not due. -/
theorem wait_of_left (throttled : 0 < t.period)
    (remaining : quanta? (t.cooldown - step) = some r) (some : 0 < r)
    (told : σ.isZero (t.cooldown - step) = false) :
    t.wait σ step = (false, { t with cooldown := t.cooldown - step }) := by
  have positive : 0 < t.cooldown - step := (lt_iff quanta_zero remaining).mpr some
  simp [wait, throttled, positive, told]

/-- When the step takes what is left, the condition is due, and the interval starts anew. -/
theorem wait_of_le (throttled : 0 < t.period) (counting : quanta? t.cooldown = some left)
    (known : quanta? step = some δ) (due : left ≤ δ) :
    t.wait σ step = (true, { t with cooldown := t.period }) := by
  have gone := not_zero_lt_sub_of_le counting known due
  simp [wait, throttled, gone]

theorem wait_of_unthrottled (unthrottled : ¬ 0 < t.period) : t.wait σ step = (true, t) := by
  simp [wait, unthrottled]

theorem wait_condition (c : Condition) :
    ({ t with condition := c } : Transition).wait σ step =
      ((t.wait σ step).1, { (t.wait σ step).2 with condition := c }) := by
  unfold wait
  dsimp only
  split
  · split <;> rfl
  · rfl

/-- The interval is all that waiting changes. -/
theorem wait_eq : (t.wait σ step).2 = { t with cooldown := (t.wait σ step).2.cooldown } := by
  unfold wait
  dsimp only
  split
  · split <;> rfl
  · rfl

/-- What a check of a transition that is awake does: the condition is updated with all of the
step, and asked if it is due. -/
theorem check_of_active (active : t.active = true) (step : Float32) (ctx : Context) :
    t.check step ctx =
      let updated := t.condition.update (atLeastZero step) ctx
      let waited := t.wait ctx.settings (atLeastZero step)
      if waited.1 then
        let asked := updated.1.check updated.2.toScope
        (if asked.1 then t.onTrue else t.onFalse,
          { t with
            condition := asked.2, cooldown := waited.2.cooldown, evaluations := t.evaluations + 1 },
          updated.2)
      else (none, { t with condition := updated.1, cooldown := waited.2.cooldown }, updated.2) := by
  have scope := Context.toScope_eq_of_pardon
    (Condition.pardon_update (atLeastZero step) ctx t.condition)
  have waiting : (t.wait ctx.settings (atLeastZero step)).2 = _ := wait_eq
  rw [check_eq, if_pos active]
  simp only [wait_condition, scope]
  rw [waiting]
  split <;> rfl

end Transition

/-! ## Transitions in the hands of an owner -/

namespace Handle

def transition? : Handle → Option Transition
  | live _ (.transition t) => some t
  | _ => none

def Honored (h : Handle) : Call → Prop
  | .check _ => h.status = .active
  | _ => False

def Asks (h : Handle) (ctx : Context) (c : Call) : Prop :=
  h.remains.evaluations < (h.call ctx c).1.remains.evaluations

instance (h : Handle) (ctx : Context) (c : Call) : Decidable (h.Asks ctx c) :=
  Nat.decLt _ _

/-- The time that a call lets pass, in quanta. A step that is negative counts as zero. -/
def lapse (h : Handle) : Call → ℕ∞
  | .check step => if h.status = .active then (quanta? (atLeastZero step)).getD 0 else 0
  | _ => 0

def lapsed (h : Handle) : List (Context × Call) → ℕ∞
  | [] => 0
  | (ctx, c) :: rest => h.lapse c + (h.call ctx c).1.lapsed rest

/-- The time since the condition was asked last, if some time had passed before the calls. -/
def sinceFrom (before : ℕ∞) (h : Handle) : List (Context × Call) → ℕ∞
  | [] => before
  | (ctx, c) :: rest =>
    (h.call ctx c).1.sinceFrom (if h.Asks ctx c then 0 else before + h.lapse c) rest

/-- The time since one of the calls asked the condition last, or since the first of them. -/
def since (h : Handle) (calls : List (Context × Call)) : ℕ∞ :=
  h.sinceFrom 0 calls

/-- While a check leaves something of the interval, it subtracts exactly, and what is left is told
from zero. -/
def ExactCheck (h : Handle) (ctx : Context) : Call → Prop
  | .check step =>
    ∀ t ∈ h.transition?, ∀ left, t.active = true → quanta? t.cooldown = some left →
      h.lapse (.check step) < left →
        quanta? (t.cooldown - atLeastZero step) = some (left - h.lapse (.check step)) ∧
          ctx.settings.isZero (t.cooldown - atLeastZero step) = false
  | _ => True

variable {height : Nat} {t t' : Transition} {ctx : Context} {c : Call} {step : Float32}
  {calls later : List (Context × Call)} {h entered : Handle} {before I left : ℕ∞}

theorem honored_iff : (live height (.transition t)).Honored (.check step) ↔ t.active = true := by
  cases active : t.active <;> simp [Honored, status, AnyNode.isActive, active]

theorem lapse_check (height : Nat) (active : t.active = true) (step : Float32) :
    quanta? (atLeastZero step) = some ((live height (.transition t)).lapse (.check step)) := by
  obtain ⟨δ, known⟩ := (proper_atLeastZero step).quanta
  simp [lapse, status, AnyNode.isActive, active, known]

/-- A call that is neither an honored check nor starts over lets no time pass. -/
theorem call_of_not_honored (ctx : Context) (continues : c.restarts = false)
    (idle : ¬ (live height (.transition t)).Honored c) :
    (live height (.transition t)).lapse c = 0 ∧ ∃ active condition,
      ((live height (.transition t)).call ctx c).1 =
        live height (.transition { t with active := active, condition := condition }) := by
  obtain ⟨active, condition, onTrue, onFalse, interval, period, cooldown, evaluations⟩ := t
  cases c with
  | check step =>
    rw [honored_iff, Bool.not_eq_true] at idle
    obtain rfl : active = false := idle
    exact ⟨rfl, _, _, rfl⟩
  | reset => cases continues
  | enter => cases continues
  | leave => exact ⟨rfl, _, _, rfl⟩
  | update step => exact ⟨rfl, _, _, rfl⟩
  | _ => cases active <;> exact ⟨rfl, _, _, rfl⟩

theorem call_check (height : Nat) (active : t.active = true) (step : Float32) (ctx : Context) :
    ∃ condition, ((live height (.transition t)).call ctx (.check step)).1 =
      live height (.transition
        { t with
          condition := condition
          cooldown := (t.wait ctx.settings (atLeastZero step)).2.cooldown
          evaluations :=
            t.evaluations + (t.wait ctx.settings (atLeastZero step)).1.toNat }) := by
  simp only [call, check, Transition.check_of_active active]
  cases (t.wait ctx.settings (atLeastZero step)).1 with
  | true => exact ⟨_, rfl⟩
  | false => exact ⟨_, rfl⟩

theorem asks_check (height : Nat) (active : t.active = true) (step : Float32) (ctx : Context) :
    (live height (.transition t)).Asks ctx (.check step) ↔
      (t.wait ctx.settings (atLeastZero step)).1 = true := by
  obtain ⟨condition, same⟩ := call_check height active step ctx
  rw [Asks, same]
  cases due : (t.wait ctx.settings (atLeastZero step)).1 <;> simp [remains, AnyNode.remains]

/-- Only an honored check asks the condition. -/
theorem Asks.honored (asks : (live height (.transition t)).Asks ctx c)
    (continues : c.restarts = false) : (live height (.transition t)).Honored c := by
  by_contra idle
  obtain ⟨-, active, condition, same⟩ := call_of_not_honored ctx continues idle
  rw [Asks, same] at asks
  exact absurd asks (Nat.lt_irrefl _)

/-! ## Time since the last question -/

theorem sinceFrom_snoc (before : ℕ∞) (h : Handle) (calls : List (Context × Call)) (ctx : Context)
    (c : Call) : h.sinceFrom before (calls ++ [(ctx, c)]) =
      if (h.run calls).Asks ctx c then 0
      else h.sinceFrom before calls + (h.run calls).lapse c := by
  induction calls generalizing before h with
  | nil => rfl
  | cons p rest ih => exact ih _ _

theorem since_snoc (h : Handle) (calls : List (Context × Call)) (ctx : Context) (c : Call) :
    h.since (calls ++ [(ctx, c)]) =
      if (h.run calls).Asks ctx c then 0 else h.since calls + (h.run calls).lapse c :=
  sinceFrom_snoc 0 h calls ctx c

theorem lapsed_snoc (h : Handle) (calls : List (Context × Call)) (ctx : Context) (c : Call) :
    h.lapsed (calls ++ [(ctx, c)]) = h.lapsed calls + (h.run calls).lapse c := by
  induction calls generalizing h with
  | nil => simp [lapsed, run]
  | cons p rest ih => simp only [List.cons_append, lapsed, run, ih, add_assoc]

theorem sinceFrom_le (before : ℕ∞) (h : Handle) (calls : List (Context × Call)) :
    h.sinceFrom before calls ≤ before + h.lapsed calls := by
  induction calls generalizing before h with
  | nil => exact le_self_add
  | cons p rest ih =>
    refine (ih _ _).trans ?_
    rw [lapsed, ← add_assoc]
    gcongr
    split
    · exact zero_le
    · exact le_rfl

theorem sinceFrom_append (before : ℕ∞) (h : Handle) (calls later : List (Context × Call)) :
    h.sinceFrom before (calls ++ later) = (h.run calls).sinceFrom (h.sinceFrom before calls) later := by
  induction calls generalizing before h with
  | nil => rfl
  | cons p rest ih => exact ih _ _

/-! ## Counting down -/

/-- Where a throttled transition is after some calls: what is left of the interval is what the
time since the last question has not used up. -/
structure Paces (I : ℕ∞) (entered : Handle) (calls : List (Context × Call)) (height : Nat)
    (t : Transition) : Prop where
  held : entered.run calls = live height (.transition t)
  period : quanta? t.period = some I
  within : entered.since calls < I
  cooldown : quanta? t.cooldown = some (I - entered.since calls)

namespace Paces

variable (paces : Paces I entered calls height t)
include paces

theorem throttled : 0 < t.period :=
  (lt_iff quanta_zero paces.period).mpr (zero_le.trans_lt paces.within)

/-- A check that does not use up the interval shortens it. -/
theorem wait_of_lt (active : t.active = true)
    (exact : (entered.run calls).ExactCheck ctx (.check step))
    (less : entered.since calls + (entered.run calls).lapse (.check step) < I) :
    (t.wait ctx.settings (atLeastZero step)).1 = false ∧
      quanta? (t.wait ctx.settings (atLeastZero step)).2.cooldown =
        some (I - (entered.since calls + (entered.run calls).lapse (.check step))) := by
  rw [paces.held] at exact less ⊢
  have short := lt_tsub_iff_left.mpr less
  obtain ⟨remaining, told⟩ := exact t rfl _ active paces.cooldown short
  rw [Transition.wait_of_left paces.throttled remaining (tsub_pos_of_lt short) told,
    ← tsub_add_eq_tsub_tsub] at *
  exact ⟨rfl, remaining⟩

/-- A check that uses up the interval starts it anew. -/
theorem wait_of_le (active : t.active = true)
    (due : I ≤ entered.since calls + (entered.run calls).lapse (.check step)) :
    t.wait ctx.settings (atLeastZero step) = (true, { t with cooldown := t.period }) := by
  rw [paces.held] at due
  exact Transition.wait_of_le paces.throttled paces.cooldown (lapse_check height active step)
    (tsub_le_iff_left.mpr due)

theorem asks_iff (exact : (entered.run calls).ExactCheck ctx c) (continues : c.restarts = false) :
    (entered.run calls).Asks ctx c ↔ I ≤ entered.since calls + (entered.run calls).lapse c := by
  by_cases honored : (live height (.transition t)).Honored c
  · cases c with
    | check step =>
      have active := honored_iff.mp honored
      rw [← not_lt]
      constructor
      · intro asks less
        obtain ⟨waits, -⟩ := paces.wait_of_lt active exact less
        rw [paces.held, asks_check height active step ctx, waits] at asks
        cases asks
      · intro due
        rw [paces.held, asks_check height active step ctx, paces.wait_of_le active (not_lt.mp due)]
    | _ => exact honored.elim
  · rw [paces.held, (call_of_not_honored ctx continues honored).1, add_zero]
    exact iff_of_false (fun asks => honored (asks.honored continues)) paces.within.not_ge

theorem call (exact : (entered.run calls).ExactCheck ctx c) (continues : c.restarts = false) :
    ∃ t', Paces I entered (calls ++ [(ctx, c)]) height t' := by
  have since := since_snoc entered calls ctx c
  have held := run_snoc entered calls ctx c
  rw [paces.held] at held
  by_cases honored : (live height (.transition t)).Honored c
  · cases c with
    | check step =>
      have active := honored_iff.mp honored
      have asks := paces.asks_iff exact continues
      obtain ⟨condition, same⟩ := call_check height active step ctx
      rw [same] at held
      have counted : entered.since (calls ++ [(ctx, .check step)]) < I ∧
          quanta? (t.wait ctx.settings (atLeastZero step)).2.cooldown =
            some (I - entered.since (calls ++ [(ctx, .check step)])) := by
        rw [since]
        by_cases due : I ≤ entered.since calls + (entered.run calls).lapse (.check step)
        · rw [if_pos (asks.mpr due), paces.wait_of_le active due, tsub_zero]
          exact ⟨zero_le.trans_lt paces.within, paces.period⟩
        · rw [if_neg (mt asks.mp due)]
          exact ⟨not_le.mp due, (paces.wait_of_lt active exact (not_le.mp due)).2⟩
      exact ⟨_, held, paces.period, counted.1, counted.2⟩
    | _ => exact honored.elim
  · obtain ⟨none, active, condition, same⟩ := call_of_not_honored ctx continues honored
    have silent : ¬ (live height (.transition t)).Asks ctx c := fun asks =>
      honored (asks.honored continues)
    rw [same] at held
    rw [paces.held, if_neg silent, none, add_zero] at since
    exact ⟨_, held, paces.period, since ▸ paces.within, since ▸ paces.cooldown⟩

end Paces

/-- A transition that was reset has all of its interval left. -/
theorem paces_reset (height : Nat) (t : Transition) (ctx₀ : Context)
    (known : quanta? (Transition.periodOf t.interval ctx₀.vars) = some I) (throttled : 0 < I) :
    Paces I ((live height (.transition t)).reset ctx₀).1 [] height (t.reset ctx₀.toScope) where
  held := rfl
  period := known
  within := throttled
  cooldown := by
    rw [since, sinceFrom, tsub_zero]
    exact known

theorem Paces.run (start : Paces I entered [] height t) (continues : Continues calls)
    (exact : Always ExactCheck entered calls) : ∃ t', Paces I entered calls height t' := by
  induction calls using List.reverseRecOn with
  | nil => exact ⟨t, start⟩
  | append_singleton calls last ih =>
    obtain ⟨before, here⟩ := always_snoc.mp exact
    obtain ⟨t', paces⟩ := ih continues.of_append before
    exact paces.call here continues.last

/-! ## Whole numbers -/

/-- A call with a step of whole seconds, under a tolerance below a second. -/
def WholeCheck (h : Handle) (ctx : Context) (c : Call) : Prop :=
  IsWhole (h.lapse c) ∧ ctx.settings.timeEpsilon < 1

theorem isWhole_lapse (h : Handle) (c : Call)
    (whole : ∀ step, c = .check step → IsWhole ((quanta? (atLeastZero step)).getD 0)) :
    IsWhole (h.lapse c) := by
  cases c with
  | check step =>
    rw [lapse]
    split
    · exact whole step rfl
    · exact IsWhole.zero
  | _ => exact IsWhole.zero

theorem isWhole_since (whole : Always WholeCheck entered calls) : IsWhole (entered.since calls) := by
  induction calls using List.reverseRecOn with
  | nil => exact IsWhole.zero
  | append_singleton calls last ih =>
    obtain ⟨before, here⟩ := always_snoc.mp whole
    rw [since_snoc]
    split
    · exact IsWhole.zero
    · exact (ih before).add here.1

/-- Checks with whole steps are exact if the interval is whole and has at most 24 bits. -/
theorem Paces.exactCheck (paces : Paces I entered calls height t) (few : IsWhole I)
    (small : I < wholes) (before : Always WholeCheck entered calls)
    (here : WholeCheck (entered.run calls) ctx c) : (entered.run calls).ExactCheck ctx c := by
  cases c with
  | check step =>
    intro t' held left active counting less
    rw [paces.held] at held
    cases held
    cases paces.cooldown.symm.trans counting
    have whole := (few.sub (isWhole_since before)).sub here.1
    have single : IsSingle (I - entered.since calls - (entered.run calls).lapse (.check step)) :=
      whole.isSingle ((tsub_le_self.trans tsub_le_self).trans_lt small)
    have known := lapse_check height active step
    rw [← paces.held] at known
    have remaining := quanta_sub counting known less.le (less.trans_le le_top).ne single
    exact ⟨remaining, isZero_eq_false here.2 remaining (whole.one_le (tsub_pos_of_lt less))⟩
  | _ => trivial

theorem Paces.always_exactCheck (start : Paces I entered [] height t) (few : IsWhole I)
    (small : I < wholes) (continues : Continues calls) (whole : Always WholeCheck entered calls) :
    Always ExactCheck entered calls := by
  induction calls using List.reverseRecOn with
  | nil => exact always_nil
  | append_singleton calls last ih =>
    obtain ⟨before, here⟩ := always_snoc.mp whole
    have exact := ih continues.of_append before
    obtain ⟨t', paces⟩ := start.run continues.of_append exact
    exact always_snoc.mpr ⟨exact, paces.exactCheck few small before here⟩

/-! ## Questions -/

/-- What a call of a transition does to its condition: a check of one that is awake updates it with
all of the step, and asks it at most once. -/
structure Attends (h : Handle) (ctx : Context) (c : Call) : Prop where
  once : (h.call ctx c).1.remains.evaluations =
    h.remains.evaluations + if h.Asks ctx c then 1 else 0
  updates : ∀ step, c = .check step → h.status = .active →
    ∃ height t t', h = live height (.transition t) ∧
      let updated := t.condition.update (atLeastZero step) ctx
      let asked := updated.1.check updated.2.toScope
      (h.Asks ctx c → t'.condition = asked.2 ∧
        h.check step ctx = (some (.target (if asked.1 then t.onTrue else t.onFalse)),
          live height (.transition t'), updated.2)) ∧
      (¬ h.Asks ctx c → t'.condition = updated.1 ∧
        h.check step ctx = (some (.target none), live height (.transition t'), updated.2))

structure Throttles (I : ℕ∞) (entered : Handle) (calls : List (Context × Call)) : Prop where
  /-- A call asks the condition just if the time since the last question comes up to the interval
  with it for the first time. -/
  due : ∀ earlier ctx c later, calls = earlier ++ (ctx, c) :: later →
    entered.since earlier < I ∧
      ((entered.run earlier).Asks ctx c ↔ I ≤ entered.since earlier + (entered.run earlier).lapse c)
  /-- All the intervals that were asked for have passed. -/
  few : ∀ earlier later, calls = earlier ++ later →
    ∃ k : Nat, (entered.run earlier).remains.evaluations = entered.remains.evaluations + k ∧
      k * I ≤ entered.lapsed earlier
  /-- Two questions are at least an interval apart. -/
  apart : ∀ earlier ctx₁ c₁ between ctx₂ c₂ later,
    calls = earlier ++ (ctx₁, c₁) :: (between ++ (ctx₂, c₂) :: later) →
    (entered.run earlier).Asks ctx₁ c₁ →
    (entered.run (earlier ++ (ctx₁, c₁) :: between)).Asks ctx₂ c₂ →
    I ≤ (entered.run (earlier ++ [(ctx₁, c₁)])).lapsed (between ++ [(ctx₂, c₂)])

theorem attends (height : Nat) (t : Transition) (ctx : Context) (continues : c.restarts = false) :
    (live height (.transition t)).Attends ctx c := by
  constructor
  · by_cases honored : (live height (.transition t)).Honored c
    · cases c with
      | check step =>
        have active := honored_iff.mp honored
        obtain ⟨condition, same⟩ := call_check height active step ctx
        have asks := asks_check height active step ctx
        rw [same]
        cases due : (t.wait ctx.settings (atLeastZero step)).1 <;>
          simp [due, asks, remains, AnyNode.remains]
      | _ => exact honored.elim
    · obtain ⟨-, active, condition, same⟩ := call_of_not_honored ctx continues honored
      have silent : ¬ (live height (.transition t)).Asks ctx c := fun asks =>
        honored (asks.honored continues)
      rw [same, if_neg silent]
      rfl
  · rintro step rfl awake
    have awake : (live height (.transition t)).Honored (.check step) := awake
    have active := honored_iff.mp awake
    have asks := asks_check height active step ctx
    have checked : (live height (.transition t)).check step ctx = _ :=
      congrArg (fun p => (some (Checked.target p.1), live height (.transition p.2.1), p.2.2))
        (Transition.check_of_active active step ctx)
    refine ⟨height, t, (t.check step ctx).2.1, rfl, ?_, ?_⟩
    · intro due
      simp [checked, Transition.check_of_active active, asks.mp due]
    · intro early
      simp [checked, Transition.check_of_active active, mt asks.mpr early]

/-- A transition keeps its interval. -/
theorem transition_run (height : Nat) (t : Transition) (continues : Continues calls) :
    ∃ t', (live height (.transition t)).run calls = live height (.transition t') ∧
      t'.period = t.period := by
  induction calls using List.reverseRecOn with
  | nil => exact ⟨t, rfl, rfl⟩
  | append_singleton calls last ih =>
    obtain ⟨ctx, c⟩ := last
    obtain ⟨t', held, period⟩ := ih continues.of_append
    rw [run_snoc, held]
    by_cases honored : (live height (.transition t')).Honored c
    · cases c with
      | check step =>
        have active := honored_iff.mp honored
        obtain ⟨condition, same⟩ := call_check height active step ctx
        exact ⟨_, same, period⟩
      | _ => exact honored.elim
    · obtain ⟨-, active, condition, same⟩ :=
        call_of_not_honored ctx continues.last honored
      exact ⟨_, same, period⟩

theorem always_attends (height : Nat) (t : Transition) (continues : Continues calls) :
    Always Attends (live height (.transition t)) calls := by
  rintro earlier ctx c later rfl
  obtain ⟨t', held, -⟩ := transition_run height t continues.of_append
  rw [held]
  exact attends height t' ctx (continues (ctx, c) (by simp))

section Throttles

variable (start : Paces I entered [] height t) (continues : Continues calls)
  (exact : Always ExactCheck entered calls)
include start continues exact

/-- The questions so far account for the time that has passed, but for what has passed since the
last of them. -/
theorem intervals_le_lapsed :
    ∃ k : Nat, (entered.run calls).remains.evaluations = entered.remains.evaluations + k ∧
      k * I + entered.since calls ≤ entered.lapsed calls := by
  induction calls using List.reverseRecOn with
  | nil => exact ⟨0, rfl, by simp [since, sinceFrom, lapsed]⟩
  | append_singleton calls last ih =>
    obtain ⟨ctx, c⟩ := last
    obtain ⟨before, here⟩ := always_snoc.mp exact
    obtain ⟨k, count, within⟩ := ih continues.of_append before
    obtain ⟨t', paces⟩ := start.run continues.of_append before
    have once := (attends height t' ctx continues.last).once
    have asks := paces.asks_iff here continues.last
    rw [← paces.held] at once
    rw [run_snoc, since_snoc, lapsed_snoc, once, count]
    by_cases due : (entered.run calls).Asks ctx c
    · refine ⟨k + 1, by rw [if_pos due, Nat.add_assoc], ?_⟩
      rw [if_pos due, add_zero, Nat.cast_add, Nat.cast_one, add_mul, one_mul]
      calc k * I + I
          ≤ k * I + (entered.since calls + (entered.run calls).lapse c) := by
            gcongr
            exact asks.mp due
        _ ≤ entered.lapsed calls + (entered.run calls).lapse c := by
            rw [← add_assoc]
            gcongr
    · refine ⟨k, by rw [if_neg due, Nat.add_zero], ?_⟩
      rw [if_neg due, ← add_assoc]
      gcongr

theorem due_iff {earlier : List (Context × Call)} (split : calls = earlier ++ (ctx, c) :: later) :
    entered.since earlier < I ∧ ((entered.run earlier).Asks ctx c ↔
      I ≤ entered.since earlier + (entered.run earlier).lapse c) := by
  subst split
  obtain ⟨t', paces⟩ := start.run continues.of_append exact.of_append
  exact ⟨paces.within,
    paces.asks_iff (exact earlier ctx c later rfl) (continues (ctx, c) (by simp))⟩

theorem throttles : Throttles I entered calls where
  due earlier ctx c later split := due_iff start continues exact split
  few := by
    rintro earlier later rfl
    obtain ⟨k, count, within⟩ :=
      intervals_le_lapsed start continues.of_append exact.of_append
    exact ⟨k, count, le_self_add.trans within⟩
  apart := by
    intro earlier ctx₁ c₁ between ctx₂ c₂ later split first second
    have onward : earlier ++ (ctx₁, c₁) :: between = earlier ++ [(ctx₁, c₁)] ++ between := by simp
    have again : calls = (earlier ++ (ctx₁, c₁) :: between) ++ (ctx₂, c₂) :: later := by
      simp [split]
    have due := (due_iff start continues exact again).2.mp second
    have asked : entered.sinceFrom 0 (earlier ++ [(ctx₁, c₁)]) = 0 := by
      rw [sinceFrom_snoc, if_pos first]
    rw [lapsed_snoc, ← run_append, ← onward]
    refine due.trans ?_
    gcongr
    rw [onward, since, sinceFrom_append, asked]
    exact (sinceFrom_le 0 _ between).trans_eq (zero_add _)

end Throttles

end Handle

/-- Throttling does not depend on how time is cut into checks. With an interval, a check asks the
condition just if the time since the last question comes up to the interval with it; whole numbers
of seconds are exact; and without an interval every check asks. -/
theorem throttling_ignores_ticks (h : Handle) (t : Transition) (held : h.transition? = some t)
    (ctx₀ : Context) (calls : List (Context × Handle.Call)) (continues : Handle.Continues calls) :
    let entered := (h.reset ctx₀).1
    let period := Transition.periodOf t.interval ctx₀.vars
    Handle.Always Handle.Attends entered calls ∧
      (∀ I, quanta? period = some I → 0 < I → Handle.Always Handle.ExactCheck entered calls →
        Handle.Throttles I entered calls) ∧
      (∀ I, quanta? period = some I → 0 < I → IsWhole I → I < wholes →
        Handle.Always Handle.WholeCheck entered calls →
        Handle.Always Handle.ExactCheck entered calls) ∧
      (¬ 0 < period → Handle.Always (fun h ctx c => h.Honored c → h.Asks ctx c) entered calls) := by
  obtain ⟨height, rfl⟩ : ∃ height, h = .live height (.transition t) := by
    cases h with
    | live height n =>
      cases n <;> cases held
      exact ⟨height, rfl⟩
    | _ => cases held
  have start {I : ℕ∞} := Handle.paces_reset (I := I) height t ctx₀
  refine ⟨Handle.always_attends height (t.reset ctx₀.toScope) continues, ?_, ?_, ?_⟩
  · intro I known throttled exact
    exact Handle.throttles (start known throttled) continues exact
  · intro I known throttled few small whole
    exact (start known throttled).always_exactCheck few small continues whole
  · rintro unthrottled earlier ctx c later rfl honored
    obtain ⟨t', here, period⟩ :=
      Handle.transition_run height (t.reset ctx₀.toScope) continues.of_append
    have here : ((Handle.live height (.transition t)).reset ctx₀).1.run earlier = _ := here
    have unthrottled : ¬ 0 < t'.period := period ▸ unthrottled
    rw [here] at honored ⊢
    cases c with
    | check step =>
      rw [Handle.asks_check height (Handle.honored_iff.mp honored) step ctx,
        Transition.wait_of_unthrottled unthrottled]
    | _ => exact honored.elim

def gate : Handle :=
  .live 0 (.transition (.ofCondition (.sensor false (.const (.literal true))) (some "open") none
    (.literal 2) ∅))

def gateCalls : List (Context × Handle.Call) :=
  [(emptyStage, .activate), (emptyStage, .check 1), (emptyStage, .deactivate), (emptyStage, .check 1),
    (emptyStage, .activate), (emptyStage, .check (-1)), (emptyStage, .check 1)]

/-- The gate is tried by the second check of a second that finds it awake. -/
theorem throttling_ignores_ticks_of_gate :
    Handle.Throttles (2 * one : Nat) (gate.reset emptyStage).1 gateCalls ∧
      ((gate.reset emptyStage).1.run (gateCalls.take 6)).Asks emptyStage (.check 1) := by
  have continues : Handle.Continues gateCalls := by
    simp [Handle.Continues, gateCalls, Handle.Call.restarts]
  obtain ⟨-, throttles, whole, -⟩ :=
    throttling_ignores_ticks gate _ rfl emptyStage gateCalls continues
  have positive : (0 : ℕ∞) < (2 * one : Nat) :=
    Nat.cast_pos.mpr (Nat.mul_pos (by decide) (Nat.two_pow_pos 149))
  have small : ((2 * one : Nat) : ℕ∞) < wholes :=
    Nat.cast_lt.mpr (Nat.mul_lt_mul_of_pos_right (by decide) (Nat.two_pow_pos 149))
  refine ⟨throttles _ quanta_two positive (whole _ quanta_two positive ⟨2, rfl⟩ small ?_), ?_⟩
  · have seconds : ∀ p ∈ gateCalls, p.1 = emptyStage ∧
        ∀ step, p.2 = .check step → step = 1 ∨ step = -1 := by
      simp [gateCalls]
    intro earlier ctx c later split
    obtain ⟨rfl, steps⟩ := seconds (ctx, c) (by simp [split])
    refine ⟨Handle.isWhole_lapse _ c fun step same => ?_, by decide⟩
    rcases steps step same with rfl | rfl
    · exact ⟨1, by rw [atLeastZero_eq quanta_one, quanta_one, Nat.one_mul]; rfl⟩
    · exact IsWhole.zero
  · decide +kernel

end SkillScript
