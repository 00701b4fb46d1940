import SkillScript.Proofs.History
import SkillScript.Proofs.Number.Difference
import SkillScript.Proofs.Timing.Forward
import SkillScript.Proofs.Timing.Visit
/-!
# A duration ends once

A behavior with a duration is woken, put to rest, updated and triggered in any order,
and the steps of its updates are any singles at all, infinite ones and those that are
no number included. Its duration ends at one moment or not at all: in the first update
that leaves nothing of it. Until then it cannot stop, and from then on it can; every
later update hands its step back and does nothing else. If the duration is finite, what
remains of it lies between zero and the whole, and never grows.
-/
set_option autoImplicit false
namespace SkillScript

open Number

/-! ## Timers -/

namespace Timer

/-- A timer of a finite duration, of which not more is left than there was. -/
structure Counts (t : Timer) (whole left : Nat) : Prop where
  total : quanta? t.total = some (whole : ℕ∞)
  remaining : quanta? t.remaining = some (left : ℕ∞)
  within : left ≤ whole

variable {t : Timer} {whole left : Nat} {step : Float32}

theorem Counts.bounds (counts : t.Counts whole left) :
    0 ≤ t.remaining ∧ t.remaining ≤ t.total := by
  rw [le_iff quanta_zero counts.remaining, le_iff counts.remaining counts.total]
  exact ⟨bot_le, Nat.cast_le.mpr counts.within⟩

theorem Counts.le {t' : Timer} {left' : Nat} (counts : t.Counts whole left)
    (later : t'.Counts whole left') (less : left' ≤ left) : t'.remaining ≤ t.remaining := by
  rw [le_iff later.remaining counts.remaining]
  exact Nat.cast_le.mpr less

/-- A step of any kind takes no more than is left. -/
theorem Counts.advance (counts : t.Counts whole left) (σ : Settings) (forward : ¬ step < 0) :
    ∃ left', left' ≤ left ∧ (t.advance σ step).2.Counts whole left' := by
  obtain ⟨m, taken, less⟩ := quanta_minNum_of_forward counts.remaining forward
  have finite : m ≠ ⊤ := (less.trans_lt (ENat.natCast_lt_top left)).ne
  obtain ⟨d, rest, within⟩ := quanta_sub_le counts.remaining taken less finite
  obtain ⟨n, rfl⟩ := ENat.ne_top_iff_exists.mp (within.trans_lt (ENat.natCast_lt_top left)).ne
  have shorter : n ≤ left := Nat.cast_le.mp within
  by_cases zero : σ.isZero (t.remaining - minNum step t.remaining) = true
  · refine ⟨0, Nat.zero_le left, counts.total, ?_, Nat.zero_le whole⟩
    simp only [Timer.advance, zero, if_true]
    exact quanta_zero
  · refine ⟨n, shorter, counts.total, ?_, shorter.trans counts.within⟩
    simp only [Timer.advance, zero]
    exact rest

/-- A timer after an update: once done it stays as it is. -/
def ran (σ : Settings) (step : Float32) (t : Timer) : Timer :=
  if t.done then t else (t.advance σ step).2

theorem total_ran (σ : Settings) (step : Float32) (t : Timer) : (t.ran σ step).total = t.total := by
  unfold ran
  split <;> rfl

theorem done_ran_iff (σ : Settings) (step : Float32) (t : Timer) :
    (t.ran σ step).done = true ↔ t.done = true ∨ ((t.ran σ step).remaining == 0) = true := by
  cases done : t.done with
  | true => simp [ran, done]
  | false => simp [ran, done, advance]

theorem Counts.ran (counts : t.Counts whole left) (σ : Settings) (forward : ¬ step < 0) :
    ∃ left', left' ≤ left ∧ (t.ran σ step).Counts whole left' := by
  unfold Timer.ran
  split
  · exact ⟨left, le_rfl, counts⟩
  · exact counts.advance σ forward

theorem proper_start (duration : Float32) : Proper (start duration).total := by
  simp only [start]
  split
  · exact proper_zero
  · rename_i good
    simp only [Bool.or_eq_true, decide_eq_true_eq, not_or, Bool.not_eq_true] at good
    exact ⟨good.2, good.1⟩

theorem counts_start {duration : Float32} (finite : (start duration).total.isFinite = true) :
    ∃ whole, (start duration).Counts whole whole := by
  obtain ⟨n, known⟩ := (proper_start duration).quanta
  obtain ⟨whole, rfl⟩ := ENat.ne_top_iff_exists.mp (ne_top_of_isFinite known finite)
  exact ⟨whole, known, known, le_rfl⟩

end Timer

/-! ## The notices of a duration -/

/-- What a task is told while its duration runs: that time has passed, and that the duration has
come to its end. -/
inductive Notice where
  | passed (taken : Float32)
  | ended
deriving DecidableEq, Repr

namespace Flow

def gather (f : Flow) (taken : Float32) : Flow :=
  { f with pending := f.pending + f.rate * taken }

def pass (f : Flow) (taken : Float32) (s : Scope) : Flow × Scope :=
  (f.gather taken).apply (truncate (f.gather taken).pending) s

def finish (f : Flow) (s : Scope) : Flow × Scope :=
  let (f, s) := f.apply (roundAway f.pending) s
  ({ f with pending := 0 }, s)

end Flow

namespace Task

def timer? : Task → Option Timer
  | wait _ timer => some timer
  | healthOverTime _ timer _ => some timer
  | _ => none

def duration? : Task → Option (Param Float32)
  | wait c _ => some c.duration
  | healthOverTime c _ _ => some c.duration
  | _ => none

def withTimer (timer : Timer) : Task → Task
  | wait c _ => wait c timer
  | healthOverTime c _ flow => healthOverTime c timer flow
  | t => t

/-- What a task makes of a notice: a wait publishes its event at the end; a flow of health passes
whole points on as time passes, and the rounded rest at the end. -/
def meet : Task × Scope → Notice → Task × Scope
  | (wait c timer, s), .passed _ => (wait c timer, s)
  | (wait c timer, s), .ended =>
    (wait c timer, c.endEvent.elim s fun event => s.publish event ∅)
  | (healthOverTime c timer flow, s), .passed taken =>
    let (flow, s) := flow.pass taken s
    (healthOverTime c timer flow, s)
  | (healthOverTime c timer flow, s), .ended =>
    let (flow, s) := flow.finish s
    (healthOverTime c timer flow, s)
  | p, _ => p

def notices (step : Float32) (σ : Settings) (t : Task) : List Notice :=
  match t.timer? with
  | none => []
  | some timer =>
    if timer.done then []
    else
      let ran := timer.advance σ step
      .passed ran.1 :: if ran.2.done then [.ended] else []

variable {t : Task} {timer : Timer} {step : Float32} {σ : Settings}

theorem timer?_meet (p : Task × Scope) (m : Notice) : (meet p m).1.timer? = p.1.timer? := by
  obtain ⟨t, s⟩ := p
  cases t <;> cases m <;> rfl

theorem duration?_meet (p : Task × Scope) (m : Notice) :
    (meet p m).1.duration? = p.1.duration? := by
  obtain ⟨t, s⟩ := p
  cases t <;> cases m <;> rfl

theorem foldl_meet {α : Type} {f : Task → α} (kept : ∀ p m, f (meet p m).1 = f p.1)
    (p : Task × Scope) (ms : List Notice) : f (ms.foldl meet p).1 = f p.1 := by
  induction ms generalizing p with
  | nil => rfl
  | cons m rest ih => exact (ih (meet p m)).trans (kept p m)

theorem canStop_of_timer (timed : t.timer? = some timer) : t.canStop = timer.done := by
  cases t <;> cases timed <;> rfl

theorem notices_of_done (timed : t.timer? = some timer) (done : timer.done = true) :
    t.notices step σ = [] := by
  simp only [notices, timed, done, if_true]

theorem notices_of_running (timed : t.timer? = some timer) (running : timer.done = false) :
    t.notices step σ =
      .passed (timer.advance σ step).1 :: if (timer.advance σ step).2.done then [.ended] else [] := by
  simp [notices, timed, running]

/-- The end is told once the timer gets done, and not again. -/
theorem count_ended_notices (timed : t.timer? = some timer) (step : Float32) (σ : Settings) :
    (t.notices step σ).count .ended + timer.done.toNat = (timer.ran σ step).done.toNat := by
  cases done : timer.done with
  | true => simp [notices_of_done timed done, Timer.ran, done]
  | false =>
    rw [notices_of_running timed done]
    cases ends : (timer.advance σ step).2.done <;> simp [Timer.ran, done, ends]

theorem update_of_done (timed : t.timer? = some timer) (done : timer.done = true) (s : Scope) :
    t.update step s = (step, t, s) := by
  cases t <;> cases timed <;> simp [update, done]

/-- An update winds the timer on, and is otherwise what the task makes of its notices. -/
theorem update_of_running (step : Float32) (timed : t.timer? = some timer) (running : timer.done = false)
    (s : Scope) :
    t.update step s =
      (atLeastZero (step - (timer.advance s.settings step).1),
        (t.notices step s.settings).foldl meet
          (t.withTimer (timer.advance s.settings step).2, s)) := by
  rw [notices_of_running timed running]
  cases t with
  | wait c timer' =>
    cases timed
    cases ends : (timer.advance s.settings step).2.done
    · simp [update, running, ends, withTimer, meet]
    · cases event : c.endEvent <;> simp [update, running, ends, withTimer, meet, event]
  | healthOverTime c timer' flow =>
    cases timed
    cases ends : (timer.advance s.settings step).2.done <;>
      simp [update, running, ends, withTimer, meet, Flow.pass, Flow.gather, Flow.finish]
  | _ => cases timed

theorem timer?_update (timed : t.timer? = some timer) (s : Scope) :
    (t.update step s).2.1.timer? = some (timer.ran s.settings step) := by
  by_cases done : timer.done = true
  · rw [update_of_done timed done, Timer.ran, if_pos done]
    exact timed
  · rw [update_of_running step timed (Bool.eq_false_iff.mpr done), Timer.ran, if_neg done,
      foldl_meet timer?_meet]
    cases t <;> cases timed <;> rfl

theorem duration?_update (timed : t.timer? = some timer) (s : Scope) :
    (t.update step s).2.1.duration? = t.duration? := by
  by_cases done : timer.done = true
  · rw [update_of_done timed done]
  · rw [update_of_running step timed (Bool.eq_false_iff.mpr done), foldl_meet duration?_meet]
    cases t <;> rfl

/-- A task with a duration starts its timer anew when it begins, and when it is reset. -/
theorem begin_of_duration {p : Param Float32} (lasting : t.duration? = some p) (s : Scope) :
    (t.begin s).2 = s ∧ (t.begin s).1.duration? = some p ∧
      (t.begin s).1.timer? = some (.start (p.resolve s.vars)) := by
  cases t <;> cases lasting <;> exact ⟨rfl, rfl, rfl⟩

theorem reset_of_duration {p : Param Float32} (lasting : t.duration? = some p) (s : Scope) :
    (t.reset s).duration? = some p ∧ (t.reset s).timer? = some (.start (p.resolve s.vars)) := by
  cases t <;> cases lasting <;> exact ⟨rfl, rfl⟩

end Task

/-! ## Nodes -/

namespace Node

variable {β : Type} [Behaves β]

/-- A behavior that runs for a duration, with its task and its timer. -/
structure Lasting (p : Param Float32) (n : Node β) (t : Task) (timer : Timer) : Prop where
  logic : n.logic = .task t
  duration : t.duration? = some p
  timer : t.timer? = some timer

/-- The task that the next update runs: it begins with the first. -/
def upcoming (n : Node β) (t : Task) (s : Scope) : Task :=
  if n.begun then t else (t.begin s).1

variable {p : Param Float32} {n : Node β} {t : Task} {timer : Timer}

omit [Behaves β] in
theorem Lasting.upcoming (lasting : n.Lasting p t timer) (s : Scope) :
    (n.upcoming t s).duration? = some p ∧
      (n.upcoming t s).timer? = some (if n.begun then timer else .start (p.resolve s.vars)) := by
  rw [Node.upcoming]
  split
  · exact ⟨lasting.duration, lasting.timer⟩
  · exact (Task.begin_of_duration lasting.duration s).2

/-- An update that is granted is one of the task. -/
theorem Lasting.update (lasting : n.Lasting p t timer) (awake : n.active = true) (step : Float32)
    (ctx : Context) :
    n.update step ctx =
      let ran := (n.upcoming t ctx.toScope).update (if step < 0 then 0 else step) ctx.toScope
      (ran.1, { n with begun := true, logic := .task ran.2.1 }, { ctx with toScope := ran.2.2 }) := by
  obtain ⟨active, begun, logic⟩ := n
  obtain rfl : logic = .task t := lasting.logic
  obtain rfl : active = true := awake
  cases begun with
  | true => rfl
  | false =>
    have same := (Task.begin_of_duration lasting.duration ctx.toScope).1
    simp [Node.update, Node.begin, Logic.onBegin, Logic.onUpdate, Node.upcoming, same]

end Node

/-! ## Nodes in the hands of an owner -/

namespace Handle

def task? : Handle → Option Task
  | live _ (.behavior n) =>
    match n.logic with
    | .task t => some t
    | _ => none
  | _ => none

def timer? (h : Handle) : Option Timer :=
  h.task?.bind Task.timer?

def duration? (h : Handle) : Option (Param Float32) :=
  h.task?.bind Task.duration?

def upcoming? (ctx : Context) : Handle → Option Task
  | live _ (.behavior n) =>
    match n.logic with
    | .task t => some (n.upcoming t ctx.toScope)
    | _ => none
  | _ => none

/-- The notices of a call. Only an update that is granted has any. -/
def notices (h : Handle) (ctx : Context) : Call → List Notice
  | .update step =>
    if h.status = .active then
      (h.upcoming? ctx).elim [] fun t => t.notices (if step < 0 then 0 else step) ctx.settings
    else []
  | _ => []

def story (h : Handle) (calls : List (Context × Call)) : List Notice :=
  h.log notices calls

/-- A granted update that leaves nothing of the duration. -/
def Empties (h : Handle) (ctx : Context) (c : Call) : Prop :=
  h.Granted c ∧ ∃ timer, (h.call ctx c).1.timer? = some timer ∧ (timer.remaining == 0) = true

def Expired (h : Handle) (calls : List (Context × Call)) : Prop :=
  Sometime Empties h calls

/-- How a behavior that was reset runs for its duration through the calls that follow. -/
structure RunsOut (p : Param Float32) (entered : Handle) (before : List (Context × Call)) :
    Prop where
  /-- It can stop just if an update has left nothing. -/
  stops : (entered.run before).canStop? = some true ↔ entered.Expired before
  goes : (entered.run before).canStop? = some false ↔ ¬ entered.Expired before
  /-- The end comes with the first update that leaves nothing, and only then. -/
  ends : ∀ ctx c, c.restarts = false →
    (.ended ∈ (entered.run before).notices ctx c ↔
      ¬ entered.Expired before ∧ (entered.run before).Empties ctx c)
  once : (entered.story before).count .ended ≤ 1
  /-- Until then an update winds the timer on and is otherwise what the task makes of its
  notices. -/
  tells : ∀ ctx step, (entered.run before).status = .active → ¬ entered.Expired before →
    ∃ t timer, (entered.run before).upcoming? ctx = some t ∧
      let met := ((entered.run before).notices ctx (.update step)).foldl Task.meet
        (t.withTimer timer, ctx.toScope)
      ((entered.run before).call ctx (.update step)).1.task? = some met.1 ∧
        ((entered.run before).call ctx (.update step)).2 = { ctx with toScope := met.2 }
  /-- From then on an update hands its step back and does nothing. -/
  spent : ∀ ctx step, (entered.run before).status = .active → entered.Expired before →
    (entered.run before).update step ctx = (if step < 0 then 0 else step, entered.run before, ctx)
  /-- No other call takes of the duration or has an effect. -/
  paused : ∀ ctx c, c.restarts = false → ¬ (entered.run before).Granted c →
    ((entered.run before).call ctx c).1.timer? = (entered.run before).timer? ∧
      ((entered.run before).call ctx c).2.Same ctx
  /-- The whole is read at the first update. If it is finite, what remains of it is between zero
  and the whole after that update, and never grows. -/
  wanes : ∀ idle ctx₁ step₁ later ctx c, entered.Begins idle → c.restarts = false →
    before = idle ++ (ctx₁, .update step₁) :: later →
    let duration := p.resolve ctx₁.vars
    let whole := if duration < 0 || duration.isNaN then 0 else duration
    ∃ timer timer', (entered.run before).timer? = some timer ∧
      ((entered.run before).call ctx c).1.timer? = some timer' ∧
      timer.total = whole ∧ timer'.total = whole ∧
      (whole.isFinite = true →
        0 ≤ timer.remaining ∧ timer.remaining ≤ whole ∧ timer'.remaining ≤ timer.remaining)

variable {height : Nat} {p : Param Float32} {n n' : Node (Behavior height)} {t t' : Task}
  {timer timer' : Timer} {ctx : Context} {c : Call}

/-- What a call that does not start over makes of a node with a duration: either it is an update
that is granted, or the call leaves everything but its being awake as it was. -/
inductive Follows (ctx : Context) (p : Param Float32) (n : Node (Behavior height)) (timer : Timer) :
    Call → Node (Behavior height) → Timer → Prop where
  | update (step : Float32) {n' : Node (Behavior height)} (awake : n.active = true)
    (begun : n'.begun = true) : Follows ctx p n timer (.update step) n'
      ((if n.begun then timer else .start (p.resolve ctx.vars)).ran ctx.settings
        (if step < 0 then 0 else step))
  | idle {c : Call} {n' : Node (Behavior height)} (idle : ¬ (live height (.behavior n)).Granted c)
    (begun : n'.begun = n.begun) : Follows ctx p n timer c n' timer

theorem status_iff : (live height (.behavior n)).status = .active ↔ n.active = true := by
  cases active : n.active <;> simp [status, AnyNode.isActive, active]

theorem granted_iff {step : Float32} :
    (live height (.behavior n)).Granted (.update step) ↔ n.active = true :=
  status_iff

/-- A call that is neither a granted update nor starts over only wakes the node or puts it to
rest. -/
theorem call_of_idle (ctx : Context) (lasting : n.Lasting p t timer) (continues : c.restarts = false)
    (idle : ¬ (live height (.behavior n)).Granted c) :
    (∃ a, ((live height (.behavior n)).call ctx c).1 = live height (.behavior { n with active := a }))
      ∧ ((live height (.behavior n)).call ctx c).2.Same ctx := by
  obtain ⟨active, begun, logic⟩ := n
  obtain rfl : logic = .task t := lasting.logic
  cases c with
  | reset => cases continues
  | enter => cases continues
  | update step =>
    rw [granted_iff, Bool.not_eq_true] at idle
    obtain rfl : active = false := idle
    exact ⟨⟨false, rfl⟩, rfl, rfl, rfl⟩
  | activate => cases active <;> exact ⟨⟨true, rfl⟩, rfl, rfl, rfl⟩
  | deactivate => cases active <;> exact ⟨⟨false, rfl⟩, rfl, rfl, rfl⟩
  | trigger tag => cases active <;> exact ⟨⟨_, rfl⟩, rfl, rfl, rfl⟩
  | _ => exact ⟨⟨active, rfl⟩, rfl, rfl, rfl⟩

/-- A granted update is one of the task. -/
theorem update_of_awake (lasting : n.Lasting p t timer) (awake : n.active = true) (step : Float32)
    (ctx : Context) :
    (live height (.behavior n)).update step ctx =
      let ran := (n.upcoming t ctx.toScope).update (if step < 0 then 0 else step) ctx.toScope
      (ran.1, live height (.behavior { n with begun := true, logic := .task ran.2.1 }),
        { ctx with toScope := ran.2.2 }) := by
  simp only [update, lasting.update awake step ctx]

/-- One call, granted or not. -/
theorem follows_call (lasting : n.Lasting p t timer) (ctx : Context)
    (continues : c.restarts = false) :
    ∃ n' t' timer', ((live height (.behavior n)).call ctx c).1 = live height (.behavior n') ∧
      n'.Lasting p t' timer' ∧ Follows ctx p n timer c n' timer' := by
  by_cases granted : (live height (.behavior n)).Granted c
  · cases c with
    | update step =>
      have awake := granted_iff.mp granted
      obtain ⟨duration, timed⟩ := lasting.upcoming ctx.toScope
      exact ⟨_, _, _, congrArg (·.2.1) (update_of_awake lasting awake step ctx),
        ⟨rfl, (Task.duration?_update timed ctx.toScope).trans duration,
          Task.timer?_update timed ctx.toScope⟩, .update step awake rfl⟩
    | _ => exact granted.elim
  · obtain ⟨⟨a, same⟩, -⟩ := call_of_idle ctx lasting continues granted
    exact ⟨_, t, timer, same, ⟨lasting.logic, lasting.duration, lasting.timer⟩, .idle granted rfl⟩

theorem notices_of_idle {h : Handle} (idle : ¬ h.Granted c) : h.notices ctx c = [] := by
  cases c with
  | update step => exact if_neg idle
  | _ => rfl

theorem notices_of_awake (lasting : n.Lasting p t timer) (awake : n.active = true) (ctx : Context)
    (step : Float32) :
    (live height (.behavior n)).notices ctx (.update step) =
      (n.upcoming t ctx.toScope).notices (if step < 0 then 0 else step) ctx.settings := by
  simp [notices, status, AnyNode.isActive, awake, upcoming?, lasting.logic]

/-- A timer that is done is not started anew. -/
theorem done_upcoming (started : timer.done = true → n.begun = true) (ctx : Context) :
    (if n.begun then timer else Timer.start (p.resolve ctx.vars)).done = timer.done := by
  by_cases begun : n.begun = true
  · rw [if_pos begun]
  · have running : timer.done = false := Bool.eq_false_iff.mpr fun done => begun (started done)
    rw [if_neg begun, running]
    rfl

namespace Follows

variable (follows : Follows ctx p n timer c n' timer') (started : timer.done = true → n.begun = true)
include follows

theorem begun_iff :
    n'.begun = true ↔ n.begun = true ∨ (live height (.behavior n)).Granted c := by
  cases follows with
  | update step awake begun => simp [begun, granted_iff.mpr awake]
  | idle idle begun => simp [begun, idle]

include started

/-- The end is told by the call that gets the timer done. -/
theorem count_ended (lasting : n.Lasting p t timer) :
    ((live height (.behavior n)).notices ctx c).count .ended + timer.done.toNat =
      timer'.done.toNat := by
  cases follows with
  | update step awake begun =>
    rw [notices_of_awake lasting awake, ← done_upcoming (p := p) started ctx]
    exact Task.count_ended_notices (lasting.upcoming ctx.toScope).2 _ _
  | idle idle begun => rw [notices_of_idle idle, List.count_nil, Nat.zero_add]

/-- A timer is done once an update has left nothing. -/
theorem done_iff (lasting : n'.Lasting p t' timer')
    (same : ((live height (.behavior n)).call ctx c).1 = live height (.behavior n')) :
    timer'.done = true ↔ timer.done = true ∨ (live height (.behavior n)).Empties ctx c := by
  have timed : ((live height (.behavior n)).call ctx c).1.timer? = some timer' := by
    simp only [same, timer?, task?, lasting.logic, Option.bind_some, lasting.timer]
  have left : (live height (.behavior n)).Empties ctx c ↔
      (live height (.behavior n)).Granted c ∧ (timer'.remaining == 0) = true := by
    simp [Empties, timed]
  rw [left]
  cases follows with
  | update step awake begun =>
    rw [Timer.done_ran_iff, done_upcoming started ctx]
    simp [granted_iff.mpr awake]
  | idle idle begun => simp [idle]

end Follows

namespace Follows

variable (follows : Follows ctx p n timer c n' timer') (begun : n.begun = true)
include follows begun

/-- After the first update the whole stays what it is. -/
theorem total : timer'.total = timer.total := by
  cases follows with
  | update step awake begun' => rw [if_pos begun, Timer.total_ran]
  | idle idle begun' => rfl

theorem counts {whole left : Nat} (counts : timer.Counts whole left) :
    ∃ left', left' ≤ left ∧ timer'.Counts whole left' := by
  cases follows with
  | update step awake begun' =>
    rw [if_pos begun]
    exact counts.ran ctx.settings (not_clipped_lt step)
  | idle idle begun' => exact ⟨left, le_rfl, counts⟩

end Follows

theorem Expired.updated {h : Handle} {calls : List (Context × Call)} (expired : h.Expired calls) :
    h.Updated calls :=
  expired.mono fun _ _ _ empties => empties.1

structure Tracks (p : Param Float32) (entered : Handle) (calls : List (Context × Call))
    (n : Node (Behavior height)) (t : Task) (timer : Timer) : Prop where
  held : entered.run calls = live height (.behavior n)
  lasting : n.Lasting p t timer
  begun : n.begun = true ↔ entered.Updated calls
  done : timer.done = true ↔ entered.Expired calls
  told : (entered.story calls).count .ended = timer.done.toNat

variable {entered h : Handle} {calls : List (Context × Call)}

namespace Tracks

variable (tracks : Tracks p entered calls n t timer)
include tracks

theorem started (done : timer.done = true) : n.begun = true :=
  tracks.begun.mpr (tracks.done.mp done).updated

theorem call (ctx : Context) (continues : c.restarts = false) :
    ∃ n' t' timer', Tracks p entered (calls ++ [(ctx, c)]) n' t' timer' ∧
      Follows ctx p n timer c n' timer' := by
  obtain ⟨n', t', timer', same, lasting, follows⟩ := follows_call tracks.lasting ctx continues
  refine ⟨n', t', timer', ⟨?_, lasting, ?_, ?_, ?_⟩, follows⟩
  · rw [run_snoc, tracks.held, same]
  · rw [Updated, sometime_snoc, tracks.held, follows.begun_iff]
    exact or_congr_left tracks.begun
  · rw [Expired, sometime_snoc, tracks.held, follows.done_iff tracks.started lasting same]
    exact or_congr_left tracks.done
  · rw [story, log_snoc, ← story, List.count_append, tracks.told, tracks.held, Nat.add_comm]
    exact follows.count_ended tracks.started tracks.lasting

theorem timer? : (entered.run calls).timer? = some timer := by
  simp only [tracks.held, Handle.timer?, task?, tracks.lasting.logic, Option.bind_some,
    tracks.lasting.timer]

theorem canStop? : (entered.run calls).canStop? = some timer.done := by
  simp only [tracks.held, Handle.canStop?, Node.canStop, tracks.lasting.logic, Logic.canStop,
    Task.canStop_of_timer tracks.lasting.timer]

theorem awake (active : (entered.run calls).status = .active) : n.active = true := by
  rw [tracks.held] at active
  exact status_iff.mp active

/-- The end is told by the call with which the duration gets expired. -/
theorem ended_mem_iff (ctx : Context) (continues : c.restarts = false) :
    .ended ∈ (entered.run calls).notices ctx c ↔
      ¬ entered.Expired calls ∧ (entered.run calls).Empties ctx c := by
  obtain ⟨n', t', timer', tracks', follows⟩ := tracks.call ctx continues
  have told := follows.count_ended tracks.started tracks.lasting
  have expired := tracks'.done
  rw [Expired, sometime_snoc, ← Expired, ← tracks.done] at expired
  rw [← List.count_pos_iff, ← tracks.done, tracks.held]
  rw [tracks.held] at expired
  cases done : timer.done <;> cases done' : timer'.done <;> simp_all

/-- Before the end an update is what the task makes of its notices. -/
theorem call_of_running (ctx : Context) (step : Float32)
    (active : (entered.run calls).status = .active) (unexpired : ¬ entered.Expired calls) :
    ∃ t timer, (entered.run calls).upcoming? ctx = some t ∧
      let met := ((entered.run calls).notices ctx (.update step)).foldl Task.meet
        (t.withTimer timer, ctx.toScope)
      ((entered.run calls).call ctx (.update step)).1.task? = some met.1 ∧
        ((entered.run calls).call ctx (.update step)).2 = { ctx with toScope := met.2 } := by
  have running : timer.done = false := Bool.eq_false_iff.mpr (mt tracks.done.mp unexpired)
  have timed := (tracks.lasting.upcoming ctx.toScope).2
  rw [← done_upcoming (p := p) tracks.started ctx] at running
  have ran := Task.update_of_running (if step < 0 then 0 else step) timed running ctx.toScope
  have awake := tracks.awake active
  have updated := update_of_awake tracks.lasting awake step ctx
  rw [tracks.held, notices_of_awake tracks.lasting awake]
  refine ⟨n.upcoming t ctx.toScope,
    ((if n.begun then timer else .start (p.resolve ctx.vars)).advance ctx.settings
      (if step < 0 then 0 else step)).2, ?_, ?_, ?_⟩
  · simp only [upcoming?, tracks.lasting.logic]
  · simp only [Handle.call, updated, task?, ran]
  · simp only [Handle.call, updated, ran]

/-- After the end an update does nothing. -/
theorem update_of_expired (ctx : Context) (step : Float32)
    (active : (entered.run calls).status = .active) (expired : entered.Expired calls) :
    (entered.run calls).update step ctx =
      (if step < 0 then 0 else step, entered.run calls, ctx) := by
  have done := tracks.done.mpr expired
  have updated := update_of_awake tracks.lasting (tracks.awake active) step ctx
  obtain ⟨active', begun, logic⟩ := n
  obtain rfl : logic = .task t := tracks.lasting.logic
  obtain rfl : begun = true := tracks.started done
  rw [tracks.held, updated]
  simp [Node.upcoming, Task.update_of_done tracks.lasting.timer done]

theorem call_of_idle (ctx : Context) (continues : c.restarts = false)
    (idle : ¬ (entered.run calls).Granted c) :
    ((entered.run calls).call ctx c).1.timer? = (entered.run calls).timer? ∧
      ((entered.run calls).call ctx c).2.Same ctx := by
  rw [tracks.timer?]
  rw [tracks.held] at idle ⊢
  obtain ⟨⟨a, same⟩, still⟩ := Handle.call_of_idle ctx tracks.lasting continues idle
  refine ⟨?_, still⟩
  simp only [same, Handle.timer?, task?, tracks.lasting.logic, Option.bind_some,
    tracks.lasting.timer]

end Tracks

theorem exists_of_duration (lasting : h.duration? = some p) :
    ∃ (height : Nat) (n : Node (Behavior height)) (t : Task),
      h = live height (.behavior n) ∧ n.logic = .task t ∧ t.duration? = some p := by
  obtain ⟨t, known, duration⟩ := Option.bind_eq_some_iff.mp lasting
  cases h with
  | live height n =>
    cases n with
    | behavior n =>
      obtain ⟨active, begun, logic⟩ := n
      cases logic with
      | task t' =>
        cases known
        exact ⟨height, _, t, rfl, rfl, duration⟩
      | _ => cases known
    | _ => cases known
  | _ => cases known

/-- A reset starts the task of a behavior over. -/
theorem reset_of_task (logic : n.logic = .task t) (ctx : Context) :
    ((live height (.behavior n)).reset ctx).1 = live height (.behavior
      { n with begun := false, logic := .task (t.reset ctx.toScope) }) := by
  simp only [reset, onLive, AnyNode.reset, Node.reset, logic, Logic.onReset]

/-- A node is tracked from a reset on. -/
theorem tracks_run (lasting : h.duration? = some p) (ctx₀ : Context)
    (continues : Continues calls) :
    ∃ (height : Nat) (n : Node (Behavior height)) (t : Task) (timer : Timer),
      Tracks p (h.reset ctx₀).1 calls n t timer := by
  induction calls using List.reverseRecOn with
  | nil =>
    obtain ⟨height, n, t, rfl, logic, duration⟩ := exists_of_duration lasting
    obtain ⟨same, timed⟩ := Task.reset_of_duration duration ctx₀.toScope
    refine ⟨height, _, _, _, ⟨reset_of_task logic ctx₀, ⟨rfl, same, timed⟩, ?_, ?_, rfl⟩⟩
    · exact ⟨nofun, fun updated => absurd updated not_sometime_nil⟩
    · exact ⟨nofun, fun expired => absurd expired not_sometime_nil⟩
  | append_singleton calls last ih =>
    obtain ⟨height, n, t, timer, tracks⟩ := ih continues.of_append
    obtain ⟨n', t', timer', tracks, -⟩ := tracks.call last.1 continues.last
    exact ⟨height, n', t', timer', tracks⟩

/-- From the first update on the timer counts down the whole that was read there. -/
theorem counts_run {idle later : List (Context × Call)} {ctx₁ : Context} {step₁ : Float32}
    (lasting : h.duration? = some p) (ctx₀ : Context)
    (begins : (h.reset ctx₀).1.Begins idle)
    (continues : Continues (idle ++ (ctx₁, .update step₁) :: later)) :
    ∃ (height : Nat) (n : Node (Behavior height)) (t : Task) (timer : Timer),
      Tracks p (h.reset ctx₀).1 (idle ++ (ctx₁, .update step₁) :: later) n t timer ∧
      n.begun = true ∧ timer.total = (Timer.start (p.resolve ctx₁.vars)).total ∧
      (timer.total.isFinite = true → ∃ whole left, timer.Counts whole left) := by
  induction later using List.reverseRecOn with
  | nil =>
    obtain ⟨height, n, t, timer, tracks⟩ := tracks_run lasting ctx₀ continues.of_append
    obtain ⟨n', t', timer', tracks', follows⟩ := tracks.call ctx₁ continues.last
    have fresh : ¬ n.begun = true := fun begun => begins.first (tracks.begun.mp begun)
    refine ⟨height, n', t', timer', tracks', ?_⟩
    cases follows with
    | update _ awake begun =>
      rw [if_neg fresh]
      refine ⟨begun, Timer.total_ran _ _ _, fun finite => ?_⟩
      rw [Timer.total_ran] at finite
      obtain ⟨whole, counts⟩ := Timer.counts_start finite
      obtain ⟨left, -, counts⟩ := counts.ran ctx₁.settings (not_clipped_lt step₁)
      exact ⟨whole, left, counts⟩
    | idle idle begun =>
      rw [← tracks.held] at idle
      exact absurd begins.awake idle
  | append_singleton later last ih =>
    rw [← List.cons_append, ← List.append_assoc] at continues ⊢
    obtain ⟨height, n, t, timer, tracks, begun, total, counts⟩ := ih continues.of_append
    obtain ⟨n', t', timer', tracks', follows⟩ := tracks.call last.1 continues.last
    refine ⟨height, n', t', timer', tracks', follows.begun_iff.mpr (Or.inl begun), ?_, ?_⟩
    · exact (follows.total begun).trans total
    · rw [follows.total begun]
      intro finite
      obtain ⟨whole, left, counts⟩ := counts finite
      obtain ⟨left', -, counts'⟩ := follows.counts begun counts
      exact ⟨whole, left', counts'⟩

end Handle

/-- A duration ends at one moment or not at all. -/
theorem durations_end_once (h : Handle) (p : Param Float32) (lasting : h.duration? = some p)
    (ctx₀ : Context) (before : List (Context × Handle.Call)) (continues : Handle.Continues before) :
    Handle.RunsOut p (h.reset ctx₀).1 before := by
  obtain ⟨height, n, t, timer, tracks⟩ := Handle.tracks_run lasting ctx₀ continues
  refine
    { stops := ?_
      goes := ?_
      ends := fun ctx c proceeds => tracks.ended_mem_iff ctx proceeds
      once := tracks.told.trans_le (Bool.toNat_le timer.done)
      tells := fun ctx step active unexpired => tracks.call_of_running ctx step active unexpired
      spent := fun ctx step active expired => tracks.update_of_expired ctx step active expired
      paused := fun ctx c proceeds idle => tracks.call_of_idle ctx proceeds idle
      wanes := ?_ }
  · rw [tracks.canStop?, Option.some.injEq, tracks.done]
  · rw [tracks.canStop?, Option.some.injEq, ← tracks.done, Bool.not_eq_true]
  · rintro idle ctx₁ step₁ later ctx c begins proceeds rfl
    obtain ⟨height, n, t, timer, tracks, begun, total, counts⟩ :=
      Handle.counts_run lasting ctx₀ begins continues
    obtain ⟨n', t', timer', tracks', follows⟩ := tracks.call ctx proceeds
    rw [← Handle.run_snoc, tracks.timer?, tracks'.timer?]
    refine ⟨timer, timer', rfl, rfl, total, (follows.total begun).trans total, fun finite => ?_⟩
    rw [total] at counts
    obtain ⟨whole, left, counts⟩ := counts finite
    obtain ⟨left', less, counts'⟩ := follows.counts begun counts
    obtain ⟨least, most⟩ := counts.bounds
    rw [total] at most
    exact ⟨least, most, counts.le counts' less⟩

def rest : Handle :=
  .live 0 (.behavior { logic := .task (.wait { duration := .literal 2 } default) })

def restCalls : List (Context × Handle.Call) :=
  [(emptyStage, .activate), (emptyStage, .update (-1)), (emptyStage, .update 1),
    (emptyStage, .deactivate), (emptyStage, .update 1), (emptyStage, .activate)]

/-- The first second does not end the rest, a step that is no number does. -/
theorem durations_end_once_of_rest :
    ¬ (rest.reset emptyStage).1.Expired restCalls ∧
      .ended ∈ ((rest.reset emptyStage).1.run restCalls).notices emptyStage (.update (0 / 0)) := by
  have continues : Handle.Continues restCalls := by
    simp [Handle.Continues, restCalls, Handle.Call.restarts]
  have runs := durations_end_once rest (.literal 2) rfl emptyStage restCalls continues
  have unexpired := runs.goes.mp (by decide +kernel)
  have granted : ((rest.reset emptyStage).1.run restCalls).Granted (.update (0 / 0)) := by
    show Handle.status _ = _
    decide +kernel
  refine ⟨unexpired, (runs.ends emptyStage (.update (0 / 0)) rfl).mpr ⟨unexpired, granted, ?_⟩⟩
  rw [← Option.any_eq_true]
  decide +kernel

end SkillScript
