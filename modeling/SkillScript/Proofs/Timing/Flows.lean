import SkillScript.Proofs.Timing.Expiry
import SkillScript.Proofs.World.Health
/-!
# Flows of health

A flow of health changes the health of its target at a steady rate while its duration
runs. Whole points are passed on as they come together and the rounded rest at the end,
and each change stops at the ends of the range of health. However the time is cut into
updates, this comes to one change by the rounded product of the rate and the duration,
as long as the arithmetic is exact and nobody else changes the target. On the way the
points that were passed on are the product of the rate and the time so far, cut off.
-/
set_option autoImplicit false
namespace SkillScript

open Number

/-! ## Timers -/

namespace Timer

variable {t : Timer} {σ : Settings} {step : Float32} {left : ℚ}

/-- What a step leaves of the time is exact, and told from zero. -/
structure ExactAdvance (σ : Settings) (step : Float32) (t : Timer) : Prop where
  difference : ExactDifference t.remaining (t.advance σ step).1
  told : ∀ d, value? (t.remaining - (t.advance σ step).1) = some d → d ≠ 0 →
    σ.isZero (t.remaining - (t.advance σ step).1) = false

instance (σ : Settings) (step : Float32) (t : Timer) : Decidable (t.ExactAdvance σ step) :=
  decidable_of_iff (ExactDifference t.remaining (t.advance σ step).1 ∧
      ∀ d ∈ value? (t.remaining - (t.advance σ step).1), d ≠ 0 →
        σ.isZero (t.remaining - (t.advance σ step).1) = false)
    ⟨fun ⟨difference, told⟩ => ⟨difference, told⟩, fun ⟨difference, told⟩ => ⟨difference, told⟩⟩

/-- An exact step shortens the time by what is taken, and is done if it takes all. -/
theorem ExactAdvance.values (exact : t.ExactAdvance σ step) (forward : ¬ step < 0)
    (known : value? t.remaining = some left) (nonneg : 0 ≤ left) :
    ∃ τ, 0 ≤ τ ∧ τ ≤ left ∧ value? (t.advance σ step).1 = some τ ∧
      value? (t.advance σ step).2.remaining = some (left - τ) ∧
      ((t.advance σ step).2.done = true ↔ τ = left) := by
  obtain ⟨n, quanta, rfl⟩ := quanta_of_value known nonneg
  obtain ⟨m, taken, less⟩ := quanta_minNum_of_forward quanta forward
  obtain ⟨m, rfl⟩ := ENat.ne_top_iff_exists.mp (less.trans_lt (ENat.natCast_lt_top n)).ne
  have value : value? (t.advance σ step).1 = some (m * quantum) := value_of_quanta taken
  have shorter : (m * quantum : ℚ) ≤ n * quantum := by
    have less : m ≤ n := Nat.cast_le.mp less
    gcongr
    exact quantum_pos.le
  have remaining : value? (t.advance σ step).2.remaining =
      some (n * quantum - m * quantum : ℚ) := by
    have difference := exact.difference _ _ known value
    by_cases all : (n * quantum - m * quantum : ℚ) = 0
    · simp only [advance]
      split
      · rw [all]
        exact value_zero
      · exact difference
    · have told := exact.told _ difference all
      simp only [advance] at told difference ⊢
      rw [if_neg (Bool.eq_false_iff.mp told)]
      exact difference
  have done : (t.advance σ step).2.done = ((t.advance σ step).2.remaining == 0) := rfl
  refine ⟨m * quantum, mul_nonneg (Nat.cast_nonneg m) quantum_pos.le, shorter, value, remaining, ?_⟩
  rw [done, beq_zero_iff_value remaining (sub_nonneg.mpr shorter), sub_eq_zero, eq_comm]

/-- A timer starts with the whole of a duration that is not negative. -/
theorem value_start {duration : Float32} (known : value? duration = some left)
    (nonneg : 0 ≤ left) : value? (start duration).remaining = some left := by
  obtain ⟨n, quanta, -⟩ := quanta_of_value known nonneg
  have forward : (decide (duration < 0) || duration.isNaN) = false := by
    rw [isNaN_eq_false quanta, decide_eq_false (not_lt_zero quanta)]
    rfl
  simp only [start, forward]
  exact known

end Timer

/-! ## Health -/

/-- A scope in which the health of an entity is the initial one changed by what was asked for. -/
structure Scope.Stands (id : EntityId) (initial asked : ℤ) (health : Int32) (s : Scope) : Prop where
  found : s.entities.health? id = some health
  alive : 0 ≤ health
  counted : health.toInt = nearestHealth (initial + asked)

def IsHealth (n : ℤ) : Prop :=
  0 ≤ n ∧ n ≤ greatest32

namespace Flow

variable {f : Flow} {taken : Float32} {whole : Int32} {s : Scope} {id : EntityId} {health : Int32}
  {q d time τ : ℚ} {initial asked : ℤ}

theorem target_apply (whole : Int32) (s : Scope) : (f.apply whole s).1.target = f.target := by
  unfold apply
  split <;> rfl

theorem rate_apply (whole : Int32) (s : Scope) : (f.apply whole s).1.rate = f.rate := by
  unfold apply
  split <;> rfl

/-- The points that are passed on change the health of the target. -/
theorem health?_apply (target : f.target = some id) (found : s.entities.health? id = some health)
    (alive : 0 ≤ health) :
    (f.apply whole s).2.entities.health? id = some (changedHealth health whole) := by
  unfold apply
  split
  · rename_i none
    rw [none, changedHealth_zero alive]
    exact found
  · rw [target]
    show (s.entities.adjustHealth id whole).health? id = _
    rw [Entities.health?_adjustHealth, if_pos rfl, found]
    rfl

/-- Points in the same direction as those before add to them. -/
theorem stands_apply (target : f.target = some id) (stands : s.Stands id initial asked health)
    (range : IsHealth initial) (alongside : Alongside asked whole.toInt) :
    (f.apply whole s).2.Stands id initial (asked + whole.toInt) (changedHealth health whole) where
  found := health?_apply target stands.found stands.alive
  alive := changedHealth_nonneg health whole
  counted := by
    rw [toInt_changedHealth, stands.counted, nearestHealth_add range.1 range.2 alongside,
      Int.add_assoc]

/-! ## Points -/

/-- A flow at the rate `q` towards a target: what was asked for is what has come together, cut off,
and the rest is pending. -/
structure Carries (q time : ℚ) (asked : ℤ) (id : EntityId) (f : Flow) : Prop where
  target : f.target = some id
  rate : value? f.rate = some q
  pending : value? f.pending = some (q * time - asked)
  cut_off : asked = cut (q * time)

structure ExactPass (f : Flow) (taken : Float32) : Prop where
  product : ExactProduct f.rate taken
  sum : ExactSum f.pending (f.rate * taken)
  rest : ExactDifference (f.gather taken).pending (ofWhole (truncate (f.gather taken).pending))

instance (f : Flow) (taken : Float32) : Decidable (f.ExactPass taken) :=
  decidable_of_iff (ExactProduct f.rate taken ∧ ExactSum f.pending (f.rate * taken) ∧
      ExactDifference (f.gather taken).pending (ofWhole (truncate (f.gather taken).pending)))
    ⟨fun ⟨product, sum, rest⟩ => ⟨product, sum, rest⟩,
      fun ⟨product, sum, rest⟩ => ⟨product, sum, rest⟩⟩

theorem onward_mul {later : ℚ} (q : ℚ) (nonneg : 0 ≤ time) (forth : time ≤ later) :
    Onward (q * time) (q * later) := by
  rcases le_total 0 q with up | down
  · exact .up (mul_nonneg up nonneg) (mul_le_mul_of_nonneg_left forth up)
  · exact .down (mul_nonpos_of_nonpos_of_nonneg down nonneg) (mul_le_mul_of_nonpos_left forth down)

theorem abs_mul_le {later : ℚ} (q : ℚ) (nonneg : 0 ≤ time) (within : time ≤ later) :
    |q * time| ≤ |q * later| := by
  rw [abs_mul, abs_mul, abs_of_nonneg nonneg, abs_of_nonneg (nonneg.trans within)]
  gcongr

/-- What is pending is cut off and passed on. -/
theorem pending_pass {p : ℚ} (exact : f.ExactPass taken) (rate : value? f.rate = some q)
    (pending : value? f.pending = some p) (known : value? taken = some τ)
    (small : |p + q * τ| < 2 ^ 31) (s : Scope) :
    (truncate (f.gather taken).pending).toInt = cut (p + q * τ) ∧
      value? (f.pass taken s).1.pending = some (p + q * τ - cut (p + q * τ)) := by
  have gathered : value? (f.gather taken).pending = some (p + q * τ) :=
    exact.sum _ _ pending (exact.product _ _ rate known)
  have few : |cut (p + q * τ)| < 2 ^ 31 := by
    have bound := (abs_cut_le (p + q * τ)).trans_lt small
    exact_mod_cast bound
  have whole := toInt_truncate gathered few
  refine ⟨whole, ?_⟩
  unfold pass apply
  split
  · rename_i none
    rw [none] at whole
    rw [← whole, gathered]
    simp
  · have single := isSingle_cut gathered
    rw [← whole] at single
    have rest := exact.rest _ _ gathered (value_ofWhole single)
    rw [whole] at rest
    exact rest

/-- The points that are passed on as time passes bring what was asked for up to date. -/
theorem Carries.pass (carries : f.Carries q time asked id) (exact : f.ExactPass taken)
    (known : value? taken = some τ) (nonneg : 0 ≤ time) (forth : 0 ≤ τ)
    (small : |q * (time + τ)| < 2 ^ 31) (s : Scope) :
    let whole := truncate (f.gather taken).pending
    Alongside asked whole.toInt ∧
      (f.pass taken s).1.Carries q (time + τ) (asked + whole.toInt) id := by
  intro whole
  have onward := onward_mul q nonneg (le_add_of_nonneg_right forth : time ≤ time + τ)
  obtain ⟨sum, alongside, short⟩ := cut_onward onward
  have rest : q * time - asked + q * τ = q * (time + τ) - cut (q * time) := by
    rw [carries.cut_off]
    ring
  obtain ⟨points, pending⟩ := pending_pass exact carries.rate carries.pending known
    (by rw [rest]; exact short.trans_lt small) s
  rw [rest] at points pending
  have points : whole.toInt = cut (q * (time + τ) - cut (q * time)) := points
  rw [← points, ← carries.cut_off] at sum alongside
  refine ⟨alongside, (target_apply _ s).trans carries.target, ?_, ?_, sum⟩
  · exact (congrArg value? (rate_apply _ s)).trans carries.rate
  · rw [pending, ← points, carries.cut_off, Int.cast_add, sub_sub]

/-- The rounded rest brings what was asked for to the rounded product. -/
theorem Carries.finish (carries : f.Carries q d asked id) :
    Alongside asked (roundAway f.pending).toInt ∧
      asked + (roundAway f.pending).toInt = nearest (q * d) := by
  obtain ⟨sum, alongside, short⟩ := cut_add_nearest (q * d)
  rw [← carries.cut_off] at sum alongside short
  have rest := toInt_roundAway carries.pending (short.trans_lt (by norm_num))
  rw [rest]
  exact ⟨alongside, sum⟩

end Flow

/-! ## Updates -/

def Notice.time : Notice → ℚ
  | passed taken => (value? taken).getD 0
  | ended => 0

namespace Task

/-- The points by which a flow asks to change the health of its target at a notice. -/
def points : Task → Notice → Int32
  | healthOverTime _ _ flow, .passed taken => truncate (flow.gather taken).pending
  | healthOverTime _ _ flow, .ended => roundAway flow.pending
  | _, _ => 0

def requests : Task × Scope → List Notice → List Int32
  | _, [] => []
  | p, m :: rest => p.1.points m :: requests (meet p m) rest

def ExactTick (σ : Settings) (step : Float32) : Task → Prop
  | healthOverTime _ timer flow =>
    timer.done = false → timer.ExactAdvance σ step ∧ flow.ExactPass (timer.advance σ step).1
  | _ => True

instance (σ : Settings) (step : Float32) : (t : Task) → Decidable (t.ExactTick σ step)
  | healthOverTime _ timer flow =>
    inferInstanceAs (Decidable (timer.done = false →
      timer.ExactAdvance σ step ∧ flow.ExactPass (timer.advance σ step).1))
  | wait .. | deed .. | waitCheck .. | delegate .. => isTrue trivial

structure Pouring (q d time : ℚ) (asked : ℤ) (id : EntityId) (timer : Timer) (flow : Flow) :
    Prop where
  running : timer.done = false
  nonneg : 0 ≤ time
  within : time ≤ d
  remaining : value? timer.remaining = some (d - time)
  carries : flow.Carries q time asked id

/-- A flow that is through has asked for the rounded product. -/
structure Poured (q d time : ℚ) (asked : ℤ) (timer : Timer) : Prop where
  done : timer.done = true
  whole : time = d
  rounded : asked = nearest (q * d)

variable {c : HealthOverTimeConfig} {timer : Timer} {flow : Flow} {q d time : ℚ} {asked initial : ℤ}
  {id : EntityId} {health : Int32} {s : Scope} {step : Float32}

theorem time_passed {taken : Float32} {τ : ℚ} (known : value? taken = some τ) :
    Notice.time (.passed taken) = τ := by
  rw [Notice.time, known]
  rfl

/-- What an update makes of a flow that is under way. -/
theorem Pouring.update (pouring : Pouring q d time asked id timer flow) (small : |q * d| < 2 ^ 31)
    (exact : (healthOverTime c timer flow).ExactTick s.settings step) (forward : ¬ step < 0)
    (range : IsHealth initial) (stands : s.Stands id initial asked health) {ms : List Notice}
    (told : (healthOverTime c timer flow).notices step s.settings = ms) :
    let requested := requests (healthOverTime c timer flow, s) ms
    let asked' := asked + (requested.map Int32.toInt).sum
    let time' := time + (ms.map Notice.time).sum
    ∃ timer' flow', ((healthOverTime c timer flow).update step s).2.1 =
        healthOverTime c timer' flow' ∧
      ((healthOverTime c timer flow).update step s).2.2.Stands id initial asked'
        (requested.foldl changedHealth health) ∧
      (Pouring q d time' asked' id timer' flow' ∧ time' < d ∨ Poured q d time' asked' timer') := by
  obtain ⟨exactTime, exactPass⟩ := exact pouring.running
  obtain ⟨τ, forth, rest, known, remaining, ends⟩ :=
    exactTime.values forward pouring.remaining (sub_nonneg.mpr pouring.within)
  have within : time + τ ≤ d := by linarith
  have nonneg := add_nonneg pouring.nonneg forth
  have bound := (Flow.abs_mul_le q nonneg within).trans_lt small
  obtain ⟨alongside, carries⟩ :=
    pouring.carries.pass exactPass known pouring.nonneg forth bound s
  have stood : (flow.pass (timer.advance s.settings step).1 s).2.Stands id initial _ _ :=
    Flow.stands_apply pouring.carries.target stands range alongside
  have updated := update_of_running (t := healthOverTime c timer flow) step rfl pouring.running s
  rw [notices_of_running (t := healthOverTime c timer flow) rfl pouring.running] at updated told
  cases done : (timer.advance s.settings step).2.done with
  | false =>
    have early : ¬ τ = d - time := fun all => by simp [ends.mpr all] at done
    simp only [done, Bool.false_eq_true, if_false] at updated told
    subst told
    simp only [updated, requests, points, List.map, List.sum_cons, List.sum_nil, List.foldl,
      time_passed known, add_zero]
    refine ⟨_, _, rfl, stood, Or.inl ⟨⟨done, nonneg, within, ?_, carries⟩, ?_⟩⟩
    · rw [remaining, sub_sub]
    · exact lt_of_le_of_ne within fun all => early (by linarith)
  | true =>
    have all : time + τ = d := by
      have all := ends.mp done
      linarith
    rw [all] at carries
    obtain ⟨alongside', rounded⟩ := carries.finish
    have finished := Flow.stands_apply carries.target stood range alongside'
    simp only [done, if_true] at updated told
    subst told
    simp only [updated, requests, points, List.map, List.sum_cons, List.sum_nil, List.foldl,
      time_passed known, add_zero]
    refine ⟨_, _, rfl, ?_, Or.inr ⟨done, ?_, ?_⟩⟩
    · rw [Int.add_assoc] at finished
      exact finished
    · exact (congrArg (time + ·) (add_zero τ)).trans all
    · exact (Int.add_assoc ..).symm.trans rounded

end Task

/-! ## Flows in the hands of an owner -/

namespace Handle

/-- The points that a call asks for. -/
def requests (h : Handle) (ctx : Context) (c : Call) : List Int32 :=
  (h.upcoming? ctx).elim [] fun t => Task.requests (t, ctx.toScope) (h.notices ctx c)

def asked (h : Handle) (calls : List (Context × Call)) : ℤ :=
  ((h.log requests calls).map Int32.toInt).sum

def consumed (h : Handle) (calls : List (Context × Call)) : ℚ :=
  ((h.story calls).map Notice.time).sum

def healthLeft (id : EntityId) (health : Int32) (h : Handle) : List (Context × Call) → Int32
  | [] => health
  | (ctx, c) :: rest =>
    (h.call ctx c).1.healthLeft id (((h.call ctx c).2.entities.health? id).getD health) rest

/-- Each call finds an entity that exists, with the health that the call before has left. -/
def Undisturbed (id : EntityId) (health : Int32) (h : Handle) (calls : List (Context × Call)) :
    Prop :=
  ∀ earlier ctx c later, calls = earlier ++ (ctx, c) :: later →
    ctx.entities.health? id = some (h.healthLeft id health earlier)

def ExactTick (h : Handle) (ctx : Context) : Call → Prop
  | .update step => h.status = .active → ∀ t ∈ h.upcoming? ctx,
    t.ExactTick ctx.settings (if step < 0 then 0 else step)
  | _ => True

instance (h : Handle) (ctx : Context) : (c : Call) → Decidable (h.ExactTick ctx c)
  | .update step =>
    inferInstanceAs (Decidable (h.status = .active → ∀ t ∈ h.upcoming? ctx,
      t.ExactTick ctx.settings (if step < 0 then 0 else step)))
  | .activate | .deactivate | .reset | .enter | .leave | .check _ | .trigger _ =>
    isTrue trivial

variable {height : Nat} {n : Node (Behavior height)} {ctx : Context} {c : Call} {step : Float32}
  {config : HealthOverTimeConfig} {t : Task} {timer₀ timer : Timer} {flow₀ flow : Flow} {q d time : ℚ}
  {asked initial : ℤ} {id : EntityId} {health : Int32} {start : Handle}
  {calls : List (Context × Call)}

theorem healthLeft_snoc (id : EntityId) (health : Int32) (h : Handle)
    (calls : List (Context × Call)) (ctx : Context) (c : Call) :
    h.healthLeft id health (calls ++ [(ctx, c)]) =
      (((h.run calls).call ctx c).2.entities.health? id).getD (h.healthLeft id health calls) := by
  induction calls generalizing health h with
  | nil => rfl
  | cons p rest ih => exact ih _ _

theorem asked_snoc (h : Handle) (calls : List (Context × Call)) (ctx : Context) (c : Call) :
    h.asked (calls ++ [(ctx, c)]) =
      h.asked calls + (((h.run calls).requests ctx c).map Int32.toInt).sum := by
  rw [Handle.asked, log_snoc, List.map_append, List.sum_append, ← Handle.asked]

theorem consumed_snoc (h : Handle) (calls : List (Context × Call)) (ctx : Context) (c : Call) :
    h.consumed (calls ++ [(ctx, c)]) =
      h.consumed calls + (((h.run calls).notices ctx c).map Notice.time).sum := by
  rw [consumed, story, log_snoc, List.map_append, List.sum_append, ← story, ← consumed]

theorem Undisturbed.of_append {later : List (Context × Call)}
    (undisturbed : Undisturbed id health start (calls ++ later)) :
    Undisturbed id health start calls := by
  intro earlier ctx c rest split
  exact undisturbed earlier ctx c (rest ++ later) (by simp [split])

theorem Undisturbed.last (undisturbed : Undisturbed id health start (calls ++ [(ctx, c)])) :
    ctx.entities.health? id = some (start.healthLeft id health calls) :=
  undisturbed calls ctx c [] rfl

theorem undisturbed_nil : Undisturbed id health start [] := by
  intro earlier ctx c later split
  simp at split

theorem undisturbed_cons :
    Undisturbed id health start ((ctx, c) :: calls) ↔ ctx.entities.health? id = some health ∧
      Undisturbed id (((start.call ctx c).2.entities.health? id).getD health)
        (start.call ctx c).1 calls := by
  constructor
  · intro undisturbed
    exact ⟨undisturbed [] ctx c calls rfl, fun earlier ctx' c' later split =>
      undisturbed ((ctx, c) :: earlier) ctx' c' later (by rw [split, List.cons_append])⟩
  · rintro ⟨here, undisturbed⟩ earlier ctx' c' later split
    cases earlier with
    | nil =>
      cases split
      exact here
    | cons first earlier =>
      cases split
      exact undisturbed earlier ctx' c' later rfl

instance Undisturbed.decidable (id : EntityId) : (health : Int32) → (h : Handle) →
    (calls : List (Context × Call)) → Decidable (Undisturbed id health h calls)
  | _, _, [] => isTrue undisturbed_nil
  | health, h, (ctx, c) :: rest =>
    have := Undisturbed.decidable id (((h.call ctx c).2.entities.health? id).getD health)
      (h.call ctx c).1 rest
    decidable_of_iff _ undisturbed_cons.symm

/-- A granted update of a flow that is under way. -/
theorem pour (logic : n.logic = .task (.healthOverTime config timer₀ flow₀))
    (awake : n.active = true)
    (upcoming : n.upcoming (.healthOverTime config timer₀ flow₀) ctx.toScope =
      .healthOverTime config timer flow)
    (pouring : Task.Pouring q d time asked id timer flow) (small : |q * d| < 2 ^ 31)
    (exact : (live height (.behavior n)).ExactTick ctx (.update step)) (range : IsHealth initial)
    (stands : ctx.toScope.Stands id initial asked health) :
    let h := live height (.behavior n)
    let asked' := asked + ((h.requests ctx (.update step)).map Int32.toInt).sum
    let time' := time + ((h.notices ctx (.update step)).map Notice.time).sum
    ∃ timer' flow', (h.call ctx (.update step)).1 =
        live height (.behavior
          { n with begun := true, logic := .task (.healthOverTime config timer' flow') }) ∧
      (h.call ctx (.update step)).2.toScope.Stands id initial asked'
        ((h.requests ctx (.update step)).foldl changedHealth health) ∧
      (Task.Pouring q d time' asked' id timer' flow' ∧ time' < d ∨
        Task.Poured q d time' asked' timer') := by
  have lasting : n.Lasting config.duration (.healthOverTime config timer₀ flow₀) timer₀ :=
    ⟨logic, rfl, rfl⟩
  have active : (live height (.behavior n)).status = .active :=
    status_iff.mpr awake
  have runs : (live height (.behavior n)).upcoming? ctx =
      some (.healthOverTime config timer flow) := by
    rw [← upcoming]
    simp only [upcoming?, logic]
  have notices := notices_of_awake lasting awake ctx step
  have updated := update_of_awake lasting awake step ctx
  rw [upcoming] at notices updated
  have requested : (live height (.behavior n)).requests ctx (.update step) =
      Task.requests (.healthOverTime config timer flow, ctx.toScope)
        ((live height (.behavior n)).notices ctx (.update step)) := by
    rw [requests, runs]
    rfl
  obtain ⟨timer', flow', next, stands', phase⟩ :=
    pouring.update small (exact active _ runs) (not_clipped_lt step) range stands notices.symm
  rw [← requested] at stands' phase
  refine ⟨timer', flow', ?_, ?_, phase⟩
  · simp only [call, updated, next]
  · simp only [call, updated]
    exact stands'

/-- How a flow stands after some of the calls of a visit, from the first update on. -/
structure Flows (q d : ℚ) (id : EntityId) (health : Int32) (start : Handle)
    (calls : List (Context × Call)) (config : HealthOverTimeConfig) (n : Node (Behavior height))
    (timer : Timer) (flow : Flow) : Prop where
  held : start.run calls = live height (.behavior n)
  logic : n.logic = .task (.healthOverTime config timer flow)
  begun : n.begun = true
  alive : 0 ≤ start.healthLeft id health calls
  counted : (start.healthLeft id health calls).toInt =
    nearestHealth (health.toInt + start.asked calls)
  changed : start.healthLeft id health calls = (start.log requests calls).foldl changedHealth health
  phase : Task.Pouring q d (start.consumed calls) (start.asked calls) id timer flow ∧
      start.consumed calls < d ∨
    Task.Poured q d (start.consumed calls) (start.asked calls) timer

theorem isHealth_toInt (alive : 0 ≤ health) : IsHealth health.toInt :=
  ⟨Int32.le_iff_toInt_le.mp alive, toInt_le_greatest health⟩

/-- How a flow stands after an update that is granted. -/
theorem flows_of_pouring (calls : List (Context × Call))
    (held : start.run calls = live height (.behavior n))
    (logic : n.logic = .task (.healthOverTime config timer₀ flow₀)) (awake : n.active = true)
    (upcoming : n.upcoming (.healthOverTime config timer₀ flow₀) ctx.toScope =
      .healthOverTime config timer flow)
    (pouring : Task.Pouring q d (start.consumed calls) (start.asked calls) id timer flow)
    (small : |q * d| < 2 ^ 31) (alive : 0 ≤ health)
    (exact : (start.run calls).ExactTick ctx (.update step))
    (stands : ctx.toScope.Stands id health.toInt (start.asked calls)
      (start.healthLeft id health calls))
    (changed : start.healthLeft id health calls =
      (start.log requests calls).foldl changedHealth health) :
    ∃ n' : Node (Behavior height), ∃ timer' flow',
      Flows q d id health start (calls ++ [(ctx, .update step)]) config n' timer' flow' := by
  have held' := run_snoc start calls ctx (.update step)
  have left := healthLeft_snoc id health start calls ctx (.update step)
  have asked := asked_snoc start calls ctx (.update step)
  have consumed := consumed_snoc start calls ctx (.update step)
  have logged := log_snoc requests start calls ctx (.update step)
  rw [held] at held' left asked consumed logged exact
  obtain ⟨timer', flow', next, stands', phase⟩ :=
    pour logic awake upcoming pouring small exact (isHealth_toInt alive) stands
  have found : ((live height (.behavior n)).call ctx (.update step)).2.entities.health? id =
      some _ := stands'.found
  rw [next] at held'
  rw [found, Option.getD_some] at left
  refine ⟨_, timer', flow', held', rfl, rfl, ?_, ?_, ?_, ?_⟩
  · rw [left]
    exact stands'.alive
  · rw [left, asked]
    exact stands'.counted
  · rw [left, logged, List.foldl_append, ← changed]
  · rw [consumed, asked]
    exact phase

/-- A call without notices leaves a flow as it stands. -/
theorem Flows.keep {n' : Node (Behavior height)}
    (flows : Flows q d id health start calls config n timer flow)
    (held : start.run (calls ++ [(ctx, c)]) = live height (.behavior n'))
    (logic : n'.logic = .task (.healthOverTime config timer flow)) (begun : n'.begun = true)
    (found : ((start.run calls).call ctx c).2.entities.health? id =
      some (start.healthLeft id health calls))
    (none : (start.run calls).notices ctx c = []) :
    Flows q d id health start (calls ++ [(ctx, c)]) config n' timer flow := by
  have left := healthLeft_snoc id health start calls ctx c
  have asked := asked_snoc start calls ctx c
  have consumed := consumed_snoc start calls ctx c
  have logged := log_snoc requests start calls ctx c
  have silent : (start.run calls).requests ctx c = [] := by
    rw [requests, none]
    cases (start.run calls).upcoming? ctx <;> rfl
  rw [found, Option.getD_some] at left
  rw [silent, List.map_nil, List.sum_nil, add_zero] at asked
  rw [none, List.map_nil, List.sum_nil, add_zero] at consumed
  rw [silent, List.append_nil] at logged
  refine ⟨held, logic, begun, ?_, ?_, ?_, ?_⟩
  · rw [left]
    exact flows.alive
  · rw [left, asked]
    exact flows.counted
  · rw [left, logged]
    exact flows.changed
  · rw [consumed, asked]
    exact flows.phase

theorem Flows.call (flows : Flows q d id health start calls config n timer flow)
    (small : |q * d| < 2 ^ 31) (alive : 0 ≤ health) (continues : c.restarts = false)
    (found : ctx.entities.health? id = some (start.healthLeft id health calls))
    (exact : (start.run calls).ExactTick ctx c) :
    ∃ n' : Node (Behavior height), ∃ timer' flow',
      Flows q d id health start (calls ++ [(ctx, c)]) config n' timer' flow' := by
  have held := run_snoc start calls ctx c
  have lasting : n.Lasting config.duration (.healthOverTime config timer flow) timer :=
    ⟨flows.logic, rfl, rfl⟩
  rw [flows.held] at held
  by_cases granted : (live height (.behavior n)).Granted c
  · cases c with
    | update step =>
      have awake := granted_iff.mp granted
      have upcoming : n.upcoming (.healthOverTime config timer flow) ctx.toScope =
          .healthOverTime config timer flow := if_pos flows.begun
      rcases flows.phase with ⟨pouring, -⟩ | poured
      · exact flows_of_pouring calls flows.held flows.logic awake upcoming pouring small alive exact
          ⟨found, flows.alive, flows.counted⟩ flows.changed
      · have updated := update_of_awake lasting awake step ctx
        have notices := notices_of_awake lasting awake ctx step
        rw [upcoming, Task.update_of_done rfl poured.done] at updated
        rw [upcoming, Task.notices_of_done rfl poured.done, ← flows.held] at notices
        have same : ((live height (.behavior n)).call ctx (.update step)) = _ :=
          congrArg (·.2) updated
        rw [same] at held
        rw [← flows.held] at same
        exact ⟨_, timer, flow, flows.keep held rfl rfl (by rw [same]; exact found) notices⟩
    | _ => exact granted.elim
  · obtain ⟨⟨a, same⟩, still⟩ := call_of_idle ctx lasting continues granted
    rw [same] at held
    rw [← flows.held] at granted still
    exact ⟨_, timer, flow, flows.keep held flows.logic flows.begun (by rw [still.entities, found])
      (notices_of_idle granted)⟩

/-- Until the first update that is granted a flow stays as it is. -/
theorem run_of_not_updated {idle : List (Context × Call)}
    (logic : n.logic = .task (.healthOverTime config timer flow)) (continues : Continues idle)
    (first : ¬ (live height (.behavior n)).Updated idle) :
    ∃ a, (live height (.behavior n)).run idle = live height (.behavior { n with active := a }) := by
  induction idle using List.reverseRecOn with
  | nil => exact ⟨n.active, rfl⟩
  | append_singleton idle last ih =>
    obtain ⟨ctx, c⟩ := last
    rw [Updated, sometime_snoc, not_or] at first
    obtain ⟨a, same⟩ := ih continues.of_append first.1
    have lasting : ({ n with active := a } : Node (Behavior height)).Lasting config.duration
        (.healthOverTime config timer flow) timer := ⟨logic, rfl, rfl⟩
    have idle := first.2
    rw [same] at idle
    obtain ⟨⟨a', same'⟩, -⟩ := call_of_idle ctx lasting continues.last idle
    rw [run_snoc, same, same']
    exact ⟨a', rfl⟩

theorem stands_start (alive : 0 ≤ health) (found : ctx.entities.health? id = some health) :
    ctx.toScope.Stands id health.toInt 0 health where
  found := found
  alive := alive
  counted := by
    obtain ⟨least, most⟩ := isHealth_toInt alive
    rw [add_zero, nearestHealth_of_nonneg least most]

/-- The first update that is granted begins to pour. -/
theorem flows_first (logic : n.logic = .task (.healthOverTime config timer flow))
    (awake : n.active = true) (fresh : n.begun = false)
    (lasts : value? (config.duration.resolve ctx.vars) = some d) (nonneg : 0 ≤ d)
    (rate : value? (config.perSecond.resolve ctx.vars) = some q) (small : |q * d| < 2 ^ 31)
    (alive : 0 ≤ health)
    (found : ctx.entities.health? (config.target.resolve ctx.toScope) = some health)
    (exact : (live height (.behavior n)).ExactTick ctx (.update step)) :
    ∃ n' : Node (Behavior height), ∃ timer' flow',
      Flows q d (config.target.resolve ctx.toScope) health (live height (.behavior n))
        [(ctx, .update step)] config n' timer' flow' := by
  have exists_ : ctx.entities.exists? (config.target.resolve ctx.toScope) = true := by
    rw [Entities.exists?]
    rw [Entities.health?] at found
    obtain ⟨e, here, -⟩ := Option.map_eq_some_iff.mp found
    rw [here]
    rfl
  have upcoming : n.upcoming (.healthOverTime config timer flow) ctx.toScope =
      .healthOverTime config (.start (config.duration.resolve ctx.vars))
        { target := config.target.live? ctx.toScope
          rate := config.perSecond.resolve ctx.vars, pending := 0 } := by
    rw [Node.upcoming, fresh]
    rfl
  have begins : Task.Pouring q d 0 0 (config.target.resolve ctx.toScope)
      (.start (config.duration.resolve ctx.vars))
      { target := config.target.live? ctx.toScope
        rate := config.perSecond.resolve ctx.vars, pending := 0 } := by
    refine ⟨rfl, le_rfl, nonneg, ?_, ?_, rate, ?_, ?_⟩
    · rw [sub_zero]
      exact Timer.value_start lasts nonneg
    · simp only [Target.live?, exists_, if_true]
    · rw [mul_zero, Int.cast_zero, sub_zero]
      exact value_zero
    · rw [mul_zero, cut_zero]
  exact flows_of_pouring [] rfl logic awake upcoming begins small alive exact
    (stands_start alive found) rfl

/-- The calls after the first update that is granted. -/
theorem flows_run {later : List (Context × Call)}
    (logic : n.logic = .task (.healthOverTime config timer flow)) (awake : n.active = true)
    (fresh : n.begun = false)
    (lasts : value? (config.duration.resolve ctx.vars) = some d) (nonneg : 0 ≤ d)
    (rate : value? (config.perSecond.resolve ctx.vars) = some q) (small : |q * d| < 2 ^ 31)
    (alive : 0 ≤ health) (continues : Continues later)
    (undisturbed : Undisturbed (config.target.resolve ctx.toScope) health
      (live height (.behavior n)) ((ctx, .update step) :: later))
    (exact : Always ExactTick (live height (.behavior n)) ((ctx, .update step) :: later)) :
    ∃ n' : Node (Behavior height), ∃ timer' flow',
      Flows q d (config.target.resolve ctx.toScope) health (live height (.behavior n))
        ((ctx, .update step) :: later) config n' timer' flow' := by
  induction later using List.reverseRecOn with
  | nil =>
    exact flows_first logic awake fresh lasts nonneg rate small alive
      (undisturbed [] ctx (.update step) [] rfl) (exact [] ctx (.update step) [] rfl)
  | append_singleton later last ih =>
    rw [← List.cons_append] at undisturbed exact ⊢
    obtain ⟨before, here⟩ := always_snoc.mp exact
    obtain ⟨n', timer', flow', flows⟩ := ih continues.of_append undisturbed.of_append before
    exact flows.call small alive continues.last undisturbed.last here

/-- What a flow at the rate `q` for the duration `d` has come to after some calls. -/
structure ComesTo (q d : ℚ) (id : EntityId) (health : Int32) (start : Handle)
    (calls : List (Context × Call)) : Prop where
  /-- The health of the target is what the points that were asked for make of it. -/
  changed : start.healthLeft id health calls = (start.log requests calls).foldl changedHealth health
  /-- The flow is through once the time comes to the duration. -/
  stops : (start.run calls).canStop? = some true ↔ start.consumed calls = d
  goes : (start.run calls).canStop? = some false ↔ start.consumed calls < d
  /-- Then the health has changed by the rounded product. -/
  whole : (start.run calls).canStop? = some true →
    (start.healthLeft id health calls).toInt = nearestHealth (health.toInt + nearest (q * d))
  /-- Before, the points are the product of the rate and the time so far, cut off. -/
  part : (start.run calls).canStop? = some false →
    start.asked calls = cut (q * start.consumed calls)

theorem Flows.comesTo (flows : Flows q d id health start calls config n timer flow) :
    ComesTo q d id health start calls := by
  have stop : (start.run calls).canStop? = some timer.done := by
    rw [flows.held, canStop?, Node.canStop, flows.logic]
    rfl
  have counted := flows.counted
  rcases flows.phase with ⟨pouring, early⟩ | poured
  · rw [pouring.running] at stop
    refine ⟨flows.changed, ?_, ?_, ?_, fun _ => pouring.carries.cut_off⟩
    · exact iff_of_false (by simp [stop]) early.ne
    · exact iff_of_true stop early
    · simp [stop]
  · rw [poured.done] at stop
    refine ⟨flows.changed, iff_of_true stop poured.whole, ?_, ?_, ?_⟩
    · exact iff_of_false (by simp [stop]) poured.whole.not_lt
    · intro _
      rw [counted, poured.rounded]
    · simp [stop]

end Handle

/-- A flow of health comes to one change by the rounded product of its rate and its duration,
however the time is cut into updates, if the arithmetic is exact and nobody else changes the health
of the target. -/
theorem flows_come_to_one_change (h : Handle) (config : HealthOverTimeConfig) (timer : Timer)
    (flow : Flow) (held : h.task? = some (.healthOverTime config timer flow))
    (ctx₀ ctx₁ : Context) (step₁ : Float32) (idle later : List (Context × Handle.Call))
    (continues : Handle.Continues (idle ++ (ctx₁, .update step₁) :: later))
    (begins : (h.reset ctx₀).1.Begins idle) (q d : ℚ)
    (lasts : value? (config.duration.resolve ctx₁.vars) = some d) (nonneg : 0 ≤ d)
    (rate : value? (config.perSecond.resolve ctx₁.vars) = some q) (small : |q * d| < 2 ^ 31)
    (health : Int32) (alive : 0 ≤ health)
    (undisturbed : Handle.Undisturbed (config.target.resolve ctx₁.toScope) health
      ((h.reset ctx₀).1.run idle) ((ctx₁, .update step₁) :: later))
    (exact : Handle.Always Handle.ExactTick ((h.reset ctx₀).1.run idle)
      ((ctx₁, .update step₁) :: later)) :
    Handle.ComesTo q d (config.target.resolve ctx₁.toScope) health ((h.reset ctx₀).1.run idle)
      ((ctx₁, .update step₁) :: later) := by
  obtain ⟨height, n, t, rfl, logic, -⟩ := Handle.exists_of_duration (p := config.duration)
    (by rw [Handle.duration?, held]; rfl)
  obtain rfl : t = .healthOverTime config timer flow := by
    simpa only [Handle.task?, logic, Option.some.injEq] using held
  have entered := Handle.reset_of_task logic ctx₀
  rw [entered] at begins undisturbed exact ⊢
  obtain ⟨a, waited⟩ := Handle.run_of_not_updated rfl continues.of_append begins.first
  have awake := begins.awake
  rw [waited] at awake undisturbed exact ⊢
  have later_continues : Handle.Continues later := fun p within =>
    continues p (List.mem_append_right idle (List.mem_cons_of_mem _ within))
  obtain ⟨n', timer', flow', flows⟩ := Handle.flows_run rfl (Handle.status_iff.mp awake)
    rfl lasts nonneg rate small alive later_continues undisturbed exact
  exact flows.comesTo

def drain : Handle :=
  .live 0 (.behavior
    { active := true
      logic := .task (.healthOverTime
        { duration := .literal 1, perSecond := .literal (-5 / 2), target := .owner }
        default default) })

def drainPlace (health : Int32) : Context where
  entities := { table := (∅ : Table EntityId Entity).insert ⟨1⟩ (.actor health .origin) }
  owner := ⟨1⟩
  tag := .forCast ⟨1⟩ 0
  vars := ∅

def drainCalls : List (Context × Handle.Call) :=
  [(drainPlace 100, .update (1 / 4)), (drainPlace 100, .update (1 / 2)), (drainPlace 99, .update 1)]

/-- In the end the health is less by three points, two and a half rounded away from zero. -/
theorem flows_come_to_one_change_of_drain :
    (Handle.healthLeft ⟨1⟩ 100 (drain.reset (drainPlace 100)).1 drainCalls).toInt = 97 := by
  have continues : Handle.Continues drainCalls := by
    simp [Handle.Continues, drainCalls, Handle.Call.restarts]
  have begins : (drain.reset (drainPlace 100)).1.Begins [] :=
    ⟨by decide +kernel, Handle.not_sometime_nil⟩
  have undisturbed : Handle.Undisturbed ⟨1⟩ 100 (drain.reset (drainPlace 100)).1 drainCalls := by
    decide +kernel
  have exact : Handle.Always Handle.ExactTick (drain.reset (drainPlace 100)).1 drainCalls := by
    decide +kernel
  have comes : Handle.ComesTo (-5 / 2) 1 ⟨1⟩ 100 (drain.reset (drainPlace 100)).1 drainCalls :=
    flows_come_to_one_change drain _ _ _ rfl (drainPlace 100) (drainPlace 100) (1 / 4) [] _
      continues begins (-5 / 2) 1 (by decide +kernel) (by norm_num) (by decide +kernel)
      (by norm_num) 100 (by decide) undisturbed exact
  rw [comes.whole (by decide +kernel)]
  decide +kernel

end SkillScript
