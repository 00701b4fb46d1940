import SkillScript.Proofs.Timing.Schedule
import SkillScript.Proofs.Tree.Effects
/-!
# Updates keep to the schedule

Where a plain tree stands is known from how long it has run. An update takes it to
where it stands after the step, and what the update leaves over is what the step
exceeds the length of the tree by. A child that gets through within the step hands the
rest on, so the next child starts at its own time in the schedule and not with the
step.
-/
set_option autoImplicit false
namespace SkillScript

open Number

/-! ## Timers -/

namespace Timer

variable {σ : Settings} {t : Timer} {step : Float32} {r : ℕ∞} {δ : Nat}

theorem advance_taken (known : quanta? step = some (δ : ℕ∞))
    (counting : quanta? t.remaining = some r) :
    quanta? (t.advance σ step).1 = some (min (δ : ℕ∞) r) :=
  quanta_minNum known counting

theorem advance_remaining :
    (t.advance σ step).2.remaining =
      if σ.isZero (t.remaining - (t.advance σ step).1) then 0
      else t.remaining - (t.advance σ step).1 :=
  rfl

theorem advance_done : (t.advance σ step).2.done = ((t.advance σ step).2.remaining == 0) :=
  rfl

/-- A timer whose time exceeds the step goes on. -/
theorem advance_of_lt (known : quanta? step = some (δ : ℕ∞))
    (counting : quanta? t.remaining = some r) (less : δ < r) (single : IsSingle (r - δ))
    (told : σ.Tells (r - δ)) :
    (t.advance σ step).2.done = false ∧ quanta? (t.advance σ step).2.remaining = some (r - δ) := by
  have taken := advance_taken (σ := σ) known counting
  rw [min_eq_left less.le] at taken
  have left : quanta? (t.remaining - (t.advance σ step).1) = some (r - δ) :=
    quanta_sub counting taken less.le (ENat.natCast_ne_top δ) single
  have positive : ¬ (t.remaining - (t.advance σ step).1 == 0) = true := by
    rw [beq_zero_iff left]
    exact (tsub_pos_of_lt less).ne'
  rw [advance_done, advance_remaining, if_neg (Bool.eq_false_iff.mp (told _ left))]
  exact ⟨Bool.eq_false_iff.mpr positive, left⟩

/-- A timer whose time is within the step is done. -/
theorem advance_of_le (known : quanta? step = some (δ : ℕ∞))
    (counting : quanta? t.remaining = some r) (more : r ≤ δ) :
    (t.advance σ step).2.done = true := by
  have taken := advance_taken (σ := σ) known counting
  rw [min_eq_right more] at taken
  have finite : r ≠ ⊤ := (more.trans_lt (ENat.natCast_lt_top δ)).ne
  have left : quanta? (t.remaining - (t.advance σ step).1) = some 0 :=
    quanta_sub_self counting taken finite
  rw [advance_done, advance_remaining]
  split
  · rfl
  · exact (beq_zero_iff left).mpr rfl

/-- What a timer does not take of a step is what the step exceeds its time by. -/
theorem advance_leaves (known : quanta? step = some (δ : ℕ∞))
    (counting : quanta? t.remaining = some r) (single : r ≤ δ → IsSingle (δ - r)) :
    quanta? (atLeastZero (step - (t.advance σ step).1)) = some (δ - r) := by
  have taken := advance_taken (σ := σ) known counting
  have finite : min (δ : ℕ∞) r ≠ ⊤ :=
    ((min_le_left _ _).trans_lt (ENat.natCast_lt_top δ)).ne
  have left : quanta? (step - (t.advance σ step).1) = some (δ - min (δ : ℕ∞) r) := by
    refine quanta_sub known taken (min_le_left _ _) finite ?_
    rcases le_total r δ with more | less
    · rw [min_eq_right more]
      exact single more
    · rw [min_eq_left less, tsub_self]
      exact isSingle_zero
  rw [atLeastZero_eq left, left]
  rcases le_total r δ with more | less
  · rw [min_eq_right more]
  · rw [min_eq_left less, tsub_self, tsub_eq_zero_of_le less]

end Timer

/-! ## Tasks -/

/-- Where something stands after a step, and what is left over of the step: what it exceeds the
length by. -/
structure OnTime {α : Type} (At : Phase → α → Prop) (length : ℕ∞) (p : Phase) (δ : Nat)
    (left : Float32) (a : α) : Prop where
  here : At (.after (p.elapsed + δ)) a
  left : p.Going length → quanta? left = some ((p.elapsed + δ : Nat) - length)

/-- What a step makes of a span that is under way. -/
theorem Exact.wait {σ : Settings} {start e δ : Nat} {d : ℕ∞}
    (exact : Exact σ [⟨start, d⟩] (start + e : Nat) (start + (e + δ) : Nat)) (going : e ≤ d) :
    (δ < d - e → IsSingle (d - e - δ) ∧ σ.Tells (d - e - δ)) ∧
      (d - e ≤ δ → IsSingle (δ - (d - e))) := by
  have remaining := exact.remaining _ (List.mem_singleton_self _)
  have surplus := exact.surplus _ (List.mem_singleton_self _)
  cases d with
  | top =>
    simp only [Span.finish, add_top, ENat.top_sub_natCast] at remaining ⊢
    refine ⟨fun _ => remaining (by simp) (ENat.natCast_lt_top _), fun less => ?_⟩
    exact absurd less (ENat.natCast_lt_top δ).not_ge
  | coe n =>
    simp only [Span.finish] at remaining surplus
    norm_cast at *
    have rest : start + n - (start + (e + δ)) = n - e - δ := by omega
    have more : start + (e + δ) - (start + n) = δ - (n - e) := by omega
    rw [rest] at remaining
    rw [more] at surplus
    exact ⟨fun less => remaining (by omega) (by omega),
      fun less => surplus (by omega) (by omega)⟩

namespace Task

variable {t : Task} {step : Float32} {δ start : Nat}

theorem hooks_eq_nil (plain : t.Plain) : t.hooks = [] := by
  cases t with
  | delegate number host finished => exact absurd plain id
  | _ => rfl

theorem quanta_duration {c : WaitConfig} (nonneg : 0 ≤ c.duration.default) :
    quanta? c.duration.default = some c.length := by
  obtain ⟨n, known⟩ := quanta_of_le quanta_zero nonneg
  rw [WaitConfig.length, known]
  rfl

theorem remaining_start {d : Float32} {n : ℕ∞} (known : quanta? d = some n) :
    (Timer.start d).remaining = d := by
  simp only [Timer.start, not_lt_zero known, isNaN_eq_false known, decide_false, Bool.or_self,
    Bool.false_eq_true, if_false]

/-- A wait that is under way. -/
theorem update_wait {c : WaitConfig} {timer : Timer} {s : Scope} {e : Nat}
    (running : timer.done = false) (going : e ≤ c.length)
    (counting : quanta? timer.remaining = some (c.length - e))
    (known : quanta? step = some (δ : ℕ∞))
    (exact : Exact s.settings [⟨start, c.length⟩] (start + e : Nat) (start + (e + δ) : Nat)) :
    ((wait c timer).update step s).2.1.At (.after (e + δ)) ∧
      quanta? ((wait c timer).update step s).1 = some ((e + δ : Nat) - c.length) := by
  obtain ⟨remaining, surplus⟩ := exact.wait going
  have leaves := Timer.advance_leaves (σ := s.settings) known counting surplus
  rw [sub_sub_of_le going] at leaves
  simp only [update, running, Bool.false_eq_true, if_false]
  refine ⟨⟨?_, fun less => ?_⟩, leaves⟩
  · rw [← sub_le_iff]
    rcases lt_or_ge (δ : ℕ∞) (c.length - e) with less | more
    · obtain ⟨single, told⟩ := remaining less
      have still := (Timer.advance_of_lt known counting less single told).1
      exact iff_of_false (Bool.eq_false_iff.mp still) less.not_ge
    · exact iff_of_true (Timer.advance_of_le known counting more) more
  · rw [← not_le, ← sub_le_iff, not_le] at less
    obtain ⟨single, told⟩ := remaining less
    rw [(Timer.advance_of_lt known counting less single told).2, tsub_tsub, Nat.cast_add]

theorem onTime_begin (plain : t.Plain) (s : Scope) {s' : Scope}
    (known : quanta? step = some (δ : ℕ∞))
    (exact : Exact s'.settings (t.spans start) start (start + δ : Nat)) :
    OnTime At t.length .entered δ ((t.begin s).1.update step s').1
      ((t.begin s).1.update step s').2.1 := by
  cases t with
  | wait c timer =>
    obtain ⟨literal, nonneg⟩ := plain
    have duration := quanta_duration nonneg
    have resolved : c.duration.resolve s.vars = c.duration.default := by
      rw [Param.resolve, literal]
    have counting : quanta? (Timer.start (c.duration.resolve s.vars)).remaining =
        some (c.length - (0 : Nat)) := by
      rw [resolved, remaining_start duration, duration, Nat.cast_zero, tsub_zero]
    rw [← Nat.zero_add δ] at exact
    obtain ⟨here, left⟩ := update_wait rfl zero_le counting known exact
    exact ⟨here, fun _ => left⟩
  | deed d => exact ⟨trivial, fun _ => known.trans (by simp [length, Phase.elapsed])⟩
  | _ => exact absurd plain id

theorem onTime_update {e : Nat} (plain : t.Plain) (here : t.At (.after e)) {s : Scope}
    (known : quanta? step = some (δ : ℕ∞))
    (exact : Exact s.settings (t.spans start) (start + e : Nat) (start + (e + δ) : Nat)) :
    OnTime At t.length (.after e) δ (t.update step s).1 (t.update step s).2.1 := by
  cases t with
  | wait c timer =>
    obtain ⟨through, counting⟩ := here
    cases running : timer.done with
    | true =>
      have passed := through.mp running
      have longer : (e : ℕ∞) ≤ (e + δ : Nat) := Nat.cast_le.mpr (Nat.le_add_right e δ)
      simp only [update, running, if_true]
      refine ⟨⟨iff_of_true running (passed.trans longer), fun less => ?_⟩, fun going => ?_⟩
      · exact absurd less (passed.trans longer).not_gt
      · exact absurd going passed.not_gt
    | false =>
      have going : e < c.length :=
        not_le.mp fun passed => Bool.eq_false_iff.mp running (through.mpr passed)
      obtain ⟨here, left⟩ := update_wait running going.le (counting going) known exact
      exact ⟨here, fun _ => left⟩
  | deed d => exact ⟨trivial, fun going => absurd going not_lt_bot⟩
  | _ => exact absurd plain id

end Task

/-! ## Trees -/

class Punctual (β : Type) [Behaves β] [Lasting β] [Ordered β] [Holding β] [Timed β] : Prop where
  hooks_eq_nil {b : β} (plain : Timed.Plain b) : Holding.hooks b = []
  at_enter (ctx : Context) {b : β} (plain : Timed.Plain b) :
    Timed.At .entered (Behaves.enter ctx b).1
  canStop_iff {b : β} {e : Nat} (plain : Timed.Plain b) (here : Timed.At (.after e) b) :
    canStop b = true ↔ Timed.length b ≤ e
  canStop_deactivate (ctx : Context) {b : β} (plain : Timed.Plain b) :
    canStop (Behaves.deactivate ctx b).1 = canStop b
  onTime_update {b : β} {p : Phase} {step : Float32} {δ start : Nat} {ctx : Context}
    (plain : Timed.Plain b) (here : Timed.At p b) (known : quanta? step = some (δ : ℕ∞))
    (exact : Exact ctx.settings (Timed.spans start b) (start + p.elapsed : Nat)
      (start + (p.elapsed + δ) : Nat)) :
    OnTime Timed.At (Timed.length b) p δ (Behaves.update step ctx b).1
      (Behaves.update step ctx b).2.1

instance : Punctual Empty where
  hooks_eq_nil {b} := nomatch b
  at_enter _ b := nomatch b
  canStop_iff {b} := nomatch b
  canStop_deactivate _ b := nomatch b
  onTime_update {b} := nomatch b

theorem survives_settings (σ : Settings) : Survives (fun s => s.settings = σ) [] where
  publish _ _ _ same := same
  listeners _ _ same := same
  vars _ _ same := same
  adjustHealth _ _ _ same := same
  spawn _ _ same := same
  onBegin _ member := absurd member List.not_mem_nil
  onUpdate _ member := absurd member List.not_mem_nil

variable {β : Type} [Behaves β] [Lasting β] [Ordered β] [Holding β] [Timed β] [Punctual β]
  {σ : Settings} {step : Float32} {δ : Nat} {p : Phase}

structure Updated (b : β) (p : Phase) (δ : Nat) (σ : Settings) (ran : Float32 × β × Context) :
    Prop where
  onTime : OnTime Timed.At (Timed.length b) p δ ran.1 ran.2.1
  stops : canStop ran.2.1 = true ↔ Timed.length b ≤ (p.elapsed + δ : Nat)
  settings : ran.2.2.settings = σ
  same : pristine ran.2.1 = pristine b

namespace Updated

variable {b b' : β} {ran : Float32 × β × Context}

omit [Ordered β] [Holding β] [Punctual β] in
theorem congr (updated : Updated b' p δ σ ran) (same : pristine b' = pristine b) :
    Updated b p δ σ ran where
  onTime := by
    rw [← Timed.length_congr same]
    exact updated.onTime
  stops := by
    rw [← Timed.length_congr same]
    exact updated.stops
  settings := updated.settings
  same := updated.same.trans same

omit [Ordered β] [Holding β] [Punctual β] in
theorem length_rested (updated : Updated b p δ σ ran) :
    Timed.length (Behaves.deactivate ran.2.2 ran.2.1).1 = Timed.length b :=
  Timed.length_congr ((Lasting.pristine_deactivate ran.2.2 ran.2.1).trans updated.same)

omit [Ordered β] [Holding β] [Punctual β] in
theorem settings_rested [Behaves.Quiet β] (updated : Updated b p δ σ ran) :
    (Behaves.deactivate ran.2.2 ran.2.1).2.settings = σ :=
  (Context.settings_eq_of_mute (Behaves.Quiet.mute_deactivate ran.2.2 ran.2.1)).trans
    updated.settings

end Updated

theorem Timed.updated [Effective β] {b : β} {ctx : Context} {start : Nat} (plain : Plain b)
    (here : At p b) (known : quanta? step = some (δ : ℕ∞))
    (exact : Exact ctx.settings (spans start b) (start + p.elapsed : Nat)
      (start + (p.elapsed + δ) : Nat)) :
    Updated b p δ ctx.settings (Behaves.update step ctx b) where
  onTime := Punctual.onTime_update plain here known exact
  stops := by
    have same : pristine (Behaves.update step ctx b).2.1 = pristine b :=
      Lasting.pristine_update step ctx b
    rw [← length_congr same]
    exact Punctual.canStop_iff (plain.congr same)
      (Punctual.onTime_update plain here known exact).here
  settings := by
    have survives : Survives (fun s => s.settings = ctx.settings) (Holding.hooks b) := by
      rw [Punctual.hooks_eq_nil plain]
      exact survives_settings ctx.settings
    exact Effective.update_keeps step ctx b survives rfl
  same := Lasting.pristine_update step ctx b

namespace Sequence

/-- The first of some children that is to run stands at a phase, if it was started. -/
def Standing (started : Bool) (p : Phase) : List β → Prop
  | [] => True
  | c :: _ => if started then Timed.At p c ∧ p.Going (Timed.length c) else p = .entered

omit [Ordered β] [Holding β] [Punctual β] in
theorem standing_entered (l : List β) : Standing false .entered l := by
  cases l with
  | nil => trivial
  | cons c rest => rfl

theorem at_ready {started : Bool} {c : β} {rest : List β} (plain : Timed.Plain c)
    (standing : Standing started p (c :: rest)) (ctx : Context) :
    Timed.At p (ready started ctx c).1 ∧ p.Going (Timed.length c) := by
  cases started with
  | true => exact standing
  | false =>
    obtain rfl : p = .entered := standing
    exact ⟨Punctual.at_enter ctx plain, trivial⟩

omit [Lasting β] [Ordered β] [Holding β] [Timed β] [Punctual β] in
theorem settings_ready [Behaves.Quiet β] (started : Bool) (ctx : Context) (c : β) :
    (ready started ctx c).2.settings = ctx.settings := by
  cases started with
  | true => rfl
  | false => exact Context.settings_eq_of_mute (Behaves.mute_enter ctx c)

variable [Effective β] [Behaves.Quiet β]

theorem updated_ready {started : Bool} {ctx : Context} {c : β} {rest : List β} {start : Nat}
    (plain : Timed.Plain c) (standing : Standing started p (c :: rest))
    (known : quanta? step = some (δ : ℕ∞))
    (exact : Exact ctx.settings (Timed.spans start c) (start + p.elapsed : Nat)
      (start + (p.elapsed + δ) : Nat)) :
    Updated c p δ ctx.settings
      (Behaves.update step (ready started ctx c).2 (ready started ctx c).1) := by
  have same := pristine_ready started ctx c
  have settings := settings_ready started ctx c
  rw [← settings, ← Timed.spans_congr same] at exact
  rw [← settings]
  exact (Timed.updated (plain.congr same) (at_ready plain standing ctx).1 known exact).congr same

/-- Children that get through within a step hand the rest of it on; the one that goes on leaves
nothing. -/
theorem run_onTime {started : Bool} {ctx : Context} {l : List β} {start : Nat}
    (plain : ∀ c ∈ l, Timed.Plain c) (standing : Standing started p l)
    (known : quanta? step = some (δ : ℕ∞))
    (exact : Exact ctx.settings (spans start l) (start + p.elapsed : Nat)
      (start + (p.elapsed + δ) : Nat)) :
    Reached (p.elapsed + δ) (run started step ctx l).2.1 (run started step ctx l).2.2.1 ∧
      (p.Going (total l) →
        quanta? (run started step ctx l).1 = some ((p.elapsed + δ : Nat) - total l)) := by
  induction l generalizing started p step δ start ctx with
  | nil =>
    refine ⟨trivial, fun going => ?_⟩
    cases p with
    | entered => exact known.trans (by simp [total, Phase.elapsed])
    | after e => exact absurd going not_lt_bot
  | cons c rest ih =>
    obtain ⟨plain, plainly⟩ := List.forall_mem_cons.mp plain
    rw [spans] at exact
    have updated := updated_ready plain standing known
      (exact.mono (List.subset_append_left ..) le_rfl)
    have going := (at_ready plain standing ctx).2
    rw [run_cons]
    dsimp only
    generalize Behaves.update step (ready started ctx c).2 (ready started ctx c).1 = ran at updated
    by_cases through : Timed.length c ≤ (p.elapsed + δ : Nat)
    · obtain ⟨n, length⟩ := ENat.ne_top_iff_exists.mp
        (through.trans_lt (ENat.natCast_lt_top _)).ne
      have before : p.elapsed ≤ n := Nat.cast_le.mp (length ▸ going.elapsed_le)
      have within : n ≤ p.elapsed + δ := Nat.cast_le.mp (length ▸ through)
      have onward := updated.onTime.left going
      rw [← length, ← ENat.natCast_sub] at onward
      -- The next child starts when this one is through, in the middle of the step.
      have tail : Exact (Behaves.deactivate ran.2.2 ran.2.1).2.settings
          (spans (start + n : Nat) rest) (start + n : Nat)
          (start + n + (0 + (p.elapsed + δ - n)) : Nat) := by
        have finish : start + n + (0 + (p.elapsed + δ - n)) = start + (p.elapsed + δ) := by omega
        rw [updated.settings_rested, finish, Nat.cast_add start n, length]
        refine exact.mono (List.subset_append_right ..) ?_
        rw [← length, ← Nat.cast_add]
        exact Nat.cast_le.mpr (Nat.add_le_add_left before start)
      obtain ⟨reached, left⟩ := ih (p := .entered) plainly (standing_entered rest) onward tail
      rw [Phase.elapsed, Nat.zero_add] at reached left
      rw [if_pos (updated.stops.mpr through)]
      refine ⟨⟨n, updated.length_rested.trans length.symm, within, reached⟩, fun _ => ?_⟩
      rw [left trivial, total_cons, ← length, ENat.natCast_sub, tsub_add_eq_tsub_tsub]
    · rw [if_neg fun stop => through (updated.stops.mp stop)]
      have longer := not_le.mp through
      refine ⟨⟨?_, updated.onTime.here⟩, fun _ => ?_⟩
      · rwa [Timed.length_congr updated.same]
      · rw [total_cons, tsub_eq_zero_of_le (longer.le.trans le_self_add)]
        exact quanta_zero

/-- The children before an index are through and are passed over. -/
theorem run_drop_onTime {ctx : Context} {l : List β} {i e start : Nat}
    (plain : ∀ c ∈ l, Timed.Plain c) (reached : Reached e i l)
    (known : quanta? step = some (δ : ℕ∞))
    (exact : Exact ctx.settings (spans start l) (start + e : Nat) (start + (e + δ) : Nat)) :
    Reached (e + δ) (i + (run true step ctx (l.drop i)).2.1)
        (l.take i ++ (run true step ctx (l.drop i)).2.2.1) ∧
      (e < total l →
        quanta? (run true step ctx (l.drop i)).1 = some ((e + δ : Nat) - total l)) := by
  induction i generalizing l e start with
  | zero =>
    have standing : Standing true (.after e) l := by
      cases l with
      | nil => trivial
      | cons c rest => exact ⟨reached.2, reached.1⟩
    rw [Nat.zero_add, List.take_zero, List.nil_append, List.drop_zero]
    exact run_onTime plain standing known exact
  | succ i ih =>
    cases l with
    | nil => exact absurd reached id
    | cons c rest =>
      obtain ⟨n, length, within, reached⟩ := reached
      rw [spans, length] at exact
      have tail : Exact ctx.settings (spans (start + n : Nat) rest) (start + n + (e - n) : Nat)
          (start + n + (e - n + δ) : Nat) := by
        have since : start + n + (e - n) = start + e := by omega
        have finish : start + n + (e - n + δ) = start + (e + δ) := by omega
        rw [since, finish, Nat.cast_add start n]
        exact exact.mono (List.subset_append_right ..) le_rfl
      obtain ⟨later, left⟩ :=
        ih (fun b member => plain b (List.mem_cons_of_mem _ member)) reached tail
      have sum : e - n + δ = e + δ - n := by omega
      rw [sum] at later left
      rw [List.drop_succ_cons, List.take_succ_cons, List.cons_append, Nat.succ_add]
      refine ⟨⟨n, length, within.trans (Nat.le_add_right e δ), later⟩, fun going => ?_⟩
      rw [total_cons, length] at going ⊢
      rw [← not_le, add_le_iff within, not_le] at going
      rw [left going, ENat.natCast_sub, tsub_add_eq_tsub_tsub]

theorem onTime_onUpdate {ctx : Context} {s : Sequence β} {start : Nat}
    (plain : ∀ c ∈ s.children, Timed.Plain c) (here : s.At p)
    (known : quanta? step = some (δ : ℕ∞))
    (exact : Exact ctx.settings (spans start s.children) (start + p.elapsed : Nat)
      (start + (p.elapsed + δ) : Nat)) :
    OnTime At (total s.children) p δ (s.onUpdate step ctx).1 (s.onUpdate step ctx).2.1 := by
  cases p with
  | entered =>
    obtain ⟨first, fresh⟩ := here
    have standing : Standing s.started .entered s.children := by
      cases started : s.started with
      | false => exact standing_entered s.children
      | true =>
        cases children : s.children with
        | nil => trivial
        | cons c rest => exact ⟨fresh started c (by rw [children]; rfl), trivial⟩
    obtain ⟨reached, left⟩ := run_onTime plain standing known exact
    refine ⟨⟨rfl, ?_⟩, ?_⟩
    · simpa [onUpdate, first] using reached
    · simpa [onUpdate, first] using left
  | after e =>
    obtain ⟨started, reached⟩ := here
    obtain ⟨later, left⟩ := run_drop_onTime plain reached known exact
    rw [← started] at later left
    exact ⟨⟨rfl, later⟩, left⟩

omit [Ordered β] [Holding β] [Punctual β] [Effective β] [Behaves.Quiet β] in
/-- All children are through just if the time they take is over. -/
theorem length_le_iff {l : List β} {i e : Nat} (reached : Reached e i l) :
    l.length ≤ i ↔ total l ≤ e := by
  induction l generalizing i e with
  | nil => simp [total]
  | cons c rest ih =>
    rw [total_cons]
    cases i with
    | zero =>
      have longer : (e : ℕ∞) < Timed.length c + total rest := reached.1.trans_le le_self_add
      exact iff_of_false (Nat.not_succ_le_zero _) longer.not_ge
    | succ i =>
      obtain ⟨n, length, within, reached⟩ := reached
      rw [length, add_le_iff within, ← ih reached]
      exact Nat.succ_le_succ_iff

omit [Effective β] [Behaves.Quiet β] in
theorem at_start {s : Sequence β} (ctx : Context) (plain : ∀ c ∈ s.children, Timed.Plain c)
    (first : s.index = 0) : (s.start ctx).1.At .entered := by
  refine ⟨first, fun _ c head => ?_⟩
  simp only [start, first] at head
  cases children : s.children with
  | nil =>
    rw [children] at head
    cases head
  | cons d rest =>
    rw [children] at head
    cases head
    exact Punctual.at_enter ctx (plain d (by simp [children]))

end Sequence

namespace Parallel

omit [Ordered β] [Holding β] [Punctual β] in
theorem longest_cons (lane : Lane β) (rest : List (Lane β)) :
    longest (lane :: rest) = max (Timed.length lane.child) (longest rest) :=
  rfl

omit [Ordered β] [Holding β] [Punctual β] in
theorem spans_cons (start : ℕ∞) (lane : Lane β) (rest : List (Lane β)) :
    spans start (lane :: rest) = Timed.spans start lane.child ++ spans start rest :=
  rfl

omit [Ordered β] [Holding β] [Punctual β] in
theorem at_of_finished {l : Lane β} (finished : l.finished = true) (here : l.At p) :
    Timed.length l.child ≤ p.elapsed ∧ ∀ δ, l.At (.after (p.elapsed + δ)) := by
  cases p with
  | entered => exact absurd (finished.symm.trans here.1) (by decide)
  | after e =>
    have passed := here.1.mp finished
    have longer (δ : Nat) : (e : ℕ∞) ≤ (e + δ : Nat) := Nat.cast_le.mpr (Nat.le_add_right e δ)
    exact ⟨passed, fun δ =>
      ⟨iff_of_true finished (passed.trans (longer δ)), fun open' => by simp [finished] at open'⟩⟩

omit [Ordered β] [Holding β] [Punctual β] in
theorem at_of_running {l : Lane β} (running : l.finished = false) (here : l.At p) :
    Timed.At p l.child ∧ p.Going (Timed.length l.child) := by
  cases p with
  | entered => exact ⟨here.2, trivial⟩
  | after e =>
    exact ⟨here.2 running, not_le.mp fun passed => by simp [here.1.mpr passed] at running⟩

variable [Effective β] [Behaves.Quiet β]

/-- The least of what the lanes leave over is what the step exceeds the longest of them by. -/
theorem run_onTime {least : Float32} {m : ℕ∞} {ctx : Context} {l : List (Lane β)} {start : Nat}
    (plain : ∀ lane ∈ l, Timed.Plain lane.child) (here : ∀ lane ∈ l, lane.At p)
    (known : quanta? step = some (δ : ℕ∞)) (longer : p.elapsed ≤ m)
    (rest : quanta? least = some ((p.elapsed + δ : Nat) - m))
    (exact : Exact ctx.settings (spans start l) (start + p.elapsed : Nat)
      (start + (p.elapsed + δ) : Nat)) :
    (∀ lane ∈ (run step least ctx l).2.1, lane.At (.after (p.elapsed + δ))) ∧
      quanta? (run step least ctx l).1 = some ((p.elapsed + δ : Nat) - max m (longest l)) := by
  induction l generalizing least m ctx with
  | nil =>
    refine ⟨fun lane member => absurd member List.not_mem_nil, ?_⟩
    rw [longest, List.map_nil, List.foldr_nil, max_eq_left zero_le]
    exact rest
  | cons lane others ih =>
    obtain ⟨plain, plainly⟩ := List.forall_mem_cons.mp plain
    obtain ⟨here, thereafter⟩ := List.forall_mem_cons.mp here
    rw [spans_cons] at exact
    rw [run_cons, longest_cons, ← max_assoc]
    have apart (a : ℕ∞) : (p.elapsed + δ : Nat) - max m a =
        min ((p.elapsed + δ : Nat) - m) ((p.elapsed + δ : Nat) - a) := by
      rcases le_total m a with less | more
      · rw [max_eq_right less, min_eq_right (tsub_le_tsub_left less _)]
      · rw [max_eq_left more, min_eq_left (tsub_le_tsub_left more _)]
    by_cases finished : lane.finished = true
    · obtain ⟨passed, stays⟩ := at_of_finished finished here
      obtain ⟨later, left⟩ :=
        ih plainly thereafter longer rest (exact.mono (List.subset_append_right ..) le_rfl)
      rw [if_pos finished, max_eq_left (passed.trans longer)]
      exact ⟨List.forall_mem_cons.mpr ⟨stays δ, later⟩, left⟩
    · obtain ⟨now, going⟩ := at_of_running (Bool.eq_false_iff.mpr finished) here
      have updated := Timed.updated plain now known
        (exact.mono (List.subset_append_left ..) le_rfl)
      have share := updated.onTime.left going
      have tail := exact.mono (List.subset_append_right ..) le_rfl
      rw [if_neg finished]
      dsimp only
      generalize Behaves.update step ctx lane.child = ran at updated share
      by_cases through : Timed.length lane.child ≤ (p.elapsed + δ : Nat)
      · have less := quanta_minNum rest share
        rw [← apart] at less
        rw [← updated.settings_rested] at tail
        obtain ⟨later, left⟩ := ih plainly thereafter (longer.trans (le_max_left _ _)) less tail
        rw [if_pos (updated.stops.mpr through)]
        refine ⟨List.forall_mem_cons.mpr ⟨⟨?_, fun running => ?_⟩, later⟩, left⟩
        · rw [updated.length_rested]
          exact iff_of_true rfl through
        · exact absurd running.symm Bool.false_ne_true
      · have nothing : quanta? 0 =
            some ((p.elapsed + δ : Nat) - max m (Timed.length lane.child)) := by
          rw [tsub_eq_zero_of_le ((not_le.mp through).le.trans (le_max_right _ _))]
          exact quanta_zero
        rw [← updated.settings] at tail
        obtain ⟨later, left⟩ :=
          ih plainly thereafter (longer.trans (le_max_left _ _)) nothing tail
        rw [if_neg fun stop => through (updated.stops.mp stop)]
        refine ⟨List.forall_mem_cons.mpr ⟨⟨?_, fun _ => updated.onTime.here⟩, later⟩, left⟩
        rw [Timed.length_congr updated.same]
        exact iff_of_false Bool.false_ne_true through

omit [Effective β] [Behaves.Quiet β] in
theorem at_start {q : Parallel β} (ctx : Context) (plain : ∀ l ∈ q.lanes, Timed.Plain l.child) :
    (q.start ctx).1.At .entered := by
  intro _ l member
  obtain ⟨l', inside, ctx', rfl⟩ := mem_actAll member
  obtain ⟨l'', inside', rfl⟩ := List.mem_map.mp inside
  exact ⟨rfl, Punctual.at_enter ctx' (plain l'' inside')⟩

omit [Effective β] [Behaves.Quiet β] in
theorem at_ready {q : Parallel β} (ctx : Context) (plain : ∀ l ∈ q.lanes, Timed.Plain l.child)
    (here : q.At p) :
    (q.ready ctx).1.started = true ∧ ∀ l ∈ (q.ready ctx).1.lanes, l.At p := by
  cases p with
  | entered =>
    rw [ready]
    split
    · rename_i started
      exact ⟨started, here started⟩
    · exact ⟨rfl, at_start ctx plain rfl⟩
  | after e =>
    rw [ready, if_pos here.1]
    exact here

omit [Lasting β] [Ordered β] [Holding β] [Timed β] [Punctual β] [Effective β] in
theorem settings_ready (ctx : Context) (q : Parallel β) :
    (q.ready ctx).2.settings = ctx.settings := by
  rw [ready]
  split
  · rfl
  · exact Context.settings_eq_of_mute (q.mute_start ctx)

theorem onTime_onUpdate {ctx : Context} {q : Parallel β} {start : Nat}
    (plain : ∀ l ∈ q.lanes, Timed.Plain l.child) (here : q.At p)
    (known : quanta? step = some (δ : ℕ∞))
    (exact : Exact ctx.settings (spans start q.lanes) (start + p.elapsed : Nat)
      (start + (p.elapsed + δ) : Nat)) :
    OnTime At (longest q.lanes) p δ (q.onUpdate step ctx).1 (q.onUpdate step ctx).2.1 := by
  obtain ⟨started, lanes⟩ := at_ready ctx plain here
  have same : (Logic.parallel (q.ready ctx).1).pristine = (Logic.parallel q).pristine := by
    simp only [Logic.pristine, pristine_ready]
  have plain' : (Logic.parallel (q.ready ctx).1).Plain := Logic.Plain.congr same plain
  have length : longest (q.ready ctx).1.lanes = longest q.lanes := Logic.length_congr same
  have spans' : spans start (q.ready ctx).1.lanes = spans start q.lanes :=
    Logic.spans_congr same start
  have whole : quanta? step = some ((p.elapsed + δ : Nat) - (p.elapsed : ℕ∞)) := by
    rw [known, ← ENat.natCast_sub, Nat.add_sub_cancel_left]
  rw [← settings_ready ctx q, ← spans'] at exact
  obtain ⟨later, left⟩ := run_onTime plain' lanes known le_rfl whole exact
  have at_later : (q.onUpdate step ctx).2.1.At (.after (p.elapsed + δ)) := ⟨started, later⟩
  refine ⟨at_later, fun going => ?_⟩
  rwa [length, max_eq_right going.elapsed_le] at left

omit [Ordered β] [Holding β] [Punctual β] [Effective β] [Behaves.Quiet β] in
theorem canStop_iff {q : Parallel β} {e : Nat} (here : q.At (.after e)) :
    q.canStop = true ↔ longest q.lanes ≤ e := by
  rw [longest_le_iff, canStop, List.all_eq_true]
  exact forall₂_congr fun l member => (here.2 l member).1

end Parallel

namespace Logic

omit [Ordered β] [Holding β] [Punctual β] in
theorem canStop_iff {l : Logic β} {e : Nat} (plain : l.Plain) (here : l.At (.after e)) :
    l.canStop = true ↔ l.length ≤ e := by
  cases l with
  | task t =>
    cases t with
    | wait c timer => exact here.1
    | deed d => exact iff_of_true rfl zero_le
    | _ => exact absurd plain id
  | sequence s => exact decide_eq_true_iff.trans (Sequence.length_le_iff here.2)
  | parallel q => exact Parallel.canStop_iff here
  | machine m => exact absurd plain id

omit [Ordered β] [Holding β] [Punctual β] in
theorem canStop_onDeactivate (ctx : Context) {l : Logic β} (plain : l.Plain) :
    (l.onDeactivate ctx).1.canStop = l.canStop := by
  cases l with
  | task t => rfl
  | sequence s =>
    simp only [onDeactivate, canStop, Sequence.canStop, Sequence.onDeactivate, length_actAt]
  | parallel q =>
    have finished : (actAll (Lane.act Behaves.deactivate) ctx q.lanes).1.map Lane.finished =
        q.lanes.map Lane.finished := map_actAll (fun _ _ => rfl) ctx q.lanes
    have same := congrArg (List.all · id) finished
    rw [List.all_map, List.all_map] at same
    exact same
  | machine m => exact absurd plain id

theorem hooks_eq_nil {l : Logic β} (plain : l.Plain) : l.hooks = [] := by
  cases l with
  | task t => exact t.hooks_eq_nil plain
  | sequence s =>
    exact List.flatMap_eq_nil_iff.mpr fun c member => Punctual.hooks_eq_nil (plain c member)
  | parallel q =>
    exact List.flatMap_eq_nil_iff.mpr fun l member => Punctual.hooks_eq_nil (plain l member)
  | machine m => exact absurd plain id

theorem at_enter {l : Logic β} (ctx ctx' : Context) (plain : l.Plain) :
    (l.onReset ctx).1.At .entered ∧ ((l.onReset ctx).1.onActivate ctx').1.At .entered := by
  have plain' : (l.onReset ctx).1.Plain := Plain.congr (l.pristine_onReset ctx) plain
  cases l with
  | task t => exact ⟨trivial, trivial⟩
  | sequence s =>
    exact ⟨⟨rfl, fun started => absurd started Bool.false_ne_true⟩,
      Sequence.at_start ctx' plain' rfl⟩
  | parallel q =>
    exact ⟨fun started => absurd started Bool.false_ne_true, Parallel.at_start ctx' plain'⟩
  | machine m => exact absurd plain id

variable [Effective β] [Behaves.Quiet β] {l : Logic β} {ctx : Context} {start : Nat}

theorem onTime_onUpdate {e : Nat} (plain : l.Plain) (here : l.At (.after e))
    (known : quanta? step = some (δ : ℕ∞))
    (exact : Exact ctx.settings (l.spans start) (start + e : Nat) (start + (e + δ) : Nat)) :
    OnTime At l.length (.after e) δ (l.onUpdate step ctx).1 (l.onUpdate step ctx).2.1 := by
  cases l with
  | task t =>
    obtain ⟨later, left⟩ := Task.onTime_update plain here known exact
    exact ⟨later, left⟩
  | sequence s =>
    obtain ⟨later, left⟩ := Sequence.onTime_onUpdate (p := .after e) plain here known exact
    exact ⟨later, left⟩
  | parallel q =>
    obtain ⟨later, left⟩ := Parallel.onTime_onUpdate (p := .after e) plain here known exact
    exact ⟨later, left⟩
  | machine m => exact absurd plain id

/-- The first update after a reset. -/
theorem onTime_onBegin (plain : l.Plain) (here : l.At .entered)
    (known : quanta? step = some (δ : ℕ∞))
    (exact : Exact ctx.settings (l.spans start) start (start + (0 + δ) : Nat)) :
    OnTime At l.length .entered δ ((l.onBegin ctx).1.onUpdate step (l.onBegin ctx).2).1
      ((l.onBegin ctx).1.onUpdate step (l.onBegin ctx).2).2.1 := by
  cases l with
  | task t =>
    have survives : Survives (fun s => s.settings = ctx.settings) t.hooks := by
      rw [t.hooks_eq_nil plain]
      exact survives_settings ctx.settings
    have kept : (t.begin ctx.toScope).2.settings = ctx.settings :=
      Task.begin_keeps survives.toEndures rfl
    rw [← kept, Nat.zero_add] at exact
    obtain ⟨later, left⟩ := Task.onTime_begin plain ctx.toScope known exact
    exact ⟨later, left⟩
  | sequence s =>
    obtain ⟨later, left⟩ := Sequence.onTime_onUpdate (p := .entered) plain here known exact
    exact ⟨later, left⟩
  | parallel q =>
    obtain ⟨later, left⟩ := Parallel.onTime_onUpdate (p := .entered) plain here known exact
    exact ⟨later, left⟩
  | machine m => exact absurd plain id

end Logic

variable [Effective β] [Behaves.Quiet β]

instance Node.punctual : Punctual (Node β) where
  hooks_eq_nil plain := Logic.hooks_eq_nil plain
  at_enter ctx n plain := by
    obtain ⟨rested, woken⟩ := Logic.at_enter ctx (n.reset ctx).2 plain
    show Timed.At .entered ((n.reset ctx).1.activate (n.reset ctx).2).1
    unfold activate
    split
    · rename_i active
      exact ⟨active, iff_of_true rfl rfl, rested⟩
    · exact ⟨rfl, iff_of_true rfl rfl, woken⟩
  canStop_iff plain here := Logic.canStop_iff plain here.2.2
  canStop_deactivate ctx n plain := by
    show (n.deactivate ctx).1.logic.canStop = n.logic.canStop
    unfold deactivate
    split
    · exact Logic.canStop_onDeactivate ctx plain
    · rfl
  onTime_update {n p step δ start ctx} plain here known exact := by
    obtain ⟨active, begun, here⟩ := here
    have positive : (if step < 0 then 0 else step) = step := if_neg (not_lt_zero known)
    show OnTime _ _ _ _ (n.update step ctx).1 (n.update step ctx).2.1
    rw [update, if_pos active, positive]
    cases p with
    | entered =>
      obtain ⟨later, left⟩ := Logic.onTime_onBegin plain here known exact
      have fresh := begun.mpr rfl
      simp only [begin, fresh, Bool.false_eq_true, if_false]
      exact ⟨⟨active, by simp, later⟩, left⟩
    | after e =>
      obtain ⟨later, left⟩ := Logic.onTime_onUpdate plain here known exact
      have past : n.begun = true := by simpa using begun
      simp only [begin, past, if_true]
      exact ⟨⟨active, by simp, later⟩, left⟩

instance Behavior.punctual : (height : Nat) → Punctual (Behavior height)
  | 0 => inferInstanceAs (Punctual Empty)
  | height + 1 =>
    have := punctual height
    inferInstanceAs (Punctual (Node (Behavior height)))

end SkillScript
