import SkillScript.Proofs.Status.Finality
import SkillScript.Proofs.Tree.Conditions
/-!
# The end of the logic of a state

Between two resets a state is woken, put to rest, updated, triggered and checked, in
any order. Its logic ends at one moment or not at all: in the first update that finds
the state active and leaves its behavior with nothing left to do. There and nowhere
else the state publishes its end event; before that, no check looks at a transition,
so nothing that the transitions count or measure moves; and after that the logic stays
ended, whatever else the behavior does.
-/
set_option autoImplicit false
namespace SkillScript

/-! ## What transitions count and measure -/

def Sensor.clock? : Sensor → Option Float32
  | elapsed _ t => some t
  | _ => none

namespace Transition

/-- Everything of a transition that a check moves on its own: its interval, how often its condition
was asked, and the clocks in that condition. -/
structure Counters where
  period : Float32
  cooldown : Float32
  evaluations : Nat
  clocks : List (Option Float32)

def counters (t : Transition) : Counters where
  period := t.period
  cooldown := t.cooldown
  evaluations := t.evaluations
  clocks := t.condition.readings Sensor.clock?

theorem counters_activate (ctx : Context) (t : Transition) :
    (t.activate ctx).1.counters = t.counters := by
  unfold activate
  split
  · rfl
  · have clocks : (t.condition.activate ctx).1.readings Sensor.clock? =
        t.condition.readings Sensor.clock? := by
      refine Condition.readings_activate (fun bus x => ?_) ctx t.condition
      cases x with
      | event name ownerOnly receiver fired => cases receiver <;> rfl
      | _ => rfl
    simp only [counters, clocks]

theorem counters_deactivate (ctx : Context) (t : Transition) :
    (t.deactivate ctx).1.counters = t.counters := by
  unfold deactivate
  split
  · have clocks : (t.condition.deactivate ctx).1.readings Sensor.clock? =
        t.condition.readings Sensor.clock? := by
      refine Condition.readings_deactivate (fun bus x => ?_) ctx t.condition
      cases x with
      | event name ownerOnly receiver fired => cases receiver <;> rfl
      | _ => rfl
    simp only [counters, clocks]
  · rfl

theorem counters_onTrigger (tag : String) (t : Transition) :
    (t.onTrigger tag).counters = t.counters := by
  unfold onTrigger
  split
  · have clocks : (t.condition.onTrigger tag).readings Sensor.clock? =
        t.condition.readings Sensor.clock? := by
      refine Condition.readings_onTrigger (fun x => ?_) t.condition
      cases x <;> rfl
    simp only [counters, clocks]
  · rfl

end Transition

namespace State

/-! ## Visits -/

inductive Call where
  | activate
  | deactivate
  | update (step : Float32)
  | check (step : Float32)
  | trigger (tag : String)

variable {β : Type} [Behaves β]

def call (ctx : Context) (s : State β) : Call → State β × Context
  | .activate => s.activate ctx
  | .deactivate => s.deactivate ctx
  | .update step => s.update step ctx
  | .check step => (s.checkTransitions step ctx).2
  | .trigger tag => (s.onTrigger tag, ctx)

def visit (s : State β) : List (Context × Call) → State β
  | [] => s
  | (ctx, c) :: rest => (s.call ctx c).1.visit rest

/-- An update is granted and leaves the behavior, if there is one, with nothing to do. -/
structure Concludes (s : State β) (step : Float32) (ctx : Context) : Prop where
  granted : s.active = true
  done : ∀ b ∈ s.behavior, canStop (Behaves.update step ctx b).2.1 = true

def Concluded (s : State β) (calls : List (Context × Call)) : Prop :=
  ∃ earlier ctx step later, calls = earlier ++ (ctx, .update step) :: later ∧
    (s.visit earlier).Concludes step ctx

/-- What an update of the state makes of the context through its behavior. -/
def contextAfter (s : State β) (step : Float32) (ctx : Context) : Context :=
  if s.active then s.behavior.elim ctx fun b => (Behaves.update step ctx b).2.2 else ctx.refuse

def announce (event : Option String) (ctx : Context) : Context :=
  event.elim ctx fun name => ctx.publish name ∅

/-! ## One call -/

variable {s : State β}

theorem fst_runBehavior (step : Float32) (ctx : Context) (o : Option β) :
    (runBehavior step ctx o).1 = true ↔
      ∀ b ∈ o, canStop (Behaves.update step ctx b).2.1 = true := by
  cases o with
  | none => exact iff_of_true rfl nofun
  | some b => simp [runBehavior]

theorem ended_update (step : Float32) (ctx : Context) :
    (s.update step ctx).1.ended = true ↔ s.ended = true ∨ s.Concludes step ctx := by
  unfold update
  split
  · rename_i granted
    have concludes : s.Concludes step ctx ↔ (runBehavior step ctx s.behavior).1 = true := by
      rw [fst_runBehavior]
      exact ⟨fun concludes => concludes.done, fun done => ⟨granted, done⟩⟩
    rw [concludes]
    dsimp only
    split
    · rename_i ends
      simp only [Bool.and_eq_true] at ends
      simp [ends.1]
    · rename_i goes
      rw [Bool.and_eq_true, Bool.not_eq_true'] at goes
      cases ended : s.ended <;> simp_all
  · rename_i refused
    refine ⟨Or.inl, ?_⟩
    rintro (ended | concludes)
    · exact ended
    · exact absurd concludes.granted refused

omit [Behaves β] in
theorem ended_checkTransitions (step : Float32) (ctx : Context) :
    (s.checkTransitions step ctx).2.1.ended = s.ended := by
  unfold checkTransitions
  split <;> rfl

/-- Only an update that concludes changes whether the logic has ended. -/
theorem ended_call (ctx : Context) (c : Call) :
    (s.call ctx c).1.ended = true ↔
      s.ended = true ∨ ∃ step, c = .update step ∧ s.Concludes step ctx := by
  cases c with
  | update step =>
    refine (ended_update step ctx).trans (or_congr_right ?_)
    constructor
    · intro concludes
      exact ⟨step, rfl, concludes⟩
    · rintro ⟨_, same, concludes⟩
      cases same
      exact concludes
  | activate =>
    have kept : (s.activate ctx).1.ended = s.ended := by
      unfold activate
      split <;> rfl
    simp [call, kept]
  | deactivate =>
    have kept : (s.deactivate ctx).1.ended = s.ended := by
      unfold deactivate
      split <;> rfl
    simp [call, kept]
  | check step => simp [call, ended_checkTransitions]
  | trigger tag =>
    have kept : (s.onTrigger tag).ended = s.ended := by
      unfold onTrigger
      split <;> rfl
    simp [call, kept]

theorem endEvent_call (ctx : Context) (c : Call) : (s.call ctx c).1.endEvent = s.endEvent := by
  cases c with
  | activate =>
    simp only [call, activate]
    split <;> rfl
  | deactivate =>
    simp only [call, deactivate]
    split <;> rfl
  | update step =>
    simp only [call, update]
    split
    · split <;> rfl
    · rfl
  | check step =>
    simp only [call, checkTransitions]
    split <;> rfl
  | trigger tag =>
    simp only [call, onTrigger]
    split <;> rfl

/-- What an update makes of the context is the work of the behavior, and behind it the end event if
the logic ends with this update. -/
theorem snd_update (step : Float32) (ctx : Context) :
    (s.ended = false ∧ s.Concludes step ctx →
      (s.update step ctx).2 = announce s.endEvent (s.contextAfter step ctx)) ∧
    (s.ended = true ∨ ¬ s.Concludes step ctx →
      (s.update step ctx).2 = s.contextAfter step ctx) := by
  have ran : (runBehavior step ctx s.behavior).2.2 =
      s.behavior.elim ctx fun b => (Behaves.update step ctx b).2.2 := by
    cases s.behavior <;> rfl
  have done := fst_runBehavior step ctx s.behavior
  constructor
  · rintro ⟨goes, concludes⟩
    have finished := done.mpr concludes.done
    simp only [update, contextAfter, concludes.granted, if_true, finished, goes, ran, Bool.not_false,
      Bool.and_self]
    cases s.endEvent <;> rfl
  · intro silent
    unfold update contextAfter
    split
    · rename_i granted
      have quiet : ((runBehavior step ctx s.behavior).1 && !s.ended) = false := by
        rcases silent with ended | goes
        · simp [ended]
        · have unfinished : (runBehavior step ctx s.behavior).1 = false := by
            by_contra finished
            exact goes ⟨granted, done.mp (Bool.not_eq_false _ ▸ finished)⟩
          simp [unfinished]
      dsimp only
      rw [if_neg (by simp [quiet])]
      exact ran
    · rfl

omit [Behaves β] in
/-- Until the logic has ended, a check does nothing at all. -/
theorem checkTransitions_of_not_ended (goes : s.ended = false) (step : Float32) (ctx : Context) :
    s.checkTransitions step ctx = (none, s, ctx) := by
  unfold checkTransitions
  rw [if_neg (by simp [goes])]

/-- Until the logic has ended, no call moves what the transitions count and measure. -/
theorem counters_call (goes : s.ended = false) (ctx : Context) (c : Call) :
    (s.call ctx c).1.transitions.map Transition.counters =
      s.transitions.map Transition.counters := by
  cases c with
  | activate =>
    simp only [call, activate]
    split
    · rfl
    · exact map_actAll Transition.counters_activate _ _
  | deactivate =>
    simp only [call, deactivate]
    split
    · exact map_actAll Transition.counters_deactivate _ _
    · rfl
  | update step =>
    simp only [call, update]
    split
    · split <;> rfl
    · rfl
  | check step => rw [call, checkTransitions_of_not_ended goes]
  | trigger tag =>
    simp only [call, onTrigger]
    split
    · simp only [List.map_map]
      exact List.map_congr_left fun t _ => t.counters_onTrigger tag
    · rfl

/-- Nothing but an update of the state changes a variable or an entity or publishes an event. -/
theorem same_call [Behaves.Quiet β] (ctx : Context) {c : Call}
    (other : ∀ step, c ≠ .update step) : (s.call ctx c).2.Same ctx := by
  cases c with
  | activate => exact Context.same_of_mute (s.mute_activate ctx)
  | deactivate => exact Context.same_of_mute (s.mute_deactivate ctx)
  | update step => exact absurd rfl (other step)
  | check step =>
    simp only [call, checkTransitions]
    split
    · exact Context.same_of_pardon (Transition.pardon_checkFirst step ctx s.transitions)
    · exact ⟨rfl, rfl, rfl⟩
  | trigger tag => exact ⟨rfl, rfl, rfl⟩

/-! ## A visit -/

theorem not_concluded_nil : ¬ s.Concluded [] := by
  rintro ⟨earlier, ctx, step, later, split, -⟩
  simp at split

theorem concluded_cons (ctx : Context) (c : Call) (rest : List (Context × Call)) :
    s.Concluded ((ctx, c) :: rest) ↔
      (∃ step, c = .update step ∧ s.Concludes step ctx) ∨ (s.call ctx c).1.Concluded rest := by
  constructor
  · rintro ⟨earlier, ctx', step, later, split, concludes⟩
    cases earlier with
    | nil =>
      cases split
      exact .inl ⟨step, rfl, concludes⟩
    | cons first earlier =>
      cases split
      exact .inr ⟨earlier, ctx', step, later, rfl, concludes⟩
  · rintro (⟨step, rfl, concludes⟩ | ⟨earlier, ctx', step, later, rfl, concludes⟩)
    · exact ⟨[], ctx, step, rest, rfl, concludes⟩
    · exact ⟨(ctx, c) :: earlier, ctx', step, later, rfl, concludes⟩

theorem ended_visit (calls : List (Context × Call)) :
    (s.visit calls).ended = true ↔ s.ended = true ∨ s.Concluded calls := by
  induction calls generalizing s with
  | nil => simp [visit, not_concluded_nil]
  | cons p rest ih =>
    obtain ⟨ctx, c⟩ := p
    rw [visit, ih, ended_call, concluded_cons, or_assoc]

theorem endEvent_visit (calls : List (Context × Call)) :
    (s.visit calls).endEvent = s.endEvent := by
  induction calls generalizing s with
  | nil => rfl
  | cons p rest ih => rw [visit, ih, endEvent_call]

theorem counters_visit (calls : List (Context × Call)) (goes : (s.visit calls).ended = false) :
    (s.visit calls).transitions.map Transition.counters =
      s.transitions.map Transition.counters := by
  induction calls generalizing s with
  | nil => rfl
  | cons p rest ih =>
    obtain ⟨ctx, c⟩ := p
    have before : s.ended = false := by
      by_contra ended
      have ends := (ended_visit ((ctx, c) :: rest)).mpr (.inl (Bool.not_eq_false _ ▸ ended))
      rw [goes] at ends
      cases ends
    rw [visit, ih goes, counters_call before]

end State

/-- The logic of a state, at a point of a visit that began with a reset. -/
structure State.Ending {β : Type} [Behaves β] (entered now : State β)
    (before : List (Context × State.Call)) (ctx : Context) : Prop where
  /-- The logic has ended if one of the updates has concluded, and not otherwise. -/
  ended : now.ended = true ↔ entered.Concluded before
  /-- The first update that concludes publishes the end event, behind what the behavior does. -/
  announces (step : Float32) (first : ¬ entered.Concluded before)
    (concludes : now.Concludes step ctx) :
    (now.update step ctx).2 = announce entered.endEvent (now.contextAfter step ctx)
  /-- All other updates do no more than the behavior does. -/
  adds (step : Float32) (other : entered.Concluded before ∨ ¬ now.Concludes step ctx) :
    (now.update step ctx).2 = now.contextAfter step ctx
  /-- All other calls change no variable and no entity and publish nothing. -/
  silent (c : State.Call) (other : ∀ step, c ≠ .update step) : (now.call ctx c).2.Same ctx
  /-- Until then checks do nothing. -/
  waits (step : Float32) (first : ¬ entered.Concluded before) :
    now.checkTransitions step ctx = (none, now, ctx)
  /-- Until then the transitions count and measure nothing. -/
  still (first : ¬ entered.Concluded before) :
    now.transitions.map Transition.counters = entered.transitions.map Transition.counters

/-- Whatever a state was before it is reset, and whatever it is asked to do then: its logic ends in
the first update that is granted and leaves its behavior with nothing to do, and with that update
alone it publishes its end event; before that, checks do nothing. -/
theorem logic_ends_once {height : Nat} (s : State (Behavior height)) (ctx₀ : Context)
    (before : List (Context × State.Call)) (ctx : Context) :
    State.Ending (s.reset ctx₀).1 ((s.reset ctx₀).1.visit before) before ctx := by
  have ended : ((s.reset ctx₀).1.visit before).ended = true ↔
      (s.reset ctx₀).1.Concluded before := by
    refine (State.ended_visit before).trans ⟨?_, Or.inr⟩
    rintro (ended | concluded)
    · cases ended
    · exact concluded
  have goes (first : ¬ (s.reset ctx₀).1.Concluded before) :
      ((s.reset ctx₀).1.visit before).ended = false :=
    Bool.eq_false_iff.mpr fun ends => first (ended.mp ends)
  refine ⟨ended, ?_, ?_, ?_, ?_, ?_⟩
  · intro step first concludes
    rw [← State.endEvent_visit before]
    exact (State.snd_update step ctx).1 ⟨goes first, concludes⟩
  · intro step other
    refine (State.snd_update step ctx).2 (other.imp ?_ id)
    exact ended.mpr
  · intro c other
    exact State.same_call ctx other
  · intro step first
    exact State.checkTransitions_of_not_ended (goes first) step ctx
  · intro first
    exact State.counters_visit before (goes first)

end SkillScript
