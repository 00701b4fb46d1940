import SkillScript.Node.Behavior
import SkillScript.Proofs.Tree.Each
/-!
# What a node is made of

A node is stripped to its pristine form by forgetting all state: whether it is
active, its timers, latches, positions and counts. What is left are the parameters
and children that it was created with. No call in the life of a node changes its
pristine form, so two nodes made from the same configuration have the same
pristine form for ever.
-/
set_option autoImplicit false
namespace SkillScript

/-- Behaviors with a pristine form that no call changes. -/
class Lasting (β : Type) [Behaves β] where
  /-- The node without any state. -/
  pristine : β → β
  pristine_activate (ctx : Context) (b : β) :
    pristine (Behaves.activate ctx b).1 = pristine b
  pristine_deactivate (ctx : Context) (b : β) :
    pristine (Behaves.deactivate ctx b).1 = pristine b
  pristine_reset (ctx : Context) (b : β) : pristine (Behaves.reset ctx b).1 = pristine b
  pristine_update (step : Float32) (ctx : Context) (b : β) :
    pristine (Behaves.update step ctx b).2.1 = pristine b
  pristine_onTrigger (tag : String) (b : β) : pristine (Behaves.onTrigger tag b) = pristine b

export Lasting (pristine)

attribute [simp] Lasting.pristine_activate Lasting.pristine_deactivate Lasting.pristine_reset
  Lasting.pristine_update Lasting.pristine_onTrigger

instance : Lasting Empty where
  pristine b := b
  pristine_activate _ b := nomatch b
  pristine_deactivate _ b := nomatch b
  pristine_reset _ b := nomatch b
  pristine_update _ _ b := nomatch b
  pristine_onTrigger _ b := nomatch b

/-! ## Conditions -/

namespace Sensor

def pristine (x : Sensor) : Sensor :=
  ofProbe x.probe

@[simp]
theorem probe_activate (bus : Bus) (x : Sensor) : (x.activate bus).1.probe = x.probe := by
  cases x with
  | event name ownerOnly receiver fired => cases receiver <;> rfl
  | _ => rfl

@[simp]
theorem probe_deactivate (bus : Bus) (x : Sensor) : (x.deactivate bus).1.probe = x.probe := by
  cases x with
  | event name ownerOnly receiver fired => cases receiver <;> rfl
  | _ => rfl

@[simp]
theorem probe_reset (bus : Bus) (x : Sensor) : (x.reset bus).probe = x.probe := by
  cases x <;> rfl

@[simp]
theorem probe_drain (s : Scope) (x : Sensor) : (x.drain s).probe = x.probe := by
  cases x with
  | event name ownerOnly receiver fired => cases receiver <;> rfl
  | _ => rfl

@[simp]
theorem probe_update (step : Float32) (s : Scope) (x : Sensor) :
    (x.update step s).probe = x.probe := by
  cases x <;> first | rfl | exact probe_drain s _

@[simp]
theorem probe_check (s : Scope) (x : Sensor) : (x.check s).2.probe = x.probe := by
  rw [← probe_drain s x, check]
  cases x.drain s <;> rfl

@[simp]
theorem probe_onTrigger (tag : String) (x : Sensor) : (x.onTrigger tag).probe = x.probe := by
  cases x <;> rfl

end Sensor

namespace Condition

mutual

def pristine : Condition → Condition
  | sensor _ x => sensor false x.pristine
  | gate _ g children => gate false g (pristineAll children)

def pristineAll : List Condition → List Condition
  | [] => []
  | c :: rest => pristine c :: pristineAll rest

end

theorem pristineAll_eq (cs : List Condition) : pristineAll cs = cs.map pristine := by
  induction cs with
  | nil => rfl
  | cons c rest ih => rw [pristineAll, ih, List.map_cons]

mutual

@[simp]
theorem pristine_activate (ctx : Context) :
    ∀ c : Condition, (c.activate ctx).1.pristine = c.pristine
  | .sensor true x => rfl
  | .sensor false x => by simp [activate, pristine, Sensor.pristine]
  | .gate true g children => rfl
  | .gate false g children => by simp [activate, pristine, pristine_activateAll ctx children]

theorem pristine_activateAll (ctx : Context) :
    ∀ cs : List Condition, pristineAll (activateAll ctx cs).1 = pristineAll cs
  | [] => rfl
  | c :: rest => by
    simp only [activateAll, pristineAll]
    rw [pristine_activate ctx c, pristine_activateAll _ rest]

end

mutual

@[simp]
theorem pristine_deactivate (ctx : Context) :
    ∀ c : Condition, (c.deactivate ctx).1.pristine = c.pristine
  | .sensor false x => rfl
  | .sensor true x => by simp [deactivate, pristine, Sensor.pristine]
  | .gate false g children => rfl
  | .gate true g children => by simp [deactivate, pristine, pristine_deactivateAll ctx children]

theorem pristine_deactivateAll (ctx : Context) :
    ∀ cs : List Condition, pristineAll (deactivateAll ctx cs).1 = pristineAll cs
  | [] => rfl
  | c :: rest => by
    simp only [deactivateAll, pristineAll]
    rw [pristine_deactivate ctx c, pristine_deactivateAll _ rest]

end

mutual

@[simp]
theorem pristine_reset (bus : Bus) : ∀ c : Condition, (c.reset bus).pristine = c.pristine
  | .sensor active x => by simp [reset, pristine, Sensor.pristine]
  | .gate active g children => by simp [reset, pristine, pristine_resetAll bus children]

theorem pristine_resetAll (bus : Bus) :
    ∀ cs : List Condition, pristineAll (resetAll bus cs) = pristineAll cs
  | [] => rfl
  | c :: rest => by
    simp only [resetAll, pristineAll]
    rw [pristine_reset bus c, pristine_resetAll bus rest]

end

mutual

@[simp]
theorem pristine_update (step : Float32) (ctx : Context) :
    ∀ c : Condition, (c.update step ctx).1.pristine = c.pristine
  | .sensor false x => rfl
  | .sensor true x => by simp [update, pristine, Sensor.pristine]
  | .gate false g children => rfl
  | .gate true g children => by simp [update, pristine, pristine_updateAll _ ctx children]

theorem pristine_updateAll (step : Float32) (ctx : Context) :
    ∀ cs : List Condition, pristineAll (updateAll step ctx cs).1 = pristineAll cs
  | [] => rfl
  | c :: rest => by
    simp only [updateAll, pristineAll]
    rw [pristine_update step ctx c, pristine_updateAll step _ rest]

end

mutual

@[simp]
theorem pristine_check (s : Scope) : ∀ c : Condition, (c.check s).2.pristine = c.pristine
  | .sensor true x => by simp [check, pristine, Sensor.pristine]
  | .sensor false x => rfl
  | .gate true .not children => by simp [check, pristine, pristine_checkAll s children]
  | .gate true .all children => by simp [check, pristine, pristine_checkAll s children]
  | .gate true .any children => by simp [check, pristine, pristine_checkAny s children]
  | .gate false g children => by cases g <;> rfl

theorem pristine_checkAll (s : Scope) :
    ∀ cs : List Condition, pristineAll (checkAll s cs).2 = pristineAll cs
  | [] => rfl
  | c :: rest => by
    have head := pristine_check s c
    have tail := pristine_checkAll s rest
    simp only [checkAll]
    split <;> simp_all [pristineAll]

theorem pristine_checkAny (s : Scope) :
    ∀ cs : List Condition, pristineAll (checkAny s cs).2 = pristineAll cs
  | [] => rfl
  | c :: rest => by
    have head := pristine_check s c
    have tail := pristine_checkAny s rest
    simp only [checkAny]
    split <;> simp_all [pristineAll]

end

mutual

@[simp]
theorem pristine_onTrigger (tag : String) :
    ∀ c : Condition, (c.onTrigger tag).pristine = c.pristine
  | .sensor true x => by simp [onTrigger, pristine, Sensor.pristine]
  | .sensor false x => rfl
  | .gate true g children => by simp [onTrigger, pristine, pristine_onTriggerAll tag children]
  | .gate false g children => rfl

theorem pristine_onTriggerAll (tag : String) :
    ∀ cs : List Condition, pristineAll (onTriggerAll tag cs) = pristineAll cs
  | [] => rfl
  | c :: rest => by
    simp only [onTriggerAll, pristineAll]
    rw [pristine_onTrigger tag c, pristine_onTriggerAll tag rest]

end

end Condition

/-! ## Transitions -/

namespace Transition

def pristine (t : Transition) : Transition :=
  { condition := t.condition.pristine, onTrue := t.onTrue, onFalse := t.onFalse
    interval := t.interval, period := 0, cooldown := 0 }

@[simp]
theorem pristine_activate (ctx : Context) (t : Transition) :
    (t.activate ctx).1.pristine = t.pristine := by
  unfold activate
  split
  · rfl
  · simp [pristine]

@[simp]
theorem pristine_deactivate (ctx : Context) (t : Transition) :
    (t.deactivate ctx).1.pristine = t.pristine := by
  unfold deactivate
  split
  · simp [pristine]
  · rfl

@[simp]
theorem pristine_reset (s : Scope) (t : Transition) : (t.reset s).pristine = t.pristine := by
  simp [reset, rearm, pristine]

@[simp]
theorem pristine_wait (t : Transition) (settings : Settings) (step : Float32) :
    (t.wait settings step).2.pristine = t.pristine := by
  unfold wait
  split
  · dsimp only
    split <;> rfl
  · rfl

@[simp]
theorem pristine_evaluate (s : Scope) (t : Transition) :
    (t.evaluate s).2.pristine = t.pristine := by
  simp [evaluate, pristine]

@[simp]
theorem pristine_check (step : Float32) (ctx : Context) (t : Transition) :
    (t.check step ctx).2.1.pristine = t.pristine := by
  have updated : ({ t with condition :=
      (t.condition.update (Number.atLeastZero step) ctx).1 } : Transition).pristine =
        t.pristine := by
    simp [pristine]
  rw [check_eq]
  split
  · dsimp only
    split <;> simp [updated]
  · rfl

@[simp]
theorem pristine_onTrigger (tag : String) (t : Transition) :
    (t.onTrigger tag).pristine = t.pristine := by
  unfold onTrigger
  split
  · simp [pristine]
  · rfl

theorem map_pristine_checkFirst (step : Float32) (ctx : Context) (ts : List Transition) :
    (checkFirst step ctx ts).2.1.map pristine = ts.map pristine := by
  induction ts generalizing ctx with
  | nil => rfl
  | cons t rest ih =>
    have head := pristine_check step ctx t
    simp only [checkFirst]
    split <;> simp_all

end Transition

/-! ## States, sequences, parallels and machines -/

variable {β : Type} [Behaves β] [Lasting β]

@[simp]
theorem Behaves.pristine_enter (ctx : Context) (b : β) :
    pristine (Behaves.enter ctx b).1 = pristine b := by
  simp [Behaves.enter]

namespace State

def pristine (s : State β) : State β :=
  { id := s.id, endEvent := s.endEvent, behavior := s.behavior.map Lasting.pristine
    exit := s.exit.map Lasting.pristine, transitions := s.transitions.map Transition.pristine }

@[simp]
theorem pristine_activate (ctx : Context) (s : State β) :
    (s.activate ctx).1.pristine = s.pristine := by
  unfold activate
  split
  · rfl
  · simp [pristine, map_actOn, map_actAll]

@[simp]
theorem pristine_deactivate (ctx : Context) (s : State β) :
    (s.deactivate ctx).1.pristine = s.pristine := by
  unfold deactivate
  split
  · simp [pristine, map_actOn, map_actAll]
  · rfl

@[simp]
theorem pristine_reset (ctx : Context) (s : State β) :
    (s.reset ctx).1.pristine = s.pristine := by
  simp [reset, pristine, map_actOn]

@[simp]
theorem pristine_enter (ctx : Context) (s : State β) :
    (s.enter ctx).1.pristine = s.pristine := by
  simp [enter]

theorem map_pristine_runBehavior (step : Float32) (ctx : Context) (o : Option β) :
    (runBehavior step ctx o).2.1.map Lasting.pristine = o.map Lasting.pristine := by
  cases o <;> simp [runBehavior]

@[simp]
theorem pristine_update (step : Float32) (ctx : Context) (s : State β) :
    (s.update step ctx).1.pristine = s.pristine := by
  have ran := map_pristine_runBehavior step ctx s.behavior
  unfold update
  split
  · dsimp only
    split <;> simp [pristine, ran]
  · rfl

@[simp]
theorem pristine_checkTransitions (step : Float32) (ctx : Context) (s : State β) :
    (s.checkTransitions step ctx).2.1.pristine = s.pristine := by
  have checked := Transition.map_pristine_checkFirst step ctx s.transitions
  unfold checkTransitions
  split
  · simp [pristine, checked]
  · rfl

@[simp]
theorem pristine_complete (ctx : Context) (b : β) :
    Lasting.pristine (complete ctx b).1 = Lasting.pristine b := by
  simp [complete]

@[simp]
theorem pristine_leave (ctx : Context) (s : State β) :
    (s.leave ctx).1.pristine = s.pristine := by
  have rested := pristine_deactivate ctx s
  simp only [pristine, State.mk.injEq] at rested
  simp [leave, pristine, map_actOn, rested]

@[simp]
theorem pristine_onTrigger (tag : String) (s : State β) :
    (s.onTrigger tag).pristine = s.pristine := by
  unfold onTrigger
  split
  · simp [pristine, Function.comp_def]
  · rfl

end State

namespace Sequence

def pristine (s : Sequence β) : Sequence β :=
  { children := s.children.map Lasting.pristine }

@[simp]
theorem pristine_start (ctx : Context) (s : Sequence β) :
    (s.start ctx).1.pristine = s.pristine := by
  simp [start, pristine, map_actAt]

@[simp]
theorem pristine_onActivate (ctx : Context) (s : Sequence β) :
    (s.onActivate ctx).1.pristine = s.pristine := by
  unfold onActivate
  split
  · simp [pristine, map_actAt]
  · simp

@[simp]
theorem pristine_onDeactivate (ctx : Context) (s : Sequence β) :
    (s.onDeactivate ctx).1.pristine = s.pristine := by
  simp [onDeactivate, pristine, map_actAt]

@[simp]
theorem pristine_onReset (ctx : Context) (s : Sequence β) :
    (s.onReset ctx).1.pristine = s.pristine := by
  cases started : s.started <;> simp [onReset, started, pristine, map_actAt]

@[simp]
theorem pristine_ready (started : Bool) (ctx : Context) (c : β) :
    Lasting.pristine (ready started ctx c).1 = Lasting.pristine c := by
  cases started <;> simp [ready]

theorem map_pristine_run (started : Bool) (step : Float32) (ctx : Context) (l : List β) :
    (run started step ctx l).2.2.1.map Lasting.pristine = l.map Lasting.pristine := by
  induction l generalizing started step ctx with
  | nil => rfl
  | cons c rest ih =>
    rw [run_cons]
    dsimp only
    split <;> simp [ih]

@[simp]
theorem pristine_onUpdate (step : Float32) (ctx : Context) (s : Sequence β) :
    (s.onUpdate step ctx).2.1.pristine = s.pristine := by
  simp [onUpdate, pristine, map_pristine_run, List.map_drop, List.map_take]

@[simp]
theorem pristine_onTrigger (tag : String) (s : Sequence β) :
    (s.onTrigger tag).pristine = s.pristine := by
  simp [onTrigger, pristine, map_modify]

end Sequence

namespace Lane

def pristine (l : Lane β) : Lane β :=
  { child := Lasting.pristine l.child }

theorem pristine_act {f : Context → β → β × Context}
    (h : ∀ ctx b, Lasting.pristine (f ctx b).1 = Lasting.pristine b) (ctx : Context)
    (l : Lane β) : (l.act f ctx).1.pristine = l.pristine := by
  simp [act, pristine, h]

theorem pristine_actIfRunning {f : Context → β → β × Context}
    (h : ∀ ctx b, Lasting.pristine (f ctx b).1 = Lasting.pristine b) (ctx : Context)
    (l : Lane β) : (l.actIfRunning f ctx).1.pristine = l.pristine := by
  unfold actIfRunning
  split
  · rfl
  · exact pristine_act h ctx l

@[simp]
theorem pristine_reopen (l : Lane β) : l.reopen.pristine = l.pristine :=
  rfl

end Lane

namespace Parallel

def pristine (p : Parallel β) : Parallel β :=
  { lanes := p.lanes.map Lane.pristine }

@[simp]
theorem pristine_start (ctx : Context) (p : Parallel β) :
    (p.start ctx).1.pristine = p.pristine := by
  simp [start, pristine, map_actAll, Lane.pristine_act, Function.comp_def]

@[simp]
theorem pristine_onActivate (ctx : Context) (p : Parallel β) :
    (p.onActivate ctx).1.pristine = p.pristine := by
  unfold onActivate
  split
  · simp [pristine, map_actAll, Lane.pristine_actIfRunning]
  · simp

@[simp]
theorem pristine_onDeactivate (ctx : Context) (p : Parallel β) :
    (p.onDeactivate ctx).1.pristine = p.pristine := by
  simp [onDeactivate, pristine, map_actAll, Lane.pristine_act]

@[simp]
theorem pristine_onReset (ctx : Context) (p : Parallel β) :
    (p.onReset ctx).1.pristine = p.pristine := by
  simp [onReset, pristine, map_actAll, Lane.pristine_act, Function.comp_def]

@[simp]
theorem pristine_ready (ctx : Context) (p : Parallel β) :
    (p.ready ctx).1.pristine = p.pristine := by
  cases started : p.started <;> simp [ready, started]

theorem map_pristine_run (step least : Float32) (ctx : Context) (l : List (Lane β)) :
    (run step least ctx l).2.1.map Lane.pristine = l.map Lane.pristine := by
  induction l generalizing least ctx with
  | nil => rfl
  | cons l rest ih =>
    rw [run_cons]
    split
    · simp [ih]
    · dsimp only
      split <;> simp [ih, Lane.pristine]

@[simp]
theorem pristine_onUpdate (step : Float32) (ctx : Context) (p : Parallel β) :
    (p.onUpdate step ctx).2.1.pristine = p.pristine := by
  have begun := pristine_ready ctx p
  simp only [pristine, Parallel.mk.injEq, and_true] at begun
  simp [onUpdate, pristine, map_pristine_run, begun]

@[simp]
theorem pristine_onTrigger (tag : String) (p : Parallel β) :
    (p.onTrigger tag).pristine = p.pristine := by
  simp only [onTrigger, pristine, List.map_map, Parallel.mk.injEq, and_true]
  refine List.map_congr_left fun l _ => ?_
  simp only [Function.comp_apply, Lane.pristine]
  split <;> simp

end Parallel

namespace Machine

def pristine (m : Machine β) : Machine β :=
  { states := m.states.map State.pristine, index := m.index, initial := m.initial }

@[simp]
theorem pristine_current (i : Option Nat) (m : Machine β) :
    ({ m with current := i } : Machine β).pristine = m.pristine :=
  rfl

theorem pristine_actOnCurrent {f : Context → State β → State β × Context}
    (h : ∀ ctx s, (f ctx s).1.pristine = s.pristine) (ctx : Context) (m : Machine β) :
    (m.actOnCurrent f ctx).1.pristine = m.pristine := by
  unfold actOnCurrent
  split
  · rfl
  · simp [pristine, map_actAt h]

@[simp]
theorem pristine_enterAt (ctx : Context) (m : Machine β) (i : Nat) :
    (m.enterAt ctx i).1.pristine = m.pristine := by
  simp [enterAt, pristine_actOnCurrent]

@[simp]
theorem pristine_enterInitial (ctx : Context) (m : Machine β) :
    (m.enterInitial ctx).1.pristine = m.pristine := by
  unfold enterInitial
  split
  · rfl
  · simp

@[simp]
theorem pristine_onActivate (ctx : Context) (m : Machine β) :
    (m.onActivate ctx).1.pristine = m.pristine := by
  unfold onActivate
  split
  · simp [pristine_actOnCurrent]
  · simp

@[simp]
theorem pristine_onDeactivate (ctx : Context) (m : Machine β) :
    (m.onDeactivate ctx).1.pristine = m.pristine := by
  simp [onDeactivate, pristine_actOnCurrent]

@[simp]
theorem pristine_onReset (ctx : Context) (m : Machine β) :
    (m.onReset ctx).1.pristine = m.pristine := by
  simp [onReset, pristine_actOnCurrent]

@[simp]
theorem pristine_switchTo (ctx : Context) (m : Machine β) (target : String) :
    (m.switchTo ctx target).1.pristine = m.pristine := by
  unfold switchTo
  split
  · rfl
  · rename_i next _
    have entered := pristine_enterAt (m.actOnCurrent State.leave ctx).2
      (m.actOnCurrent State.leave ctx).1 next
    rw [pristine_actOnCurrent State.pristine_leave] at entered
    exact entered

theorem pristine_set (m : Machine β) {i : Nat} {s s' : State β} (found : m.states[i]? = some s)
    (same : s'.pristine = s.pristine) :
    ({ m with states := m.states.set i s' } : Machine β).pristine = m.pristine := by
  simp only [pristine, map_set_of_eq found same]

theorem pristine_tick (step : Float32) (ctx : Context) (s : State β) :
    (tick step ctx s).2.1.pristine = s.pristine := by
  simp [tick]

theorem pristine_advance (step : Float32) (ctx : Context) (m : Machine β) {i : Nat}
    {s : State β} (found : m.states[i]? = some s) :
    (m.advance step ctx i s).1.pristine = m.pristine := by
  have kept := m.pristine_set found (pristine_tick step ctx s)
  unfold advance
  dsimp only
  split
  · exact kept
  · rw [pristine_switchTo, kept]

@[simp]
theorem pristine_ready (ctx : Context) (m : Machine β) :
    (m.ready ctx).1.pristine = m.pristine := by
  unfold ready
  split
  · rfl
  · simp

@[simp]
theorem pristine_onUpdate (step : Float32) (ctx : Context) (m : Machine β) :
    (m.onUpdate step ctx).2.1.pristine = m.pristine := by
  unfold onUpdate
  dsimp only
  split
  · simp
  · split
    · simp
    · rename_i found
      simp [pristine_advance _ _ _ found]

@[simp]
theorem pristine_onTrigger (tag : String) (m : Machine β) :
    (m.onTrigger tag).pristine = m.pristine := by
  unfold onTrigger
  split
  · rfl
  · simp [pristine, map_modify]

end Machine

/-! ## Behaviors -/

namespace Task

def pristine : Task → Task
  | wait c _ => wait c (.start 0)
  | healthOverTime c _ _ => healthOverTime c (.start 0) {}
  | deed d => deed d
  | waitCheck attrs predicate _ _ => waitCheck attrs predicate 0 false
  | delegate number host _ => delegate number host false

@[simp]
theorem pristine_reset (s : Scope) (t : Task) : (t.reset s).pristine = t.pristine := by
  cases t <;> rfl

@[simp]
theorem pristine_begin (s : Scope) (t : Task) : (t.begin s).1.pristine = t.pristine := by
  cases t <;> rfl

@[simp]
theorem pristine_update (step : Float32) (s : Scope) (t : Task) :
    (t.update step s).2.1.pristine = t.pristine := by
  cases t with
  | wait c timer =>
    simp only [update]
    split <;> rfl
  | healthOverTime c timer flow =>
    simp only [update]
    split <;> rfl
  | deed d => rfl
  | waitCheck attrs predicate elapsed satisfied =>
    simp only [update]
    split
    · rfl
    · split <;> rfl
  | delegate number host finished =>
    simp only [update]
    split <;> rfl

end Task

namespace Logic

def pristine : Logic β → Logic β
  | task t => task t.pristine
  | sequence s => sequence s.pristine
  | parallel p => parallel p.pristine
  | machine m => machine m.pristine

@[simp]
theorem pristine_onActivate (ctx : Context) (l : Logic β) :
    (l.onActivate ctx).1.pristine = l.pristine := by
  cases l <;> simp [onActivate, pristine]

@[simp]
theorem pristine_onDeactivate (ctx : Context) (l : Logic β) :
    (l.onDeactivate ctx).1.pristine = l.pristine := by
  cases l <;> simp [onDeactivate, pristine]

@[simp]
theorem pristine_onReset (ctx : Context) (l : Logic β) :
    (l.onReset ctx).1.pristine = l.pristine := by
  cases l <;> simp [onReset, pristine]

@[simp]
theorem pristine_onBegin (ctx : Context) (l : Logic β) :
    (l.onBegin ctx).1.pristine = l.pristine := by
  cases l <;> simp [onBegin, pristine]

@[simp]
theorem pristine_onUpdate (step : Float32) (ctx : Context) (l : Logic β) :
    (l.onUpdate step ctx).2.1.pristine = l.pristine := by
  cases l <;> simp [onUpdate, pristine]

@[simp]
theorem pristine_onTrigger (tag : String) (l : Logic β) :
    (l.onTrigger tag).pristine = l.pristine := by
  cases l <;> simp [onTrigger, pristine]

end Logic

namespace Node

def pristine (n : Node β) : Node β :=
  { logic := n.logic.pristine }

theorem pristine_begin (ctx : Context) (n : Node β) :
    (n.begin ctx).1.logic.pristine = n.logic.pristine := by
  unfold begin
  split
  · rfl
  · simp

instance lasting : Lasting (Node β) where
  pristine := pristine
  pristine_activate ctx n := by
    show (n.activate ctx).1.pristine = n.pristine
    unfold activate
    split
    · rfl
    · simp [pristine]
  pristine_deactivate ctx n := by
    show (n.deactivate ctx).1.pristine = n.pristine
    unfold deactivate
    split
    · simp [pristine]
    · rfl
  pristine_reset ctx n := by
    show (n.reset ctx).1.pristine = n.pristine
    simp [reset, pristine]
  pristine_update step ctx n := by
    show (n.update step ctx).2.1.pristine = n.pristine
    unfold update
    split
    · simp [pristine, pristine_begin]
    · rfl
  pristine_onTrigger tag n := by
    show (n.onTrigger tag).pristine = n.pristine
    unfold onTrigger
    split
    · simp [pristine]
    · rfl

end Node

instance Behavior.lasting : (height : Nat) → Lasting (Behavior height)
  | 0 => inferInstanceAs (Lasting Empty)
  | height + 1 =>
    let _ := lasting height
    inferInstanceAs (Lasting (Node (Behavior height)))

end SkillScript
