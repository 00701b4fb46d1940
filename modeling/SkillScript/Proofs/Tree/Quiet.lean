import SkillScript.Node.Behavior
import SkillScript.Proofs.Tree.Each
/-!
# What waking, resting and resetting leave alone

Waking a node, putting it to rest and resetting it change nothing of what is
around it, except who listens to the bus. A context is muted by forgetting its
listeners: these calls leave the muted context as it was, at every node and
therefore in every tree. Variables, entities, the journal of the bus, the census
and the count of refusals are all parts of the muted context.
-/
set_option autoImplicit false
namespace SkillScript

/-- The context without the listeners of its bus. -/
def Context.mute (ctx : Context) : Context :=
  { ctx with bus.listeners := [] }

def Context.pardon (ctx : Context) : Context :=
  { ctx with refusals := 0 }

/-- Behaviors that leave everything but the listeners alone when they are woken, put to rest or
reset. -/
class Behaves.Quiet (β : Type) [Behaves β] : Prop where
  mute_activate (ctx : Context) (b : β) : (activate ctx b).2.mute = ctx.mute
  mute_deactivate (ctx : Context) (b : β) : (deactivate ctx b).2.mute = ctx.mute
  mute_reset (ctx : Context) (b : β) : (reset ctx b).2.mute = ctx.mute

attribute [simp] Behaves.Quiet.mute_activate Behaves.Quiet.mute_deactivate
  Behaves.Quiet.mute_reset

namespace Context

variable {ctx ctx' : Context}

theorem toCensus_eq_of_mute (h : ctx.mute = ctx'.mute) : ctx.toCensus = ctx'.toCensus := by
  have parts : ctx.mute.toCensus = ctx'.mute.toCensus := by rw [h]
  exact parts

theorem toCensus_eq_of_pardon (h : ctx.pardon = ctx'.pardon) :
    ctx.toCensus = ctx'.toCensus := by
  have parts : ctx.pardon.toCensus = ctx'.pardon.toCensus := by rw [h]
  exact parts

theorem toScope_eq_of_pardon (h : ctx.pardon = ctx'.pardon) : ctx.toScope = ctx'.toScope := by
  have parts : ctx.pardon.toScope = ctx'.pardon.toScope := by rw [h]
  exact parts

theorem settings_eq_of_mute (h : ctx.mute = ctx'.mute) : ctx.settings = ctx'.settings := by
  have parts : ctx.mute.settings = ctx'.mute.settings := by rw [h]
  exact parts

theorem refusals_eq_of_mute (h : ctx.mute = ctx'.mute) : ctx.refusals = ctx'.refusals := by
  have parts : ctx.mute.refusals = ctx'.mute.refusals := by rw [h]
  exact parts

end Context

namespace Sensor

theorem mute_activate (ctx : Context) (x : Sensor) :
    ({ ctx with bus := (x.activate ctx.bus).2 } : Context).mute = ctx.mute := by
  cases x with
  | event name ownerOnly receiver fired => cases receiver <;> rfl
  | _ => rfl

theorem mute_deactivate (ctx : Context) (x : Sensor) :
    ({ ctx with bus := (x.deactivate ctx.bus).2 } : Context).mute = ctx.mute := by
  cases x with
  | event name ownerOnly receiver fired => cases receiver <;> rfl
  | _ => rfl

end Sensor

namespace Condition

mutual

@[simp]
theorem mute_activate (ctx : Context) : ∀ c : Condition, (c.activate ctx).2.mute = ctx.mute
  | .sensor true x => rfl
  | .sensor false x => x.mute_activate ctx
  | .gate true g children => rfl
  | .gate false g children => by simp [activate, mute_activateAll ctx children]

theorem mute_activateAll (ctx : Context) :
    ∀ cs : List Condition, (activateAll ctx cs).2.mute = ctx.mute
  | [] => rfl
  | c :: rest => by
    simp only [activateAll]
    rw [mute_activateAll _ rest, mute_activate ctx c]

end

mutual

@[simp]
theorem mute_deactivate (ctx : Context) : ∀ c : Condition, (c.deactivate ctx).2.mute = ctx.mute
  | .sensor false x => rfl
  | .sensor true x => x.mute_deactivate ctx
  | .gate false g children => rfl
  | .gate true g children => by simp [deactivate, mute_deactivateAll ctx children]

theorem mute_deactivateAll (ctx : Context) :
    ∀ cs : List Condition, (deactivateAll ctx cs).2.mute = ctx.mute
  | [] => rfl
  | c :: rest => by
    simp only [deactivateAll]
    rw [mute_deactivateAll _ rest, mute_deactivate ctx c]

end

/-! An update of a condition changes nothing of the context but the count of refusals. -/

mutual

@[simp]
theorem pardon_update (step : Float32) (ctx : Context) :
    ∀ c : Condition, (c.update step ctx).2.pardon = ctx.pardon
  | .sensor true x => rfl
  | .sensor false x => rfl
  | .gate false g children => rfl
  | .gate true g children => by simp [update, pardon_updateAll _ ctx children]

theorem pardon_updateAll (step : Float32) (ctx : Context) :
    ∀ cs : List Condition, (updateAll step ctx cs).2.pardon = ctx.pardon
  | [] => rfl
  | c :: rest => by
    simp only [updateAll]
    rw [pardon_updateAll step _ rest, pardon_update step ctx c]

end

end Condition

namespace Transition

@[simp]
theorem pardon_check (step : Float32) (ctx : Context) (t : Transition) :
    (t.check step ctx).2.2.pardon = ctx.pardon := by
  rw [check_eq]
  split
  · dsimp only
    split <;> simp
  · rfl

@[simp]
theorem pardon_checkFirst (step : Float32) (ctx : Context) (ts : List Transition) :
    (checkFirst step ctx ts).2.2.pardon = ctx.pardon := by
  induction ts generalizing ctx with
  | nil => rfl
  | cons t rest ih =>
    have head := pardon_check step ctx t
    simp only [checkFirst]
    split <;> simp_all

@[simp]
theorem mute_activate (ctx : Context) (t : Transition) :
    (t.activate ctx).2.mute = ctx.mute := by
  unfold activate
  split
  · rfl
  · simp

@[simp]
theorem mute_deactivate (ctx : Context) (t : Transition) :
    (t.deactivate ctx).2.mute = ctx.mute := by
  unfold deactivate
  split
  · simp
  · rfl

end Transition

variable {β : Type} [Behaves β] [Behaves.Quiet β]

@[simp]
theorem Behaves.mute_enter (ctx : Context) (b : β) : (Behaves.enter ctx b).2.mute = ctx.mute := by
  simp [Behaves.enter]

namespace State

@[simp]
theorem mute_activate (ctx : Context) (s : State β) : (s.activate ctx).2.mute = ctx.mute := by
  unfold activate
  split
  · rfl
  · simp [snd_actAll, snd_actOn]

@[simp]
theorem mute_deactivate (ctx : Context) (s : State β) : (s.deactivate ctx).2.mute = ctx.mute := by
  unfold deactivate
  split
  · simp [snd_actAll, snd_actOn]
  · rfl

@[simp]
theorem mute_reset (ctx : Context) (s : State β) : (s.reset ctx).2.mute = ctx.mute := by
  simp [reset, snd_actOn]

@[simp]
theorem mute_enter (ctx : Context) (s : State β) : (s.enter ctx).2.mute = ctx.mute := by
  simp [enter]

end State

namespace Sequence

@[simp]
theorem mute_start (ctx : Context) (s : Sequence β) : (s.start ctx).2.mute = ctx.mute := by
  simp [start, snd_actAt]

@[simp]
theorem mute_onActivate (ctx : Context) (s : Sequence β) :
    (s.onActivate ctx).2.mute = ctx.mute := by
  unfold onActivate
  split
  · simp [snd_actAt]
  · simp

@[simp]
theorem mute_onDeactivate (ctx : Context) (s : Sequence β) :
    (s.onDeactivate ctx).2.mute = ctx.mute := by
  simp [onDeactivate, snd_actAt]

@[simp]
theorem mute_onReset (ctx : Context) (s : Sequence β) : (s.onReset ctx).2.mute = ctx.mute := by
  cases started : s.started <;> simp [onReset, started, snd_actAt]

end Sequence

namespace Parallel

omit [Behaves β] [Behaves.Quiet β] in
theorem mute_act {f : Context → β → β × Context} (h : ∀ ctx b, (f ctx b).2.mute = ctx.mute)
    (ctx : Context) (l : Lane β) : (l.act f ctx).2.mute = ctx.mute := by
  simp [Lane.act, h]

omit [Behaves β] [Behaves.Quiet β] in
theorem mute_actIfRunning {f : Context → β → β × Context}
    (h : ∀ ctx b, (f ctx b).2.mute = ctx.mute) (ctx : Context) (l : Lane β) :
    (l.actIfRunning f ctx).2.mute = ctx.mute := by
  unfold Lane.actIfRunning
  split
  · rfl
  · exact mute_act h ctx l

@[simp]
theorem mute_start (ctx : Context) (p : Parallel β) : (p.start ctx).2.mute = ctx.mute := by
  simp [start, snd_actAll, mute_act]

@[simp]
theorem mute_onActivate (ctx : Context) (p : Parallel β) :
    (p.onActivate ctx).2.mute = ctx.mute := by
  unfold onActivate
  split
  · simp [snd_actAll, mute_actIfRunning]
  · simp

@[simp]
theorem mute_onDeactivate (ctx : Context) (p : Parallel β) :
    (p.onDeactivate ctx).2.mute = ctx.mute := by
  simp [onDeactivate, snd_actAll, mute_act]

@[simp]
theorem mute_onReset (ctx : Context) (p : Parallel β) : (p.onReset ctx).2.mute = ctx.mute := by
  simp [onReset, snd_actAll, mute_act]

end Parallel

namespace Machine

omit [Behaves β] [Behaves.Quiet β] in
theorem snd_actOnCurrent {γ : Type} {f : Context → State β → State β × Context}
    {g : Context → γ} (h : ∀ ctx s, g (f ctx s).2 = g ctx) (ctx : Context) (m : Machine β) :
    g (m.actOnCurrent f ctx).2 = g ctx := by
  unfold actOnCurrent
  cases m.current with
  | none => rfl
  | some i => exact snd_actAt h ctx i m.states

@[simp]
theorem mute_enterAt (ctx : Context) (m : Machine β) (i : Nat) :
    (m.enterAt ctx i).2.mute = ctx.mute := by
  simp [enterAt, snd_actOnCurrent]

@[simp]
theorem mute_enterInitial (ctx : Context) (m : Machine β) :
    (m.enterInitial ctx).2.mute = ctx.mute := by
  unfold enterInitial
  split
  · rfl
  · simp

@[simp]
theorem mute_onActivate (ctx : Context) (m : Machine β) :
    (m.onActivate ctx).2.mute = ctx.mute := by
  unfold onActivate
  split
  · simp [snd_actOnCurrent]
  · simp

@[simp]
theorem mute_onDeactivate (ctx : Context) (m : Machine β) :
    (m.onDeactivate ctx).2.mute = ctx.mute := by
  simp [onDeactivate, snd_actOnCurrent]

@[simp]
theorem mute_onReset (ctx : Context) (m : Machine β) : (m.onReset ctx).2.mute = ctx.mute := by
  simp [onReset, snd_actOnCurrent]

end Machine

namespace Logic

@[simp]
theorem mute_onActivate (ctx : Context) (l : Logic β) : (l.onActivate ctx).2.mute = ctx.mute := by
  cases l <;> simp [onActivate]

@[simp]
theorem mute_onDeactivate (ctx : Context) (l : Logic β) :
    (l.onDeactivate ctx).2.mute = ctx.mute := by
  cases l <;> simp [onDeactivate]

@[simp]
theorem mute_onReset (ctx : Context) (l : Logic β) : (l.onReset ctx).2.mute = ctx.mute := by
  cases l <;> simp [onReset]

end Logic

namespace Node

instance quiet : Behaves.Quiet (Node β) where
  mute_activate ctx n := by
    show (n.activate ctx).2.mute = ctx.mute
    unfold activate
    split
    · rfl
    · simp
  mute_deactivate ctx n := by
    show (n.deactivate ctx).2.mute = ctx.mute
    unfold deactivate
    split
    · simp
    · rfl
  mute_reset ctx n := by
    show (n.reset ctx).2.mute = ctx.mute
    simp [reset]

end Node

instance : Behaves.Quiet Empty where
  mute_activate _ b := nomatch b
  mute_deactivate _ b := nomatch b
  mute_reset _ b := nomatch b

instance Behavior.quiet : (height : Nat) → Behaves.Quiet (Behavior height)
  | 0 => inferInstanceAs (Behaves.Quiet Empty)
  | height + 1 =>
    have := quiet height
    inferInstanceAs (Behaves.Quiet (Node (Behavior height)))

end SkillScript
