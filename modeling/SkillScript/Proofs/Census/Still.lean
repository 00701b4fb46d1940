import SkillScript.Proofs.Tree.Quiet
/-!
# Calls leave the census alone

No node is created or released while a tree is woken, put to rest, reset or
updated, and no behavior that the host runs starts or ends: whatever a tree does
while it lives, the census stays as it was. Updates are followed through every sort
of node; the other calls are quiet anyway.
-/
set_option autoImplicit false
namespace SkillScript

class Behaves.Still (β : Type) [Behaves β] : Prop where
  toCensus_update (step : Float32) (ctx : Context) (b : β) :
    (update step ctx b).2.2.toCensus = ctx.toCensus

attribute [simp] Behaves.Still.toCensus_update

instance : Behaves.Still Empty where
  toCensus_update _ _ b := nomatch b

variable {β : Type} [Behaves β] [Behaves.Quiet β]

namespace Behaves

@[simp]
theorem toCensus_activate (ctx : Context) (b : β) :
    (activate ctx b).2.toCensus = ctx.toCensus :=
  Context.toCensus_eq_of_mute (Quiet.mute_activate ctx b)

@[simp]
theorem toCensus_deactivate (ctx : Context) (b : β) :
    (deactivate ctx b).2.toCensus = ctx.toCensus :=
  Context.toCensus_eq_of_mute (Quiet.mute_deactivate ctx b)

@[simp]
theorem toCensus_reset (ctx : Context) (b : β) : (reset ctx b).2.toCensus = ctx.toCensus :=
  Context.toCensus_eq_of_mute (Quiet.mute_reset ctx b)

@[simp]
theorem toCensus_enter (ctx : Context) (b : β) : (enter ctx b).2.toCensus = ctx.toCensus := by
  simp [enter]

end Behaves

variable [Behaves.Still β]

namespace State

omit [Behaves.Quiet β] in
theorem toCensus_runBehavior (step : Float32) (ctx : Context) (o : Option β) :
    (runBehavior step ctx o).2.2.toCensus = ctx.toCensus := by
  cases o <;> simp [runBehavior]

omit [Behaves.Quiet β] in
@[simp]
theorem toCensus_update (step : Float32) (ctx : Context) (s : State β) :
    (s.update step ctx).2.toCensus = ctx.toCensus := by
  have ran := toCensus_runBehavior step ctx s.behavior
  unfold update
  split
  · dsimp only
    split
    · cases s.endEvent <;> exact ran
    · exact ran
  · rfl

omit [Behaves β] [Behaves.Quiet β] [Behaves.Still β] in
@[simp]
theorem toCensus_checkTransitions (step : Float32) (ctx : Context) (s : State β) :
    (s.checkTransitions step ctx).2.2.toCensus = ctx.toCensus := by
  have checked := Context.toCensus_eq_of_pardon
    (Transition.pardon_checkFirst step ctx s.transitions)
  unfold checkTransitions
  split
  · exact checked
  · rfl

@[simp]
theorem toCensus_complete (ctx : Context) (b : β) :
    (complete ctx b).2.toCensus = ctx.toCensus := by
  simp [complete]

@[simp]
theorem toCensus_leave (ctx : Context) (s : State β) :
    (s.leave ctx).2.toCensus = ctx.toCensus := by
  have rested := Context.toCensus_eq_of_mute (s.mute_deactivate ctx)
  simp [leave, snd_actOn, rested]

end State

namespace Sequence

omit [Behaves.Still β] in
@[simp]
theorem toCensus_ready (started : Bool) (ctx : Context) (c : β) :
    (ready started ctx c).2.toCensus = ctx.toCensus := by
  cases started <;> simp [ready]

theorem toCensus_run (started : Bool) (step : Float32) (ctx : Context) (l : List β) :
    (run started step ctx l).2.2.2.toCensus = ctx.toCensus := by
  induction l generalizing started step ctx with
  | nil => rfl
  | cons c rest ih =>
    rw [run_cons]
    dsimp only
    split
    · simp [ih]
    · simp

theorem toCensus_onUpdate (step : Float32) (ctx : Context) (s : Sequence β) :
    (s.onUpdate step ctx).2.2.toCensus = ctx.toCensus :=
  toCensus_run ..

end Sequence

namespace Parallel

theorem toCensus_run (step least : Float32) (ctx : Context) (l : List (Lane β)) :
    (run step least ctx l).2.2.toCensus = ctx.toCensus := by
  induction l generalizing least ctx with
  | nil => rfl
  | cons lane rest ih =>
    rw [run_cons]
    split
    · exact ih _ _
    · dsimp only
      split <;> simp [ih]

theorem toCensus_onUpdate (step : Float32) (ctx : Context) (p : Parallel β) :
    (p.onUpdate step ctx).2.2.toCensus = ctx.toCensus := by
  have started := Context.toCensus_eq_of_mute (p.mute_start ctx)
  simp only [onUpdate, toCensus_run, ready]
  split
  · rfl
  · exact started

end Parallel

namespace Machine

omit [Behaves.Still β] in
@[simp]
theorem toCensus_enterAt (ctx : Context) (m : Machine β) (i : Nat) :
    (m.enterAt ctx i).2.toCensus = ctx.toCensus :=
  snd_actOnCurrent (fun ctx s => Context.toCensus_eq_of_mute (s.mute_enter ctx)) ctx _

theorem toCensus_switchTo (ctx : Context) (m : Machine β) (target : String) :
    (m.switchTo ctx target).2.toCensus = ctx.toCensus := by
  unfold switchTo
  split
  · rfl
  · simp [snd_actOnCurrent]

theorem toCensus_advance (step : Float32) (ctx : Context) (m : Machine β) (i : Nat)
    (s : State β) : (m.advance step ctx i s).2.toCensus = ctx.toCensus := by
  unfold advance
  dsimp only
  split <;> simp [tick, toCensus_switchTo]

theorem toCensus_onUpdate (step : Float32) (ctx : Context) (m : Machine β) :
    (m.onUpdate step ctx).2.2.toCensus = ctx.toCensus := by
  have readied : (m.ready ctx).2.toCensus = ctx.toCensus := by
    unfold ready
    split
    · rfl
    · exact Context.toCensus_eq_of_mute (m.mute_enterInitial ctx)
  unfold onUpdate
  dsimp only
  split
  · exact readied
  · split
    · exact readied
    · exact (toCensus_advance ..).trans readied

end Machine

namespace Node

omit [Behaves β] [Behaves.Quiet β] [Behaves.Still β] in
theorem toCensus_begin (ctx : Context) (n : Node β) :
    (n.begin ctx).2.toCensus = ctx.toCensus := by
  unfold begin
  split
  · rfl
  · cases n.logic <;> rfl

theorem toCensus_onUpdate (step : Float32) (ctx : Context) (l : Logic β) :
    (l.onUpdate step ctx).2.2.toCensus = ctx.toCensus := by
  cases l with
  | task t => rfl
  | sequence s => exact s.toCensus_onUpdate step ctx
  | parallel p => exact p.toCensus_onUpdate step ctx
  | machine m => exact m.toCensus_onUpdate step ctx

instance still : Behaves.Still (Node β) where
  toCensus_update step ctx n := by
    show (n.update step ctx).2.2.toCensus = ctx.toCensus
    unfold update
    split
    · exact (toCensus_onUpdate ..).trans (toCensus_begin ctx n)
    · rfl

end Node

instance Behavior.still : (height : Nat) → Behaves.Still (Behavior height)
  | 0 => inferInstanceAs (Behaves.Still Empty)
  | height + 1 =>
    have := still height
    inferInstanceAs (Behaves.Still (Node (Behavior height)))

end SkillScript
