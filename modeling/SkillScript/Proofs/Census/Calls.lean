import SkillScript.Proofs.Census.Release
import SkillScript.Proofs.Census.Still
import SkillScript.Proofs.History
/-!
# Calls by an owner

Whatever an owner asks of a node that lives, the outline of its tree and the census
stay as they were. A call on a node that does not live changes nothing at all but
the count of refusals.
-/
set_option autoImplicit false
namespace SkillScript

namespace AnyNode

variable {β : Type} [Behaves β] [Lasting β]

theorem pristine_activate (ctx : Context) (n : AnyNode β) :
    (n.activate ctx).1.pristine = n.pristine := by
  cases n with
  | behavior n => exact congrArg behavior (Lasting.pristine_activate ctx n)
  | condition c => exact congrArg condition (c.pristine_activate ctx)
  | state s => exact congrArg state (s.pristine_activate ctx)
  | transition t => exact congrArg transition (t.pristine_activate ctx)

theorem pristine_deactivate (ctx : Context) (n : AnyNode β) :
    (n.deactivate ctx).1.pristine = n.pristine := by
  cases n with
  | behavior n => exact congrArg behavior (Lasting.pristine_deactivate ctx n)
  | condition c => exact congrArg condition (c.pristine_deactivate ctx)
  | state s => exact congrArg state (s.pristine_deactivate ctx)
  | transition t => exact congrArg transition (t.pristine_deactivate ctx)

theorem pristine_reset (ctx : Context) (n : AnyNode β) :
    (n.reset ctx).1.pristine = n.pristine := by
  cases n with
  | behavior n => exact congrArg behavior (Lasting.pristine_reset ctx n)
  | condition c => exact congrArg condition (c.pristine_reset ctx.bus)
  | state s => exact congrArg state (s.pristine_reset ctx)
  | transition t => exact congrArg transition (t.pristine_reset ctx.toScope)

theorem pristine_onTrigger (tag : String) (n : AnyNode β) :
    (n.onTrigger tag).pristine = n.pristine := by
  cases n with
  | behavior n => exact congrArg behavior (Lasting.pristine_onTrigger tag n)
  | condition c => exact congrArg condition (c.pristine_onTrigger tag)
  | state s => exact congrArg state (s.pristine_onTrigger tag)
  | transition t => exact congrArg transition (t.pristine_onTrigger tag)

omit [Lasting β] in
theorem mute_activate [Behaves.Quiet β] (ctx : Context) (n : AnyNode β) :
    (n.activate ctx).2.mute = ctx.mute := by
  cases n with
  | behavior n => exact Behaves.Quiet.mute_activate ctx n
  | condition c => exact c.mute_activate ctx
  | state s => exact s.mute_activate ctx
  | transition t => exact t.mute_activate ctx

omit [Lasting β] in
theorem mute_deactivate [Behaves.Quiet β] (ctx : Context) (n : AnyNode β) :
    (n.deactivate ctx).2.mute = ctx.mute := by
  cases n with
  | behavior n => exact Behaves.Quiet.mute_deactivate ctx n
  | condition c => exact c.mute_deactivate ctx
  | state s => exact s.mute_deactivate ctx
  | transition t => exact t.mute_deactivate ctx

omit [Lasting β] in
theorem mute_reset [Behaves.Quiet β] (ctx : Context) (n : AnyNode β) :
    (n.reset ctx).2.mute = ctx.mute := by
  cases n with
  | behavior n => exact Behaves.Quiet.mute_reset ctx n
  | condition c => rfl
  | state s => exact s.mute_reset ctx
  | transition t => rfl

end AnyNode

namespace Handle

def labels : Handle → List Label
  | live _ n => (n.outline .root).labels
  | _ => []

/-- The handle without any state of its nodes. -/
def pristine : Handle → Handle
  | live height n => live height n.pristine
  | h => h

theorem labels_congr {h h' : Handle} (same : h.pristine = h'.pristine) : h.labels = h'.labels := by
  have stripped (h : Handle) : h.pristine.labels = h.labels := by
    cases h with
    | live height n => exact congrArg Outline.labels (n.outline_pristine .root)
    | _ => rfl
  rw [← stripped, same, stripped]

theorem pristine_onLive (ctx : Context) (h : Handle)
    {act : (height : Nat) → AnyNode (Behavior height) → AnyNode (Behavior height) × Context}
    (same : ∀ height n, (act height n).1.pristine = n.pristine) :
    (h.onLive ctx act).1.pristine = h.pristine := by
  cases h with
  | live height n => exact congrArg (live height) (same height n)
  | _ => rfl

theorem toCensus_onLive (ctx : Context) (h : Handle)
    {act : (height : Nat) → AnyNode (Behavior height) → AnyNode (Behavior height) × Context}
    (same : ∀ height n, (act height n).2.toCensus = ctx.toCensus) :
    (h.onLive ctx act).2.toCensus = ctx.toCensus := by
  cases h with
  | live height n => exact same height n
  | _ => rfl

theorem pristine_activate (ctx : Context) (h : Handle) :
    (h.activate ctx).1.pristine = h.pristine :=
  h.pristine_onLive ctx fun _ n => n.pristine_activate ctx

theorem pristine_reset (ctx : Context) (h : Handle) : (h.reset ctx).1.pristine = h.pristine :=
  h.pristine_onLive ctx fun _ n => n.pristine_reset ctx

theorem pristine_leave (ctx : Context) (h : Handle) : (h.leave ctx).1.pristine = h.pristine := by
  refine h.pristine_onLive ctx fun height n => ?_
  cases n with
  | state s => exact congrArg AnyNode.state (s.pristine_leave ctx)
  | _ => rfl

theorem pristine_update (step : Float32) (ctx : Context) (h : Handle) :
    (h.update step ctx).2.1.pristine = h.pristine := by
  cases h with
  | live height n =>
    cases n with
    | behavior n => exact congrArg (live height ∘ .behavior) (Lasting.pristine_update step ctx n)
    | condition c => exact congrArg (live height ∘ .condition) (c.pristine_update step ctx)
    | state s => exact congrArg (live height ∘ .state) (s.pristine_update step ctx)
    | transition t => rfl
  | _ => rfl

theorem pristine_check (step : Float32) (ctx : Context) (h : Handle) :
    (h.check step ctx).2.1.pristine = h.pristine := by
  cases h with
  | live height n =>
    cases n with
    | behavior n => rfl
    | condition c => exact congrArg (live height ∘ .condition) (c.pristine_check ctx.toScope)
    | state s => exact congrArg (live height ∘ .state) (s.pristine_checkTransitions step ctx)
    | transition t => exact congrArg (live height ∘ .transition) (t.pristine_check step ctx)
  | fresh t => cases t <;> rfl
  | gone t remains => cases t <;> rfl

theorem pristine_onTrigger (tag : String) (h : Handle) :
    (h.onTrigger tag).pristine = h.pristine := by
  cases h with
  | live height n => exact congrArg (live height) (n.pristine_onTrigger tag)
  | _ => rfl

/-- No call changes what a node is made of. -/
theorem pristine_call (ctx : Context) (h : Handle) (c : Call) :
    (h.call ctx c).1.pristine = h.pristine := by
  cases c with
  | activate => exact h.pristine_activate ctx
  | deactivate => exact h.pristine_onLive ctx fun _ n => n.pristine_deactivate ctx
  | reset => exact h.pristine_reset ctx
  | enter => exact (pristine_activate ..).trans (h.pristine_reset ctx)
  | leave => exact h.pristine_leave ctx
  | update step => exact h.pristine_update step ctx
  | check step => exact h.pristine_check step ctx
  | trigger tag => exact h.pristine_onTrigger tag

/-- A call leaves the nodes of a tree in their places. -/
theorem labels_call (ctx : Context) (h : Handle) (c : Call) :
    (h.call ctx c).1.labels = h.labels :=
  labels_congr (h.pristine_call ctx c)

theorem toCensus_activate (ctx : Context) (h : Handle) :
    (h.activate ctx).2.toCensus = ctx.toCensus :=
  h.toCensus_onLive ctx fun _ n => Context.toCensus_eq_of_mute (n.mute_activate ctx)

theorem toCensus_reset (ctx : Context) (h : Handle) :
    (h.reset ctx).2.toCensus = ctx.toCensus :=
  h.toCensus_onLive ctx fun _ n => Context.toCensus_eq_of_mute (n.mute_reset ctx)

theorem toCensus_update (step : Float32) (ctx : Context) (h : Handle) :
    (h.update step ctx).2.2.toCensus = ctx.toCensus := by
  cases h with
  | live height n =>
    cases n with
    | behavior n => exact Behaves.Still.toCensus_update step ctx n
    | condition c => exact Context.toCensus_eq_of_pardon (c.pardon_update step ctx)
    | state s => exact s.toCensus_update step ctx
    | transition t => rfl
  | _ => rfl

theorem toCensus_check (step : Float32) (ctx : Context) (h : Handle) :
    (h.check step ctx).2.2.toCensus = ctx.toCensus := by
  cases h with
  | live height n =>
    cases n with
    | state s => exact s.toCensus_checkTransitions step ctx
    | transition t => exact Context.toCensus_eq_of_pardon (t.pardon_check step ctx)
    | _ => rfl
  | fresh t => cases t <;> rfl
  | gone t remains => cases t <;> rfl

/-- A call leaves the census alone. -/
theorem toCensus_call (ctx : Context) (h : Handle) (c : Call) :
    (h.call ctx c).2.toCensus = ctx.toCensus := by
  cases c with
  | activate => exact h.toCensus_activate ctx
  | deactivate =>
    exact h.toCensus_onLive ctx fun _ n => Context.toCensus_eq_of_mute (n.mute_deactivate ctx)
  | reset => exact h.toCensus_reset ctx
  | enter => exact (toCensus_activate ..).trans (h.toCensus_reset ctx)
  | leave =>
    refine h.toCensus_onLive ctx fun height n => ?_
    cases n with
    | state s => exact s.toCensus_leave ctx
    | _ => rfl
  | update step => exact h.toCensus_update step ctx
  | check step => exact h.toCensus_check step ctx
  | trigger tag => rfl

end Handle

end SkillScript
