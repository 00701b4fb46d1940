import SkillScript.Proofs.Status.Orderly
import SkillScript.Proofs.Tree.Quiet
/-!
# Conditions and transitions keep their order

Waking an orderly condition wakes everything below it, and putting it to rest puts
everything below it to rest; no other call changes what is active. An active
condition in order is updated without refusal.
-/
set_option autoImplicit false
namespace SkillScript

namespace Sensor

variable {active : Bool} {x : Sensor}

theorem listens_activate (bus : Bus) (listens : x.Listens false) :
    (x.activate bus).1.Listens true := by
  cases x with
  | event name ownerOnly receiver fired =>
    cases receiver with
    | none => rfl
    | some r => cases listens
  | _ => trivial

theorem listens_deactivate (bus : Bus) (listens : x.Listens true) :
    (x.deactivate bus).1.Listens false := by
  cases x with
  | event name ownerOnly receiver fired =>
    cases receiver with
    | none => cases listens
    | some r => rfl
  | _ => trivial

theorem listens_reset (bus : Bus) (listens : x.Listens active) : (x.reset bus).Listens active := by
  cases x with
  | event name ownerOnly receiver fired =>
    show (receiver.map bus.skip).isSome = active
    rw [Option.isSome_map]
    exact listens
  | _ => trivial

theorem listens_drain (s : Scope) (listens : x.Listens active) : (x.drain s).Listens active := by
  cases x with
  | event name ownerOnly receiver fired =>
    cases receiver with
    | none => exact listens
    | some r => exact listens
  | _ => trivial

theorem listens_update (step : Float32) (s : Scope) (listens : x.Listens active) :
    (x.update step s).Listens active := by
  cases x with
  | elapsed seconds t => trivial
  | _ => exact listens_drain s listens

theorem listens_check (s : Scope) (listens : x.Listens active) : (x.check s).2.Listens active := by
  have drained := listens_drain s listens
  unfold check
  cases taken : x.drain s with
  | event name ownerOnly receiver fired =>
    rw [taken] at drained
    exact drained
  | _ => trivial

theorem listens_onTrigger (tag : String) (listens : x.Listens active) :
    (x.onTrigger tag).Listens active := by
  cases x with
  | event name ownerOnly receiver fired => exact listens
  | _ => trivial

end Sensor

namespace Condition

@[simp]
theorem isActive_activate (ctx : Context) (c : Condition) :
    (c.activate ctx).1.isActive = true := by
  cases c with
  | sensor active x => cases active <;> rfl
  | gate active g children => cases active <;> rfl

@[simp]
theorem isActive_deactivate (ctx : Context) (c : Condition) :
    (c.deactivate ctx).1.isActive = false := by
  cases c with
  | sensor active x => cases active <;> rfl
  | gate active g children => cases active <;> rfl

@[simp]
theorem isActive_reset (bus : Bus) (c : Condition) : (c.reset bus).isActive = c.isActive := by
  cases c <;> rfl

@[simp]
theorem isActive_update (step : Float32) (ctx : Context) (c : Condition) :
    (c.update step ctx).1.isActive = c.isActive := by
  cases c with
  | sensor active x => cases active <;> rfl
  | gate active g children => cases active <;> rfl

@[simp]
theorem isActive_check (s : Scope) (c : Condition) : (c.check s).2.isActive = c.isActive := by
  cases c with
  | sensor active x => cases active <;> rfl
  | gate active g children => cases active <;> cases g <;> rfl

@[simp]
theorem isActive_onTrigger (tag : String) (c : Condition) :
    (c.onTrigger tag).isActive = c.isActive := by
  cases c with
  | sensor active x => cases active <;> rfl
  | gate active g children => cases active <;> rfl

mutual

theorem orderly_activate (ctx : Context) :
    ∀ {c : Condition}, c.Orderly → (c.activate ctx).1.Orderly
  | .sensor true _, orderly => orderly
  | .sensor false _, orderly => Sensor.listens_activate ctx.bus orderly
  | .gate true _ _, orderly => orderly
  | .gate false _ _, orderly => orderlyAll_activateAll ctx orderly

theorem orderlyAll_activateAll (ctx : Context) :
    ∀ {cs : List Condition}, OrderlyAll false cs → OrderlyAll true (activateAll ctx cs).1
  | [], _ => trivial
  | c :: _, orderly =>
    ⟨⟨isActive_activate ctx c, orderly_activate ctx orderly.1.2⟩,
      orderlyAll_activateAll (c.activate ctx).2 orderly.2⟩

end

mutual

theorem orderly_deactivate (ctx : Context) :
    ∀ {c : Condition}, c.Orderly → (c.deactivate ctx).1.Orderly
  | .sensor false _, orderly => orderly
  | .sensor true _, orderly => Sensor.listens_deactivate ctx.bus orderly
  | .gate false _ _, orderly => orderly
  | .gate true _ _, orderly => orderlyAll_deactivateAll ctx orderly

theorem orderlyAll_deactivateAll (ctx : Context) :
    ∀ {cs : List Condition}, OrderlyAll true cs → OrderlyAll false (deactivateAll ctx cs).1
  | [], _ => trivial
  | c :: _, orderly =>
    ⟨⟨isActive_deactivate ctx c, orderly_deactivate ctx orderly.1.2⟩,
      orderlyAll_deactivateAll (c.deactivate ctx).2 orderly.2⟩

end

mutual

theorem orderly_reset (bus : Bus) : ∀ {c : Condition}, c.Orderly → (c.reset bus).Orderly
  | .sensor _ _, orderly => Sensor.listens_reset bus orderly
  | .gate _ _ _, orderly => orderlyAll_resetAll bus orderly

theorem orderlyAll_resetAll (bus : Bus) {active : Bool} :
    ∀ {cs : List Condition}, OrderlyAll active cs → OrderlyAll active (resetAll bus cs)
  | [], _ => trivial
  | c :: _, orderly =>
    ⟨⟨(isActive_reset bus c).trans orderly.1.1, orderly_reset bus orderly.1.2⟩,
      orderlyAll_resetAll bus orderly.2⟩

end

mutual

theorem orderly_update (step : Float32) (ctx : Context) :
    ∀ {c : Condition}, c.Orderly → (c.update step ctx).1.Orderly
  | .sensor false _, orderly => orderly
  | .sensor true _, orderly => Sensor.listens_update _ ctx.toScope orderly
  | .gate false _ _, orderly => orderly
  | .gate true _ _, orderly => orderlyAll_updateAll _ ctx orderly

theorem orderlyAll_updateAll (step : Float32) (ctx : Context) {active : Bool} :
    ∀ {cs : List Condition}, OrderlyAll active cs → OrderlyAll active (updateAll step ctx cs).1
  | [], _ => trivial
  | c :: _, orderly =>
    ⟨⟨(isActive_update step ctx c).trans orderly.1.1, orderly_update step ctx orderly.1.2⟩,
      orderlyAll_updateAll step (c.update step ctx).2 orderly.2⟩

end

mutual

theorem refusals_update (step : Float32) (ctx : Context) :
    ∀ {c : Condition}, c.Orderly → c.isActive = true →
      (c.update step ctx).2.refusals = ctx.refusals
  | .sensor true _, _, _ => rfl
  | .gate true _ _, orderly, _ => refusals_updateAll _ ctx orderly

theorem refusals_updateAll (step : Float32) (ctx : Context) :
    ∀ {cs : List Condition}, OrderlyAll true cs →
      (updateAll step ctx cs).2.refusals = ctx.refusals
  | [], _ => rfl
  | c :: rest, orderly => by
    simp only [updateAll]
    rw [refusals_updateAll step _ orderly.2, refusals_update step ctx orderly.1.2 orderly.1.1]

end

mutual

theorem orderly_check (s : Scope) : ∀ {c : Condition}, c.Orderly → (c.check s).2.Orderly
  | .sensor true x, orderly => Sensor.listens_check s orderly
  | .sensor false x, orderly => orderly
  | .gate true .not children, orderly => orderlyAll_checkAll s orderly
  | .gate true .all children, orderly => orderlyAll_checkAll s orderly
  | .gate true .any children, orderly => orderlyAll_checkAny s orderly
  | .gate false g children, orderly => by cases g <;> exact orderly

theorem orderlyAll_checkAll (s : Scope) {active : Bool} :
    ∀ {cs : List Condition}, OrderlyAll active cs → OrderlyAll active (checkAll s cs).2
  | [], _ => trivial
  | c :: rest, orderly => by
    have head := orderly_check s orderly.1.2
    have status := (isActive_check s c).trans orderly.1.1
    have tail := orderlyAll_checkAll s orderly.2
    simp only [checkAll]
    split
    · rename_i asked
      rw [asked] at head status
      exact ⟨⟨status, head⟩, orderly.2⟩
    · rename_i asked
      rw [asked] at head status
      exact ⟨⟨status, head⟩, tail⟩

theorem orderlyAll_checkAny (s : Scope) {active : Bool} :
    ∀ {cs : List Condition}, OrderlyAll active cs → OrderlyAll active (checkAny s cs).2
  | [], _ => trivial
  | c :: rest, orderly => by
    have head := orderly_check s orderly.1.2
    have status := (isActive_check s c).trans orderly.1.1
    have tail := orderlyAll_checkAny s orderly.2
    simp only [checkAny]
    split
    · rename_i asked
      rw [asked] at head status
      exact ⟨⟨status, head⟩, orderly.2⟩
    · rename_i asked
      rw [asked] at head status
      exact ⟨⟨status, head⟩, tail⟩

end

mutual

theorem orderly_onTrigger (tag : String) :
    ∀ {c : Condition}, c.Orderly → (c.onTrigger tag).Orderly
  | .sensor true _, orderly => Sensor.listens_onTrigger tag orderly
  | .sensor false _, orderly => orderly
  | .gate true _ _, orderly => orderlyAll_onTriggerAll tag orderly
  | .gate false _ _, orderly => orderly

theorem orderlyAll_onTriggerAll (tag : String) {active : Bool} :
    ∀ {cs : List Condition}, OrderlyAll active cs → OrderlyAll active (onTriggerAll tag cs)
  | [], _ => trivial
  | c :: _, orderly =>
    ⟨⟨(isActive_onTrigger tag c).trans orderly.1.1, orderly_onTrigger tag orderly.1.2⟩,
      orderlyAll_onTriggerAll tag orderly.2⟩

end

end Condition

namespace Transition

@[simp]
theorem active_activate (ctx : Context) (t : Transition) : (t.activate ctx).1.active = true := by
  unfold activate
  split
  · assumption
  · rfl

@[simp]
theorem active_deactivate (ctx : Context) (t : Transition) :
    (t.deactivate ctx).1.active = false := by
  unfold deactivate
  split
  · rfl
  · simp_all

@[simp]
theorem active_wait (t : Transition) (settings : Settings) (step : Float32) :
    (t.wait settings step).2.active = t.active := by
  unfold wait
  split
  · dsimp only
    split <;> rfl
  · rfl

theorem condition_wait (t : Transition) (settings : Settings) (step : Float32) :
    (t.wait settings step).2.condition = t.condition := by
  unfold wait
  split
  · dsimp only
    split <;> rfl
  · rfl

@[simp]
theorem active_check (step : Float32) (ctx : Context) (t : Transition) :
    (t.check step ctx).2.1.active = t.active := by
  rw [check_eq]
  split
  · dsimp only
    split <;> simp [evaluate]
  · rfl

@[simp]
theorem active_onTrigger (tag : String) (t : Transition) :
    (t.onTrigger tag).active = t.active := by
  unfold onTrigger
  split <;> rfl

namespace Orderly

variable {t : Transition}

theorem activate (orderly : t.Orderly) (ctx : Context) : (t.activate ctx).1.Orderly := by
  unfold Transition.activate
  split
  · exact orderly
  · exact ⟨t.condition.isActive_activate ctx, Condition.orderly_activate ctx orderly.condition⟩

theorem deactivate (orderly : t.Orderly) (ctx : Context) : (t.deactivate ctx).1.Orderly := by
  unfold Transition.deactivate
  split
  · exact ⟨t.condition.isActive_deactivate ctx,
      Condition.orderly_deactivate ctx orderly.condition⟩
  · exact orderly

theorem reset (orderly : t.Orderly) (s : Scope) : (t.reset s).Orderly :=
  ⟨(t.condition.isActive_reset s.bus).trans orderly.runs,
    Condition.orderly_reset s.bus orderly.condition⟩

theorem check (orderly : t.Orderly) (step : Float32) (ctx : Context) :
    (t.check step ctx).2.1.Orderly := by
  have updated := Condition.orderly_update (Number.atLeastZero step) ctx orderly.condition
  have runs := (t.condition.isActive_update (Number.atLeastZero step) ctx).trans orderly.runs
  rw [check_eq]
  split
  · dsimp only
    split
    · refine ⟨?_, ?_⟩
      · simpa [evaluate, condition_wait] using runs
      · rw [evaluate, condition_wait]
        exact Condition.orderly_check _ updated
    · refine ⟨?_, ?_⟩
      · simpa [condition_wait] using runs
      · rw [condition_wait]
        exact updated
  · exact orderly

theorem refusals_check (orderly : t.Orderly) (active : t.active = true) (step : Float32)
    (ctx : Context) : (t.check step ctx).2.2.refusals = ctx.refusals := by
  have updated := Condition.refusals_update (Number.atLeastZero step) ctx orderly.condition
    (orderly.runs.trans active)
  rw [check_eq, if_pos active]
  dsimp only
  split <;> exact updated

theorem onTrigger (orderly : t.Orderly) (tag : String) : (t.onTrigger tag).Orderly := by
  unfold Transition.onTrigger
  split
  · exact ⟨(t.condition.isActive_onTrigger tag).trans orderly.runs,
      Condition.orderly_onTrigger tag orderly.condition⟩
  · exact orderly

end Orderly

theorem orderly_checkFirst (step : Float32) (ctx : Context) {active : Bool}
    {ts : List Transition} (orderly : ∀ t ∈ ts, t.active = active ∧ t.Orderly) :
    ∀ t ∈ (checkFirst step ctx ts).2.1, t.active = active ∧ t.Orderly := by
  induction ts generalizing ctx with
  | nil => exact orderly
  | cons t rest ih =>
    obtain ⟨⟨status, order⟩, others⟩ := List.forall_mem_cons.mp orderly
    have checked := order.check step ctx
    have same := (t.active_check step ctx).trans status
    simp only [checkFirst]
    split
    · rename_i asked
      rw [asked] at checked same
      exact List.forall_mem_cons.mpr ⟨⟨same, checked⟩, others⟩
    · rename_i asked
      rw [asked] at checked same
      exact List.forall_mem_cons.mpr ⟨⟨same, checked⟩, ih _ others⟩

theorem refusals_checkFirst (step : Float32) (ctx : Context) {ts : List Transition}
    (orderly : ∀ t ∈ ts, t.active = true ∧ t.Orderly) :
    (checkFirst step ctx ts).2.2.refusals = ctx.refusals := by
  induction ts generalizing ctx with
  | nil => rfl
  | cons t rest ih =>
    obtain ⟨⟨status, order⟩, others⟩ := List.forall_mem_cons.mp orderly
    have checked := order.refusals_check status step ctx
    simp only [checkFirst]
    split
    · rename_i asked
      rw [asked] at checked
      exact checked
    · rename_i asked
      rw [asked] at checked
      exact (ih _ others).trans checked

end Transition

end SkillScript
