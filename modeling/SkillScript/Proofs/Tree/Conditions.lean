import SkillScript.Node.Transition
import SkillScript.Proofs.Tree.Each
/-!
# Conditions as trees of sensors

What a call does to a joined condition it does to all its children, one after another.
So what holds of sensors, and of a joined condition if it holds of its children, holds
of every condition; and what a call leaves alone in every sensor, it leaves alone in
the sensors of every condition.
-/
set_option autoImplicit false
namespace SkillScript

namespace Sensor

theorem snd_check (s : Scope) (x : Sensor) : (x.check s).2 = x.drain s := by
  unfold check
  cases x.drain s <;> rfl

end Sensor

namespace Condition

/-- What holds of every sensor, and of a gate if it holds of its children, holds of every
condition. -/
@[elab_as_elim]
theorem byChildren {P : Condition → Prop} (sensor : ∀ active x, P (sensor active x))
    (gate : ∀ active g children, (∀ c ∈ children, P c) → P (gate active g children))
    (c : Condition) : P c := by
  cases c with
  | sensor active x => exact sensor active x
  | gate active g children =>
    exact gate active g children fun c _ => byChildren sensor gate c

theorem activateAll_eq (ctx : Context) (cs : List Condition) :
    activateAll ctx cs = actAll activate ctx cs := by
  induction cs generalizing ctx with
  | nil => rfl
  | cons c rest ih =>
    simp only [activateAll, ih]
    rfl

theorem deactivateAll_eq (ctx : Context) (cs : List Condition) :
    deactivateAll ctx cs = actAll deactivate ctx cs := by
  induction cs generalizing ctx with
  | nil => rfl
  | cons c rest ih =>
    simp only [deactivateAll, ih]
    rfl

theorem updateAll_eq (step : Float32) (ctx : Context) (cs : List Condition) :
    updateAll step ctx cs = actAll (update step) ctx cs := by
  induction cs generalizing ctx with
  | nil => rfl
  | cons c rest ih =>
    simp only [updateAll, ih]
    rfl

theorem resetAll_eq (bus : Bus) (cs : List Condition) : resetAll bus cs = cs.map (reset bus) := by
  induction cs with
  | nil => rfl
  | cons c rest ih => rw [resetAll, ih, List.map_cons]

theorem onTriggerAll_eq (tag : String) (cs : List Condition) :
    onTriggerAll tag cs = cs.map (onTrigger tag) := by
  induction cs with
  | nil => rfl
  | cons c rest ih => rw [onTriggerAll, ih, List.map_cons]

theorem releaseAll_eq (ctx : Context) (cs : List Condition) :
    releaseAll ctx cs = cs.foldl release ctx := by
  induction cs generalizing ctx with
  | nil => rfl
  | cons c rest ih =>
    rw [releaseAll, ih]
    rfl

/-! ## The sensors of a condition -/

mutual

def sensors : Condition → List Sensor
  | sensor _ x => [x]
  | gate _ _ children => sensorsAll children

def sensorsAll : List Condition → List Sensor
  | [] => []
  | c :: rest => sensors c ++ sensorsAll rest

end

theorem sensorsAll_eq (cs : List Condition) : sensorsAll cs = cs.flatMap sensors := by
  induction cs with
  | nil => rfl
  | cons c rest ih => rw [sensorsAll, ih, List.flatMap_cons]

def readings {γ : Type} (read : Sensor → γ) (c : Condition) : List γ :=
  c.sensors.map read

variable {γ : Type} {read : Sensor → γ}

theorem readings_gate (active : Bool) (g : Gate) (children : List Condition) :
    (gate active g children).readings read = (children.map (readings read)).flatten := by
  show (sensorsAll children).map read = _
  rw [sensorsAll_eq, List.map_flatMap, List.flatMap_def]
  rfl

theorem readings_gate_congr {active active' : Bool} {g : Gate} {cs cs' : List Condition}
    (same : cs'.map (readings read) = cs.map (readings read)) :
    (gate active' g cs').readings read = (gate active g cs).readings read := by
  rw [readings_gate, readings_gate, same]

/-! What no sensor changes in a call, no condition changes. -/

theorem readings_activate (same : ∀ bus x, read (x.activate bus).1 = read x) (ctx : Context)
    (c : Condition) : (c.activate ctx).1.readings read = c.readings read := by
  induction c using byChildren generalizing ctx with
  | sensor active x =>
    cases active with
    | true => rfl
    | false => exact congrArg (fun r => [r]) (same ctx.bus x)
  | gate active g children ih =>
    cases active with
    | true => rfl
    | false =>
      refine readings_gate_congr ?_
      rw [activateAll_eq]
      exact map_actAll_of_mem (fun c member ctx => ih c member ctx) ctx

theorem readings_deactivate (same : ∀ bus x, read (x.deactivate bus).1 = read x) (ctx : Context)
    (c : Condition) : (c.deactivate ctx).1.readings read = c.readings read := by
  induction c using byChildren generalizing ctx with
  | sensor active x =>
    cases active with
    | false => rfl
    | true => exact congrArg (fun r => [r]) (same ctx.bus x)
  | gate active g children ih =>
    cases active with
    | false => rfl
    | true =>
      refine readings_gate_congr ?_
      rw [deactivateAll_eq]
      exact map_actAll_of_mem (fun c member ctx => ih c member ctx) ctx

theorem readings_update (same : ∀ step s x, read (Sensor.update step s x) = read x)
    (step : Float32) (ctx : Context) (c : Condition) :
    (c.update step ctx).1.readings read = c.readings read := by
  induction c using byChildren generalizing step ctx with
  | sensor active x =>
    cases active with
    | false => rfl
    | true => exact congrArg (fun r => [r]) (same _ _ x)
  | gate active g children ih =>
    cases active with
    | false => rfl
    | true =>
      refine readings_gate_congr ?_
      rw [updateAll_eq]
      exact map_actAll_of_mem (fun c member ctx => ih c member _ ctx) ctx

theorem readings_onTrigger {tag : String} (same : ∀ x, read (Sensor.onTrigger tag x) = read x)
    (c : Condition) : (c.onTrigger tag).readings read = c.readings read := by
  induction c using byChildren with
  | sensor active x =>
    cases active with
    | false => rfl
    | true => exact congrArg (fun r => [r]) (same x)
  | gate active g children ih =>
    cases active with
    | false => rfl
    | true =>
      refine readings_gate_congr ?_
      rw [onTriggerAll_eq, List.map_map]
      exact List.map_congr_left ih

theorem readings_checkAll {s : Scope} {cs : List Condition}
    (same : ∀ c ∈ cs, (c.check s).2.readings read = c.readings read) :
    (checkAll s cs).2.map (readings read) = cs.map (readings read) := by
  induction cs with
  | nil => rfl
  | cons c rest ih =>
    obtain ⟨first, later⟩ := List.forall_mem_cons.mp same
    simp only [checkAll]
    split
    · rename_i asked
      rw [asked] at first
      simp only [List.map_cons, first]
    · rename_i asked
      rw [asked] at first
      simp only [List.map_cons, first, ih later]

theorem readings_checkAny {s : Scope} {cs : List Condition}
    (same : ∀ c ∈ cs, (c.check s).2.readings read = c.readings read) :
    (checkAny s cs).2.map (readings read) = cs.map (readings read) := by
  induction cs with
  | nil => rfl
  | cons c rest ih =>
    obtain ⟨first, later⟩ := List.forall_mem_cons.mp same
    simp only [checkAny]
    split
    · rename_i asked
      rw [asked] at first
      simp only [List.map_cons, first]
    · rename_i asked
      rw [asked] at first
      simp only [List.map_cons, first, ih later]

theorem readings_check {s : Scope} (same : ∀ x, read (Sensor.drain s x) = read x)
    (c : Condition) : (c.check s).2.readings read = c.readings read := by
  induction c using byChildren with
  | sensor active x =>
    cases active with
    | false => rfl
    | true =>
      have drained : ((sensor true x).check s).2 = sensor true (x.drain s) :=
        congrArg (sensor true) (x.snd_check s)
      rw [drained]
      exact congrArg (fun r => [r]) (same x)
  | gate active g children ih =>
    cases active with
    | false => cases g <;> rfl
    | true =>
      cases g with
      | not => exact readings_gate_congr (readings_checkAll ih)
      | all => exact readings_gate_congr (readings_checkAll ih)
      | any => exact readings_gate_congr (readings_checkAny ih)

end Condition

end SkillScript
