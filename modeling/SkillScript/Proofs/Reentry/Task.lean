import SkillScript.Proofs.Reentry.Scope
import SkillScript.Proofs.Tree.Pristine
/-!
# Tasks that begin again

A task that has not begun since its reset will read its durations, its target and
its rate when it begins; what is left of an earlier flow of health is not read again.
From its beginning on, a task depends on nothing but itself and its scope. Tasks
with code of the host are left aside: nothing is known of what they do.
-/
set_option autoImplicit false
namespace SkillScript

variable {k j : Nat} {s s' : Scope}

namespace Scope.Alike

theorem resolve (alike : s.Alike k j s') (t : Target) : t.resolve s = t.resolve s' := by
  cases t <;> simp only [Target.resolve, alike.owner, alike.vars]

theorem live? (alike : s.Alike k j s') (t : Target) : t.live? s = t.live? s' := by
  rw [Target.live?, Target.live?, alike.resolve t, alike.entities]

theorem adjustHealth (alike : s.Alike k j s') (id : EntityId) (delta : Int32) :
    (s.adjustHealth id delta).Alike k j (s'.adjustHealth id delta) := by
  have adjusted := alike.withEntities (s.entities.adjustHealth id delta)
  unfold Scope.adjustHealth
  rw [← alike.entities]
  exact adjusted

theorem perform (alike : s.Alike k j s') (d : Deed) :
    (d.perform s).Alike k j (d.perform s') := by
  cases d with
  | setVar name value =>
    simp only [Deed.perform, ← alike.vars]
    exact alike.withVars _
  | modifyHealth target amount =>
    simp only [Deed.perform, ← alike.live? target, ← alike.vars]
    cases target.live? s with
    | none => exact alike
    | some id => exact alike.adjustHealth id _
  | publishEvent event names =>
    simp only [Deed.perform, ← alike.vars]
    exact alike.publish event _
  | spawnOwned kind storeAs =>
    have same : s.entities.spawn s.owner kind s.tag = s'.entities.spawn s'.owner kind s'.tag := by
      rw [alike.entities, alike.owner, alike.tag]
    have spawned := alike.withEntities (s.entities.spawn s.owner kind s.tag).2
    simp only [Deed.perform, ← same]
    split
    · rw [← alike.vars]
      exact spawned.withVars _
    · exact spawned

theorem apply (alike : s.Alike k j s') (f : Flow) (whole : Int32) :
    (f.apply whole s).1 = (f.apply whole s').1 ∧
      (f.apply whole s).2.Alike k j (f.apply whole s').2 := by
  unfold Flow.apply
  split
  · exact ⟨rfl, alike⟩
  · refine ⟨rfl, ?_⟩
    cases f.target with
    | none => exact alike
    | some id => exact alike.adjustHealth id whole

end Scope.Alike

namespace Task

/-- The task without what is left of an earlier flow. -/
def dry : Task → Task
  | healthOverTime c timer _ => healthOverTime c timer {}
  | t => t

def Alike (begun : Bool) (t t' : Task) : Prop :=
  if begun then t = t' else t.dry = t'.dry

def IsScripted : Task → Prop
  | waitCheck _ _ _ _ => False
  | delegate _ _ _ => False
  | _ => True

theorem isScripted_of_type {t : Task} (builtin : NodeType.behavior t.type ∈ NodeType.builtins) :
    t.IsScripted := by
  cases t with
  | waitCheck attrs predicate elapsed satisfied =>
    exact absurd builtin (by simp [type, NodeType.builtins])
  | delegate number host finished => exact absurd builtin (by simp [type, NodeType.builtins])
  | _ => trivial

@[simp]
theorem canStop_dry (t : Task) : t.dry.canStop = t.canStop := by
  cases t <;> rfl

theorem Alike.canStop {begun : Bool} {t t' : Task} (alike : t.Alike begun t') :
    t.canStop = t'.canStop := by
  cases begun with
  | true =>
    have same : t = t' := alike
    rw [same]
  | false =>
    have same : t.dry = t'.dry := alike
    rw [← canStop_dry t, same, canStop_dry]

/-- Resetting tasks that are made of the same. -/
theorem reset_alike (scopes : s.Alike k j s') {t t' : Task} (made : t.pristine = t'.pristine) :
    (t.reset s).Alike false (t'.reset s') := by
  show (t.reset s).dry = (t'.reset s').dry
  have dried (t : Task) : (t.reset s).dry = (t.pristine.reset s).dry := by
    cases t <;> rfl
  have dried' (t : Task) : (t.reset s').dry = (t.pristine.reset s').dry := by
    cases t <;> rfl
  have same (t : Task) : (t.reset s).dry = (t.reset s').dry := by
    cases t <;> simp only [reset, dry, scopes.vars]
  rw [dried t, made, same, ← dried' t']

/-- Whatever a task was before, it begins in the same way. -/
theorem Alike.begin (scopes : s.Alike k j s') {t t' : Task} (scripted : t.IsScripted)
    (alike : t.Alike false t') :
    (t.begin s).1 = (t'.begin s').1 ∧ (t.begin s).2.Alike k j (t'.begin s').2 := by
  have same : t.dry = t'.dry := alike
  have dried : t'.dry.begin s' = t'.begin s' := by
    cases t' <;> rfl
  rw [← dried, ← same]
  cases t with
  | wait c timer => exact ⟨by simp only [dry, Task.begin, scopes.vars], scopes⟩
  | healthOverTime c timer flow =>
    exact ⟨by simp only [dry, Task.begin, scopes.vars, scopes.live?], scopes⟩
  | deed d => exact ⟨rfl, scopes.perform d⟩
  | waitCheck attrs predicate elapsed satisfied => exact scripted.elim
  | delegate number host finished => exact scripted.elim

/-- An update leaves the same of the step and has the same effects. -/
theorem update_alike (step : Float32) (scopes : s.Alike k j s') {t : Task}
    (scripted : t.IsScripted) :
    (t.update step s).1 = (t.update step s').1 ∧
      (t.update step s).2.1 = (t.update step s').2.1 ∧
      (t.update step s).2.2.Alike k j (t.update step s').2.2 := by
  cases t with
  | wait c timer =>
    simp only [update, ← scopes.settings]
    split
    · exact ⟨rfl, rfl, scopes⟩
    · refine ⟨rfl, rfl, ?_⟩
      dsimp only
      split
      · exact scopes.publish _ _
      · exact scopes
  | healthOverTime c timer flow =>
    simp only [update, ← scopes.settings]
    split
    · exact ⟨rfl, rfl, scopes⟩
    · dsimp only
      generalize timer.advance s.settings step = advanced
      obtain ⟨passed, after⟩ := scopes.apply
        { flow with pending := flow.pending + flow.rate * advanced.1 }
        (Number.truncate (flow.pending + flow.rate * advanced.1))
      rw [← passed]
      split
      · obtain ⟨rest, last⟩ := after.apply _ _
        exact ⟨rfl, by rw [rest], last⟩
      · exact ⟨rfl, rfl, after⟩
  | deed d => exact ⟨rfl, rfl, scopes⟩
  | waitCheck attrs predicate elapsed satisfied => exact scripted.elim
  | delegate number host finished => exact scripted.elim

end Task

end SkillScript
