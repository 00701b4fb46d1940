import Mathlib.Data.List.Forall2
import SkillScript.Proofs.Reentry.Scope
import SkillScript.Proofs.Status.Condition
import SkillScript.Proofs.Tree.Pristine
/-!
# Conditions that look alike

Conditions are alike if they differ in nothing but the positions of receivers that
have passed equally much. A condition at rest is reset to its pristine form, so
what it has seen before is forgotten; from then on conditions that are alike give
the same answers in scopes that are alike, and stay alike.
-/
set_option autoImplicit false
namespace SkillScript

variable {k j : Nat}

namespace Sensor

def receiver? : Sensor → Option Receiver
  | event _ _ receiver _ => receiver
  | _ => none

inductive Alike (k j : Nat) : Sensor → Sensor → Prop where
  | deaf (x : Sensor) (deaf : x.receiver? = none) : Alike k j x x
  | listening (name : String) (ownerOnly fired : Bool) {r r' : Receiver}
      (same : r.Alike k j r') :
      Alike k j (event name ownerOnly (some r) fired) (event name ownerOnly (some r') fired)

theorem receiver?_of_listens {x : Sensor} (listens : x.Listens false) : x.receiver? = none := by
  cases x with
  | event name ownerOnly receiver fired =>
    cases receiver with
    | none => rfl
    | some r => cases listens
  | _ => rfl

theorem reset_eq_pristine (bus : Bus) {x : Sensor} (deaf : x.receiver? = none) :
    x.reset bus = x.pristine := by
  cases x with
  | event name ownerOnly receiver fired =>
    simp only [receiver?] at deaf
    subst deaf
    rfl
  | _ => rfl

theorem receiver?_pristine (x : Sensor) : x.pristine.receiver? = none := by
  cases x <;> rfl

theorem drain_of_deaf (s : Scope) {x : Sensor} (deaf : x.receiver? = none) : x.drain s = x := by
  cases x with
  | event name ownerOnly receiver fired =>
    simp only [receiver?] at deaf
    subst deaf
    rfl
  | _ => rfl

namespace Alike

variable {x x' : Sensor}

theorem activate {bus bus' : Bus} (alike : x.Alike k j x') (buses : bus.Alike k j bus') :
    (x.activate bus).1.Alike k j (x'.activate bus').1 := by
  cases alike with
  | deaf _ silent =>
    cases x with
    | event name ownerOnly receiver fired =>
      simp only [receiver?] at silent
      subst silent
      exact .listening name ownerOnly fired (buses.atEnd name)
    | _ => exact .deaf _ rfl
  | listening name ownerOnly fired same => exact .listening name ownerOnly fired same

theorem deactivate (bus bus' : Bus) (alike : x.Alike k j x') :
    (x.deactivate bus).1.Alike k j (x'.deactivate bus').1 := by
  cases alike with
  | deaf _ silent =>
    cases x with
    | event name ownerOnly receiver fired =>
      simp only [receiver?] at silent
      subst silent
      exact .deaf _ rfl
    | _ => exact .deaf _ rfl
  | listening name ownerOnly fired same => exact .deaf _ rfl

theorem drain {s s' : Scope} (alike : x.Alike k j x') (scopes : s.Alike k j s') :
    (x.drain s).Alike k j (x'.drain s') := by
  cases alike with
  | deaf _ silent =>
    rw [drain_of_deaf s silent, drain_of_deaf s' silent]
    exact .deaf x silent
  | listening name ownerOnly fired same =>
    simp only [Sensor.drain, scopes.bus.backlog same, scopes.owner]
    exact .listening name ownerOnly _ (scopes.bus.skip same)

theorem update (step : Float32) {s s' : Scope} (alike : x.Alike k j x')
    (scopes : s.Alike k j s') : (x.update step s).Alike k j (x'.update step s') := by
  have drained := alike.drain scopes
  cases alike with
  | deaf _ silent =>
    cases x with
    | elapsed seconds t => exact .deaf _ rfl
    | _ => exact drained
  | listening name ownerOnly fired same => exact drained

/-- The answers are the same. -/
theorem check {s s' : Scope} (alike : x.Alike k j x') (scopes : s.Alike k j s') :
    (x.check s).1 = (x'.check s').1 ∧ (x.check s).2.Alike k j (x'.check s').2 := by
  have drained := alike.drain scopes
  unfold Sensor.check
  generalize x.drain s = y at drained ⊢
  generalize x'.drain s' = y' at drained ⊢
  cases drained with
  | deaf _ silent =>
    cases y with
    | healthBelow target threshold =>
      have resolved : target.resolve s = target.resolve s' := by
        cases target <;> simp [Target.resolve, scopes.owner, scopes.vars]
      exact ⟨by simp only [resolved, scopes.entities, scopes.vars], .deaf _ rfl⟩
    | event name ownerOnly receiver fired => exact ⟨rfl, .deaf _ silent⟩
    | _ => exact ⟨by simp only [scopes.vars, scopes.settings], .deaf _ rfl⟩
  | listening name ownerOnly fired same => exact ⟨rfl, .listening name ownerOnly fired same⟩

theorem onTrigger (tag : String) (alike : x.Alike k j x') :
    (x.onTrigger tag).Alike k j (x'.onTrigger tag) := by
  cases alike with
  | deaf _ silent =>
    cases x with
    | event name ownerOnly receiver fired => exact .deaf _ silent
    | _ => exact .deaf _ rfl
  | listening name ownerOnly fired same => exact .listening name ownerOnly fired same

end Alike

end Sensor

namespace Condition

mutual

inductive Alike (k j : Nat) : Condition → Condition → Prop where
  | sensor (active : Bool) {x x' : Sensor} (same : x.Alike k j x') :
      Alike k j (sensor active x) (sensor active x')
  | gate (active : Bool) (g : Gate) {cs cs' : List Condition} (same : AlikeAll k j cs cs') :
      Alike k j (gate active g cs) (gate active g cs')

inductive AlikeAll (k j : Nat) : List Condition → List Condition → Prop where
  | nil : AlikeAll k j [] []
  | cons {c c' : Condition} {rest rest' : List Condition} (head : Alike k j c c')
      (tail : AlikeAll k j rest rest') : AlikeAll k j (c :: rest) (c' :: rest')

end

mutual

/-- A condition at rest is reset to its pristine form. -/
theorem reset_eq_pristine (bus : Bus) :
    ∀ {c : Condition}, c.isActive = false → c.Orderly → c.reset bus = c.pristine
  | .sensor false x, _, orderly => by
    rw [reset, pristine, Sensor.reset_eq_pristine bus (Sensor.receiver?_of_listens orderly)]
  | .gate false g children, _, orderly => by
    rw [reset, pristine, resetAll_eq_pristineAll bus orderly]

theorem resetAll_eq_pristineAll (bus : Bus) :
    ∀ {cs : List Condition}, OrderlyAll false cs → resetAll bus cs = pristineAll cs
  | [], _ => rfl
  | c :: rest, orderly => by
    rw [resetAll, pristineAll, reset_eq_pristine bus orderly.1.1 orderly.1.2,
      resetAll_eq_pristineAll bus orderly.2]

end

mutual

theorem alike_pristine (k j : Nat) : ∀ c : Condition, c.pristine.Alike k j c.pristine
  | .sensor _ x => .sensor false (.deaf _ x.receiver?_pristine)
  | .gate _ g children => .gate false g (alikeAll_pristineAll k j children)

theorem alikeAll_pristineAll (k j : Nat) :
    ∀ cs : List Condition, AlikeAll k j (pristineAll cs) (pristineAll cs)
  | [] => .nil
  | c :: rest => .cons (alike_pristine k j c) (alikeAll_pristineAll k j rest)

end

/-- Conditions at rest that are made of the same are alike after a reset. -/
theorem reset_alike {c c' : Condition} (made : c.pristine = c'.pristine) (bus bus' : Bus)
    (rests : c.isActive = false ∧ c.Orderly) (rests' : c'.isActive = false ∧ c'.Orderly) :
    (c.reset bus).Alike k j (c'.reset bus') := by
  rw [reset_eq_pristine bus rests.1 rests.2, reset_eq_pristine bus' rests'.1 rests'.2, made]
  exact alike_pristine k j c'

mutual

theorem Alike.activate {ctx ctx' : Context} (scopes : ctx.toScope.Alike k j ctx'.toScope) :
    ∀ {c c' : Condition}, c.Alike k j c' → (c.activate ctx).1.Alike k j (c'.activate ctx').1
  | _, _, .sensor true same => .sensor true same
  | _, _, .sensor false same => .sensor true (same.activate scopes.bus)
  | _, _, .gate true g same => .gate true g same
  | _, _, .gate false g same => .gate true g (same.activateAll scopes)

theorem AlikeAll.activateAll {ctx ctx' : Context} (scopes : ctx.toScope.Alike k j ctx'.toScope) :
    ∀ {cs cs' : List Condition}, AlikeAll k j cs cs' →
      AlikeAll k j (Condition.activateAll ctx cs).1 (Condition.activateAll ctx' cs').1
  | _, _, .nil => .nil
  | _, _, .cons head tail =>
    .cons (head.activate scopes)
      (tail.activateAll (Context.alike_of_mute scopes (mute_activate ctx _) (mute_activate ctx' _)))

end

mutual

theorem Alike.deactivate (ctx ctx' : Context) :
    ∀ {c c' : Condition}, c.Alike k j c' → (c.deactivate ctx).1.Alike k j (c'.deactivate ctx').1
  | _, _, .sensor false same => .sensor false same
  | _, _, .sensor true same => .sensor false (same.deactivate ctx.bus ctx'.bus)
  | _, _, .gate false g same => .gate false g same
  | _, _, .gate true g same => .gate false g (same.deactivateAll ctx ctx')

theorem AlikeAll.deactivateAll (ctx ctx' : Context) :
    ∀ {cs cs' : List Condition}, AlikeAll k j cs cs' →
      AlikeAll k j (Condition.deactivateAll ctx cs).1 (Condition.deactivateAll ctx' cs').1
  | _, _, .nil => .nil
  | _, _, .cons head tail => .cons (head.deactivate ctx ctx') (tail.deactivateAll _ _)

end

mutual

theorem Alike.update (step : Float32) {ctx ctx' : Context}
    (scopes : ctx.toScope.Alike k j ctx'.toScope) : ∀ {c c' : Condition}, c.Alike k j c' →
      (c.update step ctx).1.Alike k j (c'.update step ctx').1
  | _, _, .sensor false same => .sensor false same
  | _, _, .sensor true same => .sensor true (same.update _ scopes)
  | _, _, .gate false g same => .gate false g same
  | _, _, .gate true g same => .gate true g (same.updateAll _ scopes)

theorem AlikeAll.updateAll (step : Float32) {ctx ctx' : Context}
    (scopes : ctx.toScope.Alike k j ctx'.toScope) : ∀ {cs cs' : List Condition},
      AlikeAll k j cs cs' →
      AlikeAll k j (Condition.updateAll step ctx cs).1 (Condition.updateAll step ctx' cs').1
  | _, _, .nil => .nil
  | _, _, .cons head tail =>
    .cons (head.update step scopes)
      (tail.updateAll step
        (Context.alike_of_pardon scopes (pardon_update step ctx _) (pardon_update step ctx' _)))

end

mutual

/-- The answers are the same. -/
theorem Alike.check {s s' : Scope} (scopes : s.Alike k j s') :
    ∀ {c c' : Condition}, c.Alike k j c' →
      (c.check s).1 = (c'.check s').1 ∧ (c.check s).2.Alike k j (c'.check s').2
  | _, _, .sensor false same => ⟨rfl, .sensor false same⟩
  | _, _, .sensor true same => ⟨(same.check scopes).1, .sensor true (same.check scopes).2⟩
  | _, _, .gate false g same => by cases g <;> exact ⟨rfl, .gate false _ same⟩
  | _, _, .gate true .not same =>
    ⟨congrArg (!·) (same.checkAll scopes).1, .gate true .not (same.checkAll scopes).2⟩
  | _, _, .gate true .all same =>
    ⟨(same.checkAll scopes).1, .gate true .all (same.checkAll scopes).2⟩
  | _, _, .gate true .any same =>
    ⟨(same.checkAny scopes).1, .gate true .any (same.checkAny scopes).2⟩

theorem AlikeAll.checkAll {s s' : Scope} (scopes : s.Alike k j s') :
    ∀ {cs cs' : List Condition}, AlikeAll k j cs cs' →
      (Condition.checkAll s cs).1 = (Condition.checkAll s' cs').1 ∧
        AlikeAll k j (Condition.checkAll s cs).2 (Condition.checkAll s' cs').2
  | _, _, .nil => ⟨rfl, .nil⟩
  | c :: _, c' :: _, .cons head tail => by
    obtain ⟨same, asked⟩ := head.check scopes
    obtain ⟨answered, others⟩ := tail.checkAll scopes
    simp only [Condition.checkAll]
    cases left : c.check s with
    | mk answer d =>
      cases right : c'.check s' with
      | mk answer' d' =>
        rw [left, right] at same asked
        simp only at same asked
        subst same
        cases answer with
        | false => exact ⟨rfl, .cons asked tail⟩
        | true => exact ⟨answered, .cons asked others⟩

theorem AlikeAll.checkAny {s s' : Scope} (scopes : s.Alike k j s') :
    ∀ {cs cs' : List Condition}, AlikeAll k j cs cs' →
      (Condition.checkAny s cs).1 = (Condition.checkAny s' cs').1 ∧
        AlikeAll k j (Condition.checkAny s cs).2 (Condition.checkAny s' cs').2
  | _, _, .nil => ⟨rfl, .nil⟩
  | c :: _, c' :: _, .cons head tail => by
    obtain ⟨same, asked⟩ := head.check scopes
    obtain ⟨answered, others⟩ := tail.checkAny scopes
    simp only [Condition.checkAny]
    cases left : c.check s with
    | mk answer d =>
      cases right : c'.check s' with
      | mk answer' d' =>
        rw [left, right] at same asked
        simp only at same asked
        subst same
        cases answer with
        | true => exact ⟨rfl, .cons asked tail⟩
        | false => exact ⟨answered, .cons asked others⟩

end

mutual

theorem Alike.onTrigger (tag : String) : ∀ {c c' : Condition}, c.Alike k j c' →
    (c.onTrigger tag).Alike k j (c'.onTrigger tag)
  | _, _, .sensor false same => .sensor false same
  | _, _, .sensor true same => .sensor true (same.onTrigger tag)
  | _, _, .gate false g same => .gate false g same
  | _, _, .gate true g same => .gate true g (same.onTriggerAll tag)

theorem AlikeAll.onTriggerAll (tag : String) : ∀ {cs cs' : List Condition},
    AlikeAll k j cs cs' →
      AlikeAll k j (Condition.onTriggerAll tag cs) (Condition.onTriggerAll tag cs')
  | _, _, .nil => .nil
  | _, _, .cons head tail => .cons (head.onTrigger tag) (tail.onTriggerAll tag)

end

end Condition

namespace Transition

/-- Transitions that differ in how often they were asked and, by as much as their conditions may,
in what they listen to. -/
structure Alike (k j : Nat) (t t' : Transition) : Prop where
  active : t.active = t'.active
  condition : t.condition.Alike k j t'.condition
  onTrue : t.onTrue = t'.onTrue
  onFalse : t.onFalse = t'.onFalse
  interval : t.interval = t'.interval
  period : t.period = t'.period
  cooldown : t.cooldown = t'.cooldown

/-- Transitions at rest that are made of the same are alike after a reset. -/
theorem reset_alike {t t' : Transition} (made : t.pristine = t'.pristine) {s s' : Scope}
    (scopes : s.Alike k j s') (rests : t.active = false ∧ t.Orderly)
    (rests' : t'.active = false ∧ t'.Orderly) : (t.reset s).Alike k j (t'.reset s') := by
  simp only [pristine, Transition.mk.injEq] at made
  obtain ⟨-, condition, onTrue, onFalse, interval, -⟩ := made
  have periods : periodOf t.interval s.vars = periodOf t'.interval s'.vars := by
    rw [interval, scopes.vars]
  refine ⟨?_, ?_, onTrue, onFalse, interval, periods, periods⟩
  · exact rests.1.trans rests'.1.symm
  · exact Condition.reset_alike condition s.bus s'.bus
      ⟨rests.2.runs.trans rests.1, rests.2.condition⟩
      ⟨rests'.2.runs.trans rests'.1, rests'.2.condition⟩

namespace Alike

variable {t t' : Transition} {ctx ctx' : Context}

theorem activate (alike : t.Alike k j t') (scopes : ctx.toScope.Alike k j ctx'.toScope) :
    (t.activate ctx).1.Alike k j (t'.activate ctx').1 := by
  have woken := alike.condition.activate scopes
  unfold Transition.activate
  rw [← alike.active]
  split
  · exact alike
  · exact ⟨rfl, woken, alike.onTrue, alike.onFalse, alike.interval, alike.period,
      alike.cooldown⟩

theorem deactivate (alike : t.Alike k j t') (ctx ctx' : Context) :
    (t.deactivate ctx).1.Alike k j (t'.deactivate ctx').1 := by
  have rested := alike.condition.deactivate ctx ctx'
  unfold Transition.deactivate
  rw [← alike.active]
  split
  · exact ⟨rfl, rested, alike.onTrue, alike.onFalse, alike.interval, alike.period,
      alike.cooldown⟩
  · exact alike

theorem wait (alike : t.Alike k j t') (settings : Settings) (step : Float32) :
    (t.wait settings step).1 = (t'.wait settings step).1 ∧
      (t.wait settings step).2.Alike k j (t'.wait settings step).2 := by
  unfold Transition.wait
  rw [← alike.period, ← alike.cooldown]
  split
  · dsimp only
    split
    · exact ⟨rfl, alike.active, alike.condition, alike.onTrue, alike.onFalse, alike.interval,
        rfl, rfl⟩
    · exact ⟨rfl, alike.active, alike.condition, alike.onTrue, alike.onFalse, alike.interval,
        rfl, rfl⟩
  · exact ⟨rfl, alike⟩

theorem evaluate (alike : t.Alike k j t') {s s' : Scope} (scopes : s.Alike k j s') :
    (t.evaluate s).1 = (t'.evaluate s').1 ∧ (t.evaluate s).2.Alike k j (t'.evaluate s').2 := by
  obtain ⟨same, asked⟩ := alike.condition.check scopes
  refine ⟨?_, alike.active, asked, alike.onTrue, alike.onFalse, alike.interval, alike.period,
    alike.cooldown⟩
  simp only [Transition.evaluate, same, alike.onTrue, alike.onFalse]

/-- The same state is named. -/
theorem check (alike : t.Alike k j t') (step : Float32)
    (scopes : ctx.toScope.Alike k j ctx'.toScope) :
    (t.check step ctx).1 = (t'.check step ctx').1 ∧
      (t.check step ctx).2.1.Alike k j (t'.check step ctx').2.1 := by
  rw [check_eq, check_eq]
  by_cases awake : t.active = true
  · rw [if_pos awake, if_pos (alike.active.symm.trans awake)]
    have updated := alike.condition.update (Number.atLeastZero step) scopes
    have later := Context.alike_of_pardon scopes
      (t.condition.pardon_update (Number.atLeastZero step) ctx)
      (t'.condition.pardon_update (Number.atLeastZero step) ctx')
    have moved : Alike k j
        { t with condition := (t.condition.update (Number.atLeastZero step) ctx).1 }
        { t' with condition := (t'.condition.update (Number.atLeastZero step) ctx').1 } :=
      ⟨alike.active, updated, alike.onTrue, alike.onFalse, alike.interval, alike.period,
        alike.cooldown⟩
    obtain ⟨due, waited⟩ := moved.wait
      (t.condition.update (Number.atLeastZero step) ctx).2.settings (Number.atLeastZero step)
    dsimp only
    rw [← later.settings, ← due]
    split
    · exact waited.evaluate later
    · exact ⟨rfl, waited⟩
  · rw [if_neg awake, if_neg (by rwa [← alike.active])]
    exact ⟨rfl, alike⟩

theorem onTrigger (alike : t.Alike k j t') (tag : String) :
    (t.onTrigger tag).Alike k j (t'.onTrigger tag) := by
  unfold Transition.onTrigger
  rw [← alike.active]
  split
  · exact ⟨rfl, alike.condition.onTrigger tag, alike.onTrue, alike.onFalse,
      alike.interval, alike.period, alike.cooldown⟩
  · exact alike

end Alike

theorem alike_checkFirst (step : Float32) {ctx ctx' : Context}
    (scopes : ctx.toScope.Alike k j ctx'.toScope) {ts ts' : List Transition}
    (alike : List.Forall₂ (Alike k j) ts ts') :
    (checkFirst step ctx ts).1 = (checkFirst step ctx' ts').1 ∧
      List.Forall₂ (Alike k j) (checkFirst step ctx ts).2.1 (checkFirst step ctx' ts').2.1 := by
  induction alike generalizing ctx ctx' with
  | nil => exact ⟨rfl, .nil⟩
  | @cons t t' rest rest' head tail ih =>
    obtain ⟨same, checked⟩ := head.check step scopes
    have later := Context.alike_of_pardon scopes (t.pardon_check step ctx)
      (t'.pardon_check step ctx')
    obtain ⟨answered, others⟩ := ih later
    simp only [checkFirst]
    cases left : t.check step ctx with
    | mk target p =>
      cases right : t'.check step ctx' with
      | mk target' p' =>
        rw [left, right] at same checked answered others
        simp only at same
        subst same
        cases target with
        | some id => exact ⟨rfl, .cons checked tail⟩
        | none => exact ⟨answered, .cons checked others⟩

end Transition

end SkillScript
