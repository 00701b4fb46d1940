import SkillScript.Node.Behavior
import SkillScript.Proofs.Tree.Each
/-!
# Instant behaviors

Some behaviors have nothing left to do as soon as they are entered, although what
they do is done by their first update: deeds, behaviors of the host that run no hook
on updates, and sequences and parallels without children. Entered, but not yet
updated, a behavior can stop exactly if it is one of these, however many triggers it
has got.
-/
set_option autoImplicit false
namespace SkillScript

variable {β : Type} [Behaves β]

namespace Task

/-- The task goes on past its first update only if a hook makes it. -/
def isInstant : Task → Bool
  | deed _ => true
  | delegate _ host _ => host.hooks.onUpdate.isNone
  | _ => false

theorem canStop_reset (s : Scope) (t : Task) : (t.reset s).canStop = t.isInstant := by
  cases t <;> rfl

theorem isInstant_reset (s : Scope) (t : Task) : (t.reset s).isInstant = t.isInstant := by
  cases t <;> rfl

end Task

namespace Sequence

variable {s : Sequence β}

omit [Behaves β] in
theorem canStop_of_first (first : s.index = 0) : s.canStop = s.children.isEmpty := by
  rw [canStop, first]
  cases s.children with
  | nil => rfl
  | cons c rest => simp

theorem index_onActivate (ctx : Context) (s : Sequence β) :
    (s.onActivate ctx).1.index = s.index := by
  rw [onActivate]
  split <;> rfl

theorem index_onReset (ctx : Context) (s : Sequence β) : (s.onReset ctx).1.index = 0 := rfl

theorem canStop_onTrigger (tag : String) (s : Sequence β) :
    (s.onTrigger tag).canStop = s.canStop := by
  simp [onTrigger, canStop]

theorem isEmpty_onTrigger (tag : String) (s : Sequence β) :
    (s.onTrigger tag).children.isEmpty = s.children.isEmpty := by
  have same : (s.onTrigger tag).children.length = s.children.length := by simp [onTrigger]
  rw [Bool.eq_iff_iff, List.isEmpty_iff_length_eq_zero, List.isEmpty_iff_length_eq_zero, same]

end Sequence

namespace Parallel

variable {p : Parallel β}

def Unfinished (p : Parallel β) : Prop :=
  ∀ l ∈ p.lanes, l.finished = false

omit [Behaves β] in
theorem Unfinished.canStop (unfinished : p.Unfinished) : p.canStop = p.lanes.isEmpty := by
  cases lanes : p.lanes with
  | nil => simp [Parallel.canStop, lanes]
  | cons l rest =>
    have open' : l.finished = false := unfinished l (by simp [lanes])
    simp [Parallel.canStop, lanes, open']

theorem unfinished_onReset (ctx : Context) (p : Parallel β) : (p.onReset ctx).1.Unfinished := by
  intro l member
  obtain ⟨l', -, rfl⟩ := List.mem_map.mp member
  rfl

theorem Unfinished.onActivate (unfinished : p.Unfinished) (ctx : Context) :
    (p.onActivate ctx).1.Unfinished := by
  rw [Parallel.onActivate]
  split
  · intro l member
    obtain ⟨l', inside, ctx', rfl⟩ := mem_actAll member
    have same : (l'.actIfRunning Behaves.activate ctx').1.finished = l'.finished := by
      rw [Lane.actIfRunning]
      split <;> rfl
    rw [same]
    exact unfinished l' inside
  · intro l member
    obtain ⟨l', inside, ctx', rfl⟩ := mem_actAll member
    obtain ⟨l, -, rfl⟩ := List.mem_map.mp inside
    rfl

theorem canStop_onTrigger (tag : String) (p : Parallel β) :
    (p.onTrigger tag).canStop = p.canStop := by
  simp only [onTrigger, canStop, List.all_map]
  refine congrArg p.lanes.all (funext fun l => ?_)
  cases finished : l.finished <;> simp [finished]

theorem isEmpty_onTrigger (tag : String) (p : Parallel β) :
    (p.onTrigger tag).lanes.isEmpty = p.lanes.isEmpty := by
  simp [onTrigger]

end Parallel

namespace Machine

variable {m : Machine β}

def Goes (m : Machine β) : Prop :=
  ∀ s, m.currentState? = some s → s.ended = false

omit [Behaves β] in
theorem Goes.canStop (goes : m.Goes) : m.canStop = false := by
  rw [Machine.canStop]
  cases state : m.currentState? with
  | none => rfl
  | some s => simp [goes s state]

theorem goes_onReset (ctx : Context) (m : Machine β) : (m.onReset ctx).1.Goes := by
  intro s state
  cases state

theorem ended_enter (ctx : Context) (s : State β) : (s.enter ctx).1.ended = false := by
  simp only [State.enter, State.activate]
  split <;> rfl

theorem goes_enterAt (ctx : Context) (m : Machine β) (i : Nat) : (m.enterAt ctx i).1.Goes := by
  intro s state
  have state : (actAt State.enter ctx i m.states).1[i]? = some s := state
  rcases getElem?_actAt_eq_some state with ⟨-, s', -, rfl⟩ | ⟨other, -⟩
  · exact ended_enter ctx s'
  · exact absurd rfl other

theorem Goes.onActivate (goes : m.Goes) (ctx : Context) : (m.onActivate ctx).1.Goes := by
  cases current : m.current with
  | none =>
    simp only [Machine.onActivate, current, enterInitial]
    split
    · exact goes
    · exact goes_enterAt ctx m _
  | some i =>
    simp only [Machine.onActivate, current, actOnCurrent]
    intro s state
    have state : (actAt State.activate ctx i m.states).1[i]? = some s := by
      simpa [currentState?, current] using state
    rcases getElem?_actAt_eq_some state with ⟨-, s', inside, rfl⟩ | ⟨other, -⟩
    · have same : (s'.activate ctx).1.ended = s'.ended := by
        rw [State.activate]
        split <;> rfl
      rw [same]
      exact goes s' (by simpa [currentState?, current] using inside)
    · exact absurd rfl other

theorem canStop_onTrigger (tag : String) (m : Machine β) :
    (m.onTrigger tag).canStop = m.canStop := by
  cases current : m.current with
  | none => simp only [onTrigger, current]
  | some i =>
    simp only [onTrigger, canStop, currentState?, current, Option.bind_some,
      List.getElem?_modify]
    cases m.states[i]? with
    | none => rfl
    | some s =>
      cases active : s.active <;> simp [State.onTrigger, active]

end Machine

namespace Logic

/-- What the behavior does is done by its first update. -/
def isInstant : Logic β → Bool
  | task t => t.isInstant
  | sequence s => s.children.isEmpty
  | parallel p => p.lanes.isEmpty
  | machine _ => false

def Unspent (l : Logic β) : Prop :=
  l.canStop = l.isInstant

theorem unspent_onReset (ctx : Context) (l : Logic β) : (l.onReset ctx).1.Unspent := by
  cases l with
  | task t => exact (t.canStop_reset ctx.toScope).trans (t.isInstant_reset ctx.toScope).symm
  | sequence s => exact Sequence.canStop_of_first (s.index_onReset ctx)
  | parallel p => exact (p.unfinished_onReset ctx).canStop
  | machine m => exact (m.goes_onReset ctx).canStop

theorem unspent_enter (ctx ctx' : Context) (l : Logic β) :
    ((l.onReset ctx).1.onActivate ctx').1.Unspent := by
  cases l with
  | task t => exact unspent_onReset ctx (task t)
  | sequence s =>
    have first : ((s.onReset ctx).1.onActivate ctx').1.index = 0 := Sequence.index_onActivate ctx' _
    exact Sequence.canStop_of_first first
  | parallel p => exact ((p.unfinished_onReset ctx).onActivate ctx').canStop
  | machine m => exact ((m.goes_onReset ctx).onActivate ctx').canStop

theorem canStop_onTrigger (tag : String) (l : Logic β) :
    (l.onTrigger tag).canStop = l.canStop := by
  cases l with
  | task t => rfl
  | sequence s => exact s.canStop_onTrigger tag
  | parallel p => exact p.canStop_onTrigger tag
  | machine m => exact m.canStop_onTrigger tag

theorem isInstant_onTrigger (tag : String) (l : Logic β) :
    (l.onTrigger tag).isInstant = l.isInstant := by
  cases l with
  | task t => rfl
  | sequence s => exact s.isEmpty_onTrigger tag
  | parallel p => exact p.isEmpty_onTrigger tag
  | machine m => rfl

end Logic

namespace Node

def Unspent (n : Node β) : Prop :=
  n.logic.Unspent

theorem unspent_enter (ctx : Context) (n : Node β) : (Behaves.enter ctx n).1.Unspent := by
  have entered : (Behaves.enter ctx n).1 = ((n.reset ctx).1.activate (n.reset ctx).2).1 := rfl
  rw [entered, activate]
  split
  · exact n.logic.unspent_onReset ctx
  · exact n.logic.unspent_enter ctx _

theorem Unspent.onTrigger {n : Node β} (unspent : n.Unspent) (tag : String) :
    (n.onTrigger tag).Unspent := by
  rw [Node.onTrigger]
  split
  · exact (n.logic.canStop_onTrigger tag).trans
      (unspent.trans (n.logic.isInstant_onTrigger tag).symm)
  · exact unspent

end Node

namespace Behavior

def isInstant : {height : Nat} → Behavior height → Bool
  | 0, b => nomatch b
  | _ + 1, n => n.logic.isInstant

/-- The behavior can stop exactly if it is instant: it has not been updated since it was entered. -/
def Unspent {height : Nat} (b : Behavior height) : Prop :=
  canStop b = b.isInstant

theorem unspent_enter {height : Nat} (ctx : Context) (b : Behavior height) :
    (Behaves.enter ctx b).1.Unspent := by
  cases height with
  | zero => exact nomatch b
  | succ height => exact Node.unspent_enter ctx b

theorem Unspent.onTrigger {height : Nat} {b : Behavior height} (unspent : b.Unspent)
    (tag : String) : Unspent (Behaves.onTrigger tag b) := by
  cases height with
  | zero => exact nomatch b
  | succ height => exact Node.Unspent.onTrigger unspent tag

end Behavior

end SkillScript
