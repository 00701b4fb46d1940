import SkillScript.Proofs.Tree.Quiet
/-!
# Scopes that look alike from now on

Two scopes are alike from two moments on if they agree in everything but the part
of their journals before these moments. Receivers are alike if they have passed
equally much of what came later; then the same events are waiting for them. Whatever
is done alike to scopes that are alike leaves them alike.
-/
set_option autoImplicit false
namespace SkillScript

variable {k j : Nat}

/-- Receivers that have passed equally much since the moments `k` and `j`. -/
structure Receiver.Alike (k j : Nat) (r r' : Receiver) : Prop where
  name : r.name = r'.name
  passed : ∃ n, r.position = k + n ∧ r'.position = j + n

structure Bus.Alike (k j : Nat) (b b' : Bus) : Prop where
  capacity : b.capacity = b'.capacity
  left : k ≤ b.journal.size
  right : j ≤ b'.journal.size
  later : b.journal.toList.drop k = b'.journal.toList.drop j

structure Scope.Alike (k j : Nat) (s s' : Scope) : Prop where
  owner : s.owner = s'.owner
  tag : s.tag = s'.tag
  vars : s.vars = s'.vars
  entities : s.entities = s'.entities
  settings : s.settings = s'.settings
  bus : s.bus.Alike k j s'.bus

namespace Bus

theorem unread_eq (b : Bus) (r : Receiver) : b.unread r = b.journal.toList.drop r.position := by
  rw [unread, Array.toList_extract, List.extract_eq_take_drop, ← Array.length_toList,
    ← List.length_drop]
  exact List.take_length

namespace Alike

variable {b b' : Bus}

theorem grown (alike : b.Alike k j b') : b.journal.size - k = b'.journal.size - j := by
  have same := congrArg List.length alike.later
  simpa using same

theorem publish (alike : b.Alike k j b') (e : Event) :
    (b.publish e).Alike k j (b'.publish e) where
  capacity := alike.capacity
  left := by
    have left := alike.left
    simp only [Bus.publish, Array.size_push]
    omega
  right := by
    have right := alike.right
    simp only [Bus.publish, Array.size_push]
    omega
  later := by
    have left := alike.left
    have right := alike.right
    simp only [Bus.publish, Array.toList_push]
    rw [List.drop_append_of_le_length (by simpa using left),
      List.drop_append_of_le_length (by simpa using right), alike.later]

theorem unread {r r' : Receiver} (alike : b.Alike k j b') (same : r.Alike k j r') :
    b.unread r = b'.unread r' := by
  obtain ⟨n, left, right⟩ := same.passed
  rw [unread_eq, unread_eq, left, right, ← List.drop_drop, ← List.drop_drop, alike.later]

theorem backlog {r r' : Receiver} (alike : b.Alike k j b') (same : r.Alike k j r') :
    b.backlog r = b'.backlog r' := by
  have pending : b.pending r = b'.pending r' := by
    rw [pending, pending, alike.unread same, same.name]
  have depth : b.depth = b'.depth := by
    rw [depth, depth, alike.capacity]
  rw [Bus.backlog, Bus.backlog, pending, depth]

theorem atEnd (alike : b.Alike k j b') (name : String) :
    Receiver.Alike k j ⟨name, b.journal.size⟩ ⟨name, b'.journal.size⟩ := by
  have grown := alike.grown
  have left := alike.left
  have right := alike.right
  refine ⟨rfl, b.journal.size - k, ?_, ?_⟩
  · show b.journal.size = _
    omega
  · show b'.journal.size = _
    omega

theorem skip {r r' : Receiver} (alike : b.Alike k j b') (same : r.Alike k j r') :
    (b.skip r).Alike k j (b'.skip r') := by
  have atEnd := alike.atEnd r.name
  exact ⟨same.name, atEnd.passed⟩

end Alike

end Bus

namespace Scope.Alike

variable {s s' : Scope}

/-- Only what is published from now on counts. -/
theorem begin (owner : s.owner = s'.owner) (tag : s.tag = s'.tag) (vars : s.vars = s'.vars)
    (entities : s.entities = s'.entities) (settings : s.settings = s'.settings)
    (capacity : s.bus.capacity = s'.bus.capacity) :
    s.Alike s.bus.journal.size s'.bus.journal.size s' where
  owner := owner
  tag := tag
  vars := vars
  entities := entities
  settings := settings
  bus :=
    { capacity := capacity
      left := Nat.le_refl _
      right := Nat.le_refl _
      later := by
        rw [← Array.length_toList, ← Array.length_toList, List.drop_length, List.drop_length] }

theorem publish (alike : s.Alike k j s') (name : String) (payload : Vars) :
    (s.publish name payload).Alike k j (s'.publish name payload) where
  owner := alike.owner
  tag := alike.tag
  vars := alike.vars
  entities := alike.entities
  settings := alike.settings
  bus := by
    have published := alike.bus.publish { name := name, source := s.owner, payload := payload }
    rw [Scope.publish, Scope.publish, ← alike.owner]
    exact published

theorem withVars (alike : s.Alike k j s') (vars : Vars) :
    Scope.Alike k j { s with vars := vars } { s' with vars := vars } :=
  ⟨alike.owner, alike.tag, rfl, alike.entities, alike.settings, alike.bus⟩

theorem withEntities (alike : s.Alike k j s') (entities : Entities) :
    Scope.Alike k j { s with entities := entities } { s' with entities := entities } :=
  ⟨alike.owner, alike.tag, alike.vars, rfl, alike.settings, alike.bus⟩

end Scope.Alike

namespace Context

variable {ctx ctx' after after' : Context}

/-- Contexts stay alike when nothing but listeners is changed. -/
theorem alike_of_mute (alike : ctx.toScope.Alike k j ctx'.toScope)
    (left : after.mute = ctx.mute) (right : after'.mute = ctx'.mute) :
    after.toScope.Alike k j after'.toScope := by
  have listened : ctx.mute.toScope.Alike k j ctx'.mute.toScope :=
    ⟨alike.owner, alike.tag, alike.vars, alike.entities, alike.settings,
      alike.bus.capacity, alike.bus.left, alike.bus.right, alike.bus.later⟩
  rw [← left, ← right] at listened
  exact ⟨listened.owner, listened.tag, listened.vars, listened.entities, listened.settings,
    listened.bus.capacity, listened.bus.left, listened.bus.right, listened.bus.later⟩

/-- Contexts stay alike when nothing but the count of refusals is changed. -/
theorem alike_of_pardon (alike : ctx.toScope.Alike k j ctx'.toScope)
    (left : after.pardon = ctx.pardon) (right : after'.pardon = ctx'.pardon) :
    after.toScope.Alike k j after'.toScope := by
  rw [toScope_eq_of_pardon left, toScope_eq_of_pardon right]
  exact alike

end Context

end SkillScript
