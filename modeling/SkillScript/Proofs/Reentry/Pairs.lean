import Mathlib.Data.List.Forall2
import SkillScript.Proofs.Reentry.Scope
import SkillScript.Proofs.Status.State
import SkillScript.Proofs.Tree.Outline
/-!
# Pairs of nodes that are made of the same

A pair is two nodes with the same pristine form, both in order and both of types
that do nothing but what a script says. Every call leaves a pair a pair. Pairs are
told apart by their state alone, so it is said of behaviors when they look alike:
then they answer the same to whatever is asked of them, in scopes that are alike,
and still look alike after it. To be reset makes a pair at rest look alike.
-/
set_option autoImplicit false
namespace SkillScript

open Behaves.Disciplined Lasting

section Lists

variable {α γ : Type} {k j : Nat} {R S : α → α → Prop} {act : Context → α → α × Context}

theorem forall₂_members {P P' : α → Prop} {l l' : List α} (pairs : List.Forall₂ R l l')
    (left : ∀ a ∈ l, P a) (right : ∀ a ∈ l', P' a) :
    List.Forall₂ (fun a a' => R a a' ∧ P a ∧ P' a') l l' := by
  induction pairs with
  | nil => exact .nil
  | cons head tail ih =>
    obtain ⟨first, others⟩ := List.forall_mem_cons.mp left
    obtain ⟨first', others'⟩ := List.forall_mem_cons.mp right
    exact .cons ⟨head, first, first'⟩ (ih others others')

theorem forall₂_of_map_eq {f : α → γ} {P P' : α → Prop} {l l' : List α}
    (same : l.map f = l'.map f) (left : ∀ a ∈ l, P a) (right : ∀ a ∈ l', P' a) :
    List.Forall₂ (fun a a' => f a = f a' ∧ P a ∧ P' a') l l' := by
  have images : List.Forall₂ Eq (l.map f) (l'.map f) := by
    rw [List.forall₂_eq_eq_eq]
    exact same
  rw [List.forall₂_map_left_iff, List.forall₂_map_right_iff] at images
  exact forall₂_members images left right

theorem rel_of_map_eq {f : α → γ} {P P' : α → Prop} {o o' : Option α}
    (same : o.map f = o'.map f) (left : ∀ a ∈ o, P a) (right : ∀ a ∈ o', P' a) :
    Option.Rel (fun a a' => f a = f a' ∧ P a ∧ P' a') o o' := by
  cases o with
  | none =>
    cases o' with
    | none => exact .none
    | some a' => cases same
  | some a =>
    cases o' with
    | none => cases same
    | some a' => exact .some ⟨Option.some.inj same, left a rfl, right a' rfl⟩

theorem rel_getElem? {l l' : List α} (pairs : List.Forall₂ R l l') (i : Nat) :
    Option.Rel R l[i]? l'[i]? := by
  induction pairs generalizing i with
  | nil => exact .none
  | cons head tail ih =>
    cases i with
    | zero => exact .some head
    | succ i => exact ih i

theorem rel_and {o o' : Option α} (left : Option.Rel R o o') (right : Option.Rel S o o') :
    Option.Rel (fun a a' => R a a' ∧ S a a') o o' := by
  cases left with
  | none => exact .none
  | some related =>
    cases right with
    | some related' => exact .some ⟨related, related'⟩

theorem forall₂_and {l l' : List α} (left : List.Forall₂ R l l') (right : List.Forall₂ S l l') :
    List.Forall₂ (fun a a' => R a a' ∧ S a a') l l' := by
  induction left with
  | nil => exact .nil
  | cons head tail ih =>
    cases right with
    | cons head' tail' => exact .cons ⟨head, head'⟩ (ih tail')

theorem rel_imp (weaker : ∀ a a', R a a' → S a a') {o o' : Option α} (pairs : Option.Rel R o o') :
    Option.Rel S o o' := by
  cases pairs with
  | none => exact .none
  | some related => exact .some (weaker _ _ related)

theorem rel_map {f f' : α → α} (maps : ∀ a a', R a a' → S (f a) (f' a')) {o o' : Option α}
    (pairs : Option.Rel R o o') : Option.Rel S (o.map f) (o'.map f') := by
  cases pairs with
  | none => exact .none
  | some related => exact .some (maps _ _ related)

theorem forall₂_map {f f' : α → α} (maps : ∀ a a', R a a' → S (f a) (f' a')) {l l' : List α}
    (pairs : List.Forall₂ R l l') : List.Forall₂ S (l.map f) (l'.map f') := by
  induction pairs with
  | nil => exact .nil
  | cons head tail ih => exact .cons (maps _ _ head) ih

theorem rel_actOn {ctx ctx' : Context} (acts : ∀ a a', R a a' → S (act ctx a).1 (act ctx' a').1)
    {o o' : Option α} (pairs : Option.Rel R o o') :
    Option.Rel S (actOn act ctx o).1 (actOn act ctx' o').1 := by
  rw [fst_actOn, fst_actOn]
  exact rel_map acts pairs

theorem rel_actAt {ctx ctx' : Context} (acts : ∀ a a', R a a' → S (act ctx a).1 (act ctx' a').1)
    (i : Nat) {l l' : List α} (pairs : Option.Rel R l[i]? l'[i]?) :
    Option.Rel S (actAt act ctx i l).1[i]? (actAt act ctx' i l').1[i]? := by
  rw [getElem?_actAt, getElem?_actAt, if_pos rfl, if_pos rfl]
  exact rel_map acts pairs

/-- Acting on all elements of two lists, when the act itself leaves contexts alike. -/
theorem forall₂_actAll (quiet : ∀ ctx a, (act ctx a).2.mute = ctx.mute)
    (acts : ∀ ctx ctx' : Context, ctx.toScope.Alike k j ctx'.toScope →
      ∀ a a', R a a' → S (act ctx a).1 (act ctx' a').1)
    {ctx ctx' : Context} (scopes : ctx.toScope.Alike k j ctx'.toScope) {l l' : List α}
    (pairs : List.Forall₂ R l l') :
    List.Forall₂ S (actAll act ctx l).1 (actAll act ctx' l').1 := by
  induction pairs generalizing ctx ctx' with
  | nil => exact .nil
  | @cons a a' rest rest' head tail ih =>
    exact .cons (acts ctx ctx' scopes a a' head)
      (ih (Context.alike_of_mute scopes (quiet ctx a) (quiet ctx' a')))

end Lists

/-- What an update returned, compared with what another returned. -/
structure Agree {α : Type} (k j : Nat) (R : α → α → Prop) (p p' : Float32 × α × Context) :
    Prop where
  left : p.1 = p'.1
  nodes : R p.2.1 p'.2.1
  scopes : p.2.2.toScope.Alike k j p'.2.2.toScope

variable {β : Type} [Behaves β] [Ordered β] [Lasting β] [Outlined β]

structure Behaves.Paired (b b' : β) : Prop where
  left : Ordered.Orderly false b
  right : Ordered.Orderly false b'
  builtin : ∀ l ∈ (outline .root b).labels, l.type ∈ NodeType.builtins
  made : pristine b = pristine b'

namespace Behaves.Paired

variable {b b' : β}

theorem of_pristine (paired : Paired b b') {d d' : β} (left : Ordered.Orderly false d)
    (right : Ordered.Orderly false d') (same : pristine d = pristine b)
    (same' : pristine d' = pristine b') : Paired d d' where
  left := left
  right := right
  builtin := by
    rw [Outlined.outline_congr .root same]
    exact paired.builtin
  made := by rw [same, paired.made, ← same']

variable [Behaves.Disciplined β]

theorem activate (paired : Paired b b') (ctx ctx' : Context) :
    Paired (Behaves.activate ctx b).1 (Behaves.activate ctx' b').1 :=
  paired.of_pristine (orderly_activate ctx paired.left) (orderly_activate ctx' paired.right)
    (pristine_activate ctx b) (pristine_activate ctx' b')

theorem reset (paired : Paired b b') (ctx ctx' : Context) :
    Paired (Behaves.reset ctx b).1 (Behaves.reset ctx' b').1 :=
  paired.of_pristine (orderly_reset ctx paired.left nofun) (orderly_reset ctx' paired.right nofun)
    (pristine_reset ctx b) (pristine_reset ctx' b')

theorem enter (paired : Paired b b') (ctx ctx' : Context) :
    Paired (Behaves.enter ctx b).1 (Behaves.enter ctx' b').1 :=
  (paired.reset ctx ctx').activate _ _

theorem update (paired : Paired b b') (step step' : Float32) (ctx ctx' : Context) :
    Paired (Behaves.update step ctx b).2.1 (Behaves.update step' ctx' b').2.1 :=
  paired.of_pristine (orderly_update step ctx paired.left)
    (orderly_update step' ctx' paired.right) (pristine_update step ctx b)
    (pristine_update step' ctx' b')

theorem onTrigger (paired : Paired b b') (tag : String) :
    Paired (Behaves.onTrigger tag b) (Behaves.onTrigger tag b') :=
  paired.of_pristine (orderly_onTrigger tag paired.left) (orderly_onTrigger tag paired.right)
    (pristine_onTrigger tag b) (pristine_onTrigger tag b')

end Behaves.Paired

/-- Behaviors for which it is settled when they look alike, having begun to listen at the moments
`k` and `j`. -/
class Resembling (β : Type) where
  Alike : (k j : Nat) → β → β → Prop

instance : Resembling Empty where
  Alike _ _ b := nomatch b

class Repeatable (β : Type) [Behaves β] [Ordered β] [Lasting β] [Outlined β]
    [Resembling β] : Prop where
  canStop_eq {k j : Nat} {b b' : β} (paired : Behaves.Paired b b')
    (alike : Resembling.Alike k j b b') : canStop b = canStop b'
  alike_reset {k j : Nat} {ctx ctx' : Context} (scopes : ctx.toScope.Alike k j ctx'.toScope)
    {b b' : β} (paired : Behaves.Paired b b') (resting : Behaves.isActive b = false)
    (resting' : Behaves.isActive b' = false) :
    Resembling.Alike k j (Behaves.reset ctx b).1 (Behaves.reset ctx' b').1
  alike_activate {k j : Nat} {ctx ctx' : Context} (scopes : ctx.toScope.Alike k j ctx'.toScope)
    {b b' : β} (paired : Behaves.Paired b b') (alike : Resembling.Alike k j b b') :
    Resembling.Alike k j (Behaves.activate ctx b).1 (Behaves.activate ctx' b').1
  alike_deactivate {k j : Nat} {ctx ctx' : Context} (scopes : ctx.toScope.Alike k j ctx'.toScope)
    {b b' : β} (paired : Behaves.Paired b b') (alike : Resembling.Alike k j b b') :
    Resembling.Alike k j (Behaves.deactivate ctx b).1 (Behaves.deactivate ctx' b').1
  update_agree {k j : Nat} {ctx ctx' : Context} (step : Float32)
    (scopes : ctx.toScope.Alike k j ctx'.toScope) {b b' : β} (paired : Behaves.Paired b b')
    (alike : Resembling.Alike k j b b') :
    Agree k j (Resembling.Alike k j) (Behaves.update step ctx b) (Behaves.update step ctx' b')
  alike_onTrigger {k j : Nat} (tag : String) {b b' : β} (paired : Behaves.Paired b b')
    (alike : Resembling.Alike k j b b') :
    Resembling.Alike k j (Behaves.onTrigger tag b) (Behaves.onTrigger tag b')

instance : Repeatable Empty where
  canStop_eq {_ _ b} := nomatch b
  alike_reset {_ _ _ _} _ {b} := nomatch b
  alike_activate {_ _ _ _} _ {b} := nomatch b
  alike_deactivate {_ _ _ _} _ {b} := nomatch b
  update_agree {_ _ _ _} _ _ {b} := nomatch b
  alike_onTrigger {_ _} _ {b} := nomatch b

variable [Behaves.Disciplined β] [Behaves.Quiet β] [Resembling β] [Repeatable β]

/-- Entering makes a pair at rest look alike. -/
theorem Behaves.alike_enter {k j : Nat} {ctx ctx' : Context}
    (scopes : ctx.toScope.Alike k j ctx'.toScope) {b b' : β} (paired : Behaves.Paired b b')
    (resting : Behaves.isActive b = false) (resting' : Behaves.isActive b' = false) :
    Resembling.Alike k j (Behaves.enter ctx b).1 (Behaves.enter ctx' b').1 := by
  have alike := Repeatable.alike_reset scopes paired resting resting'
  have later := Context.alike_of_mute scopes (Behaves.Quiet.mute_reset ctx b)
    (Behaves.Quiet.mute_reset ctx' b')
  exact Repeatable.alike_activate later (paired.reset ctx ctx') alike

end SkillScript
