import Mathlib.Data.List.Range
import SkillScript.Proofs.Tree.Outline
/-!
# Accounts of a census

A tree enters the account with every node that is created and leaves it with every
node that is released. Settling a tree takes all its nodes off the account and
notes the end of the behaviors that the host runs. A census grows by a tree if
exactly its nodes were added, the account was never overdrawn on the way, and every
number given out meanwhile either belongs to a behavior of the tree or has ended.
-/
set_option autoImplicit false
namespace SkillScript

namespace Census

/-- The numbers of the behaviors that the host runs. -/
def numbers (ls : List Label) : List Nat :=
  ls.filterMap (·.number)

@[simp]
theorem numbers_append (ls ls' : List Label) : numbers (ls ++ ls') = numbers ls ++ numbers ls' :=
  List.filterMap_append

@[simp]
theorem numbers_unnumbered (t : NodeType) (ls : List Label) :
    numbers (⟨t, none⟩ :: ls) = numbers ls := by
  simp [numbers]

def settle (c : Census) (ls : List Label) : Census :=
  { c with
    live := c.live - ls.length
    overdrawn := c.overdrawn + (ls.length - c.live)
    ended := (numbers ls).reverse ++ c.ended }

@[simp]
theorem settle_nil (c : Census) : c.settle [] = c := by
  simp [settle, numbers]

theorem settle_append (c : Census) (ls ls' : List Label) :
    c.settle (ls ++ ls') = (c.settle ls).settle ls' := by
  have live : c.live - (ls.length + ls'.length) = c.live - ls.length - ls'.length := by omega
  have overdrawn : c.overdrawn + (ls.length + ls'.length - c.live) =
      c.overdrawn + (ls.length - c.live) + (ls'.length - (c.live - ls.length)) := by omega
  simp [settle, live, overdrawn]

theorem buried_eq (c : Census) :
    c.buried = { c with live := c.live - 1, overdrawn := c.overdrawn + (1 - c.live) } := by
  unfold buried
  split
  · rename_i empty
    rw [empty]
  · have covered : 1 - c.live = 0 := by omega
    rw [covered, Nat.add_zero]

/-- A node is counted out after what is below it. -/
theorem buried_settle (c : Census) (t : NodeType) (ls : List Label) :
    (c.settle ls).buried = c.settle (⟨t, none⟩ :: ls) := by
  have live : c.live - ls.length - 1 = c.live - (ls.length + 1) := by omega
  have overdrawn : c.overdrawn + (ls.length - c.live) + (1 - (c.live - ls.length)) =
      c.overdrawn + (ls.length + 1 - c.live) := by omega
  simp [buried_eq, settle, live, overdrawn]

theorem buried_closed (c : Census) (t : NodeType) (number : Option Nat) :
    (c.closed number).buried = c.settle [⟨t, number⟩] := by
  cases number <;> simp [buried_eq, settle, closed, numbers]

theorem settle_foldl {α : Type} {release : Context → α → Context} {labels : α → List Label}
    (settles : ∀ ctx a, (release ctx a).toCensus = ctx.toCensus.settle (labels a))
    (ctx : Context) (l : List α) :
    (l.foldl release ctx).toCensus = ctx.toCensus.settle (l.flatMap labels) := by
  induction l generalizing ctx with
  | nil => simp
  | cons a rest ih =>
    rw [List.foldl_cons, ih, settles, List.flatMap_cons, settle_append]

/-- What happened to a census while a tree with the given nodes was created. -/
structure Grows (before after : Census) (ls : List Label) : Prop where
  live : after.live = before.live + ls.length
  overdrawn : after.overdrawn = before.overdrawn
  started : before.started ≤ after.started
  /-- What was started belongs to the tree or has ended, and either of them once. -/
  ended : ∃ gone, after.ended = gone ++ before.ended ∧
    (gone ++ numbers ls).Perm (List.range' before.started (after.started - before.started))

namespace Grows

variable {a b c : Census} {ls ls' : List Label}

theorem refl (c : Census) : Grows c c [] where
  live := by simp
  overdrawn := rfl
  started := Nat.le_refl _
  ended := ⟨[], rfl, by simp [numbers]⟩

theorem trans (first : Grows a b ls) (second : Grows b c ls') : Grows a c (ls ++ ls') := by
  obtain ⟨gone, firstEnded, firstNumbers⟩ := first.ended
  obtain ⟨gone', secondEnded, secondNumbers⟩ := second.ended
  have firstStarted := first.started
  have secondStarted := second.started
  refine ⟨?_, ?_, by omega, gone' ++ gone, ?_, ?_⟩
  · rw [second.live, first.live, List.length_append, Nat.add_assoc]
  · rw [second.overdrawn, first.overdrawn]
  · rw [secondEnded, firstEnded, List.append_assoc]
  · have bound : b.started = a.started + 1 * (b.started - a.started) := by omega
    have total : c.started - a.started = (b.started - a.started) + (c.started - b.started) := by
      omega
    calc gone' ++ gone ++ numbers (ls ++ ls')
        _ = (gone' ++ (gone ++ numbers ls)) ++ numbers ls' := by simp
        List.Perm _ (((gone ++ numbers ls) ++ gone') ++ numbers ls') :=
            List.perm_append_comm.append_right _
        _ = (gone ++ numbers ls) ++ (gone' ++ numbers ls') := List.append_assoc ..
        List.Perm _ (List.range' a.started (b.started - a.started) ++
              List.range' b.started (c.started - b.started)) :=
            firstNumbers.append secondNumbers
        _ = List.range' a.started (c.started - a.started) := by
            rw [total, ← List.range'_append, ← bound]

theorem perm (grown : Grows a b ls) (same : ls.Perm ls') : Grows a b ls' where
  live := by rw [grown.live, same.length_eq]
  overdrawn := grown.overdrawn
  started := grown.started
  ended := by
    obtain ⟨gone, ended, numbered⟩ := grown.ended
    exact ⟨gone, ended, ((same.filterMap _).symm.append_left gone).trans numbered⟩

/-- Settling a part of what has grown leaves the rest. -/
theorem settle (grown : Grows a b (ls ++ ls')) : Grows a (b.settle ls) ls' := by
  obtain ⟨gone, ended, numbered⟩ := grown.ended
  have live := grown.live
  have overdrawn := grown.overdrawn
  rw [List.length_append] at live
  refine ⟨?_, ?_, grown.started, (numbers ls).reverse ++ gone, ?_, ?_⟩
  · show b.live - ls.length = a.live + ls'.length
    omega
  · show b.overdrawn + (ls.length - b.live) = a.overdrawn
    omega
  · show (numbers ls).reverse ++ b.ended = _
    rw [ended, List.append_assoc]
  · show List.Perm _ (List.range' a.started (b.started - a.started))
    have reordered : ((numbers ls).reverse ++ gone).Perm (gone ++ numbers ls) :=
      List.perm_append_comm.trans ((List.reverse_perm _).append_left gone)
    rw [numbers_append, ← List.append_assoc] at numbered
    exact (reordered.append_right _).trans numbered

theorem settled (grown : Grows a b ls) : Grows a (b.settle ls) [] :=
  settle (by rwa [List.append_nil])

/-- A node without a number is counted in after what is below it. -/
theorem born (grown : Grows a b ls) (t : NodeType) : Grows a b.born (⟨t, none⟩ :: ls) where
  live := by
    have live := grown.live
    simp only [Census.born, List.length_cons]
    omega
  overdrawn := grown.overdrawn
  started := grown.started
  ended := by
    rw [numbers_unnumbered]
    exact grown.ended

/-- A behavior that the host runs is counted in under the next number. -/
theorem opened (c : Census) (t : NodeType) :
    Grows c (c.opened (some c.started)).born [⟨t, some c.started⟩] where
  live := rfl
  overdrawn := rfl
  started := Nat.le_succ _
  ended := ⟨[], rfl, by simp [numbers, Census.opened, Census.born]⟩

end Grows

end Census

end SkillScript
