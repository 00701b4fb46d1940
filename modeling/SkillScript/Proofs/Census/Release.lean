import SkillScript.Proofs.Census.Account
/-!
# What a release settles

Releasing a tree takes exactly the nodes of its outline off the account and notes
the end of exactly the behaviors in it that the host runs, whatever the tree has
been through. Every sort of node settles what is below it first.
-/
set_option autoImplicit false
namespace SkillScript

class Behaves.Settles (β : Type) [Behaves β] [Lasting β] [Outlined β] : Prop where
  toCensus_release (part : Part) (ctx : Context) (b : β) :
    (release ctx b).toCensus = ctx.toCensus.settle (outline part b).labels

instance : Behaves.Settles Empty where
  toCensus_release _ _ b := nomatch b

open Behaves.Settles (toCensus_release)

namespace Condition

mutual

theorem toCensus_release (part : Part) (ctx : Context) :
    ∀ c : Condition, (c.release ctx).toCensus = ctx.toCensus.settle (c.outline part).labels
  | .sensor active x => by
    have sensor := ctx.toCensus.buried_settle (.condition x.type) []
    rw [Census.settle_nil] at sensor
    exact sensor
  | .gate active g children => by
    show (releaseAll ctx children).toCensus.buried = _
    rw [toCensus_releaseAll ctx children, Census.buried_settle _ (.condition g.type)]
    simp [outline]

theorem toCensus_releaseAll (ctx : Context) :
    ∀ cs : List Condition, (releaseAll ctx cs).toCensus =
      ctx.toCensus.settle ((outlineAll cs).flatMap Outline.labels)
  | [] => by simp [releaseAll, outlineAll]
  | c :: rest => by
    have head := toCensus_release .condition ctx c
    rw [releaseAll, toCensus_releaseAll _ rest, outlineAll, List.flatMap_cons,
      Census.settle_append, ← head]
    rfl

end

end Condition

namespace Transition

theorem toCensus_release (part : Part) (ctx : Context) (t : Transition) :
    (t.release ctx).toCensus = ctx.toCensus.settle (t.outline part).labels := by
  show (t.condition.release ctx).toCensus.buried = _
  rw [Condition.toCensus_release .condition, Census.buried_settle _ .transition]
  simp [outline]

end Transition

variable {β : Type} [Behaves β] [Lasting β] [Outlined β] [Behaves.Settles β]

namespace State

theorem toCensus_release (part : Part) (ctx : Context) (s : State β) :
    (s.release ctx).toCensus = ctx.toCensus.settle (s.outline part).labels := by
  show (s.destroy ctx).toCensus.buried = _
  have destroyed : (s.destroy ctx).toCensus = ctx.toCensus.settle
      (s.behavior.toList.flatMap (fun b => (Outlined.outline .behavior b).labels) ++
        s.exit.toList.flatMap (fun b => (Outlined.outline .exit b).labels) ++
        s.transitions.flatMap fun t => (t.outline .transition).labels) := by
    unfold destroy
    dsimp only
    rw [Census.settle_foldl (Transition.toCensus_release .transition),
      Census.settle_foldl (Behaves.Settles.toCensus_release .exit),
      Census.settle_foldl (Behaves.Settles.toCensus_release .behavior), Census.settle_append,
      Census.settle_append]
  rw [destroyed, Census.buried_settle _ .state]
  simp [outline, List.flatMap_map]

end State

namespace Logic

/-- What the destruction of a node settles, but for the node itself. -/
theorem toCensus_onDestroy (ctx : Context) (l : Logic β) :
    (l.onDestroy ctx).toCensus.buried =
      ctx.toCensus.settle (⟨.behavior l.type, l.number?⟩ :: l.parts.flatMap Outline.labels) := by
  cases l with
  | task t => exact Census.buried_closed ..
  | sequence s =>
    show (s.children.foldl Behaves.release ctx).toCensus.buried = _
    rw [Census.settle_foldl (toCensus_release .child), Census.buried_settle _ (.behavior .sequence)]
    simp [type, number?, parts, List.flatMap_map]
  | parallel p =>
    show ((p.lanes.map (·.child)).foldl Behaves.release ctx).toCensus.buried = _
    rw [Census.settle_foldl (toCensus_release .child), Census.buried_settle _ (.behavior .parallel)]
    simp [type, number?, parts, List.flatMap_map]
  | machine m =>
    show (m.states.foldl State.release ctx).toCensus.buried = _
    rw [Census.settle_foldl (State.toCensus_release .state),
      Census.buried_settle _ (.behavior .fsm)]
    simp [type, number?, parts, List.flatMap_map]

end Logic

namespace Node

instance settles : Behaves.Settles (Node β) where
  toCensus_release part ctx n := by
    show (n.logic.onDestroy ctx).toCensus.buried = _
    rw [Logic.toCensus_onDestroy, outline_eq, Outline.labels_node]

end Node

instance Behavior.settles : (height : Nat) → Behaves.Settles (Behavior height)
  | 0 => inferInstanceAs (Behaves.Settles Empty)
  | height + 1 =>
    have := settles height
    inferInstanceAs (Behaves.Settles (Node (Behavior height)))

namespace AnyNode

theorem toCensus_release (part : Part) (ctx : Context) (n : AnyNode β) :
    (n.release ctx).toCensus = ctx.toCensus.settle (n.outline part).labels := by
  cases n with
  | behavior n => exact Behaves.Settles.toCensus_release part ctx n
  | condition c => exact c.toCensus_release part ctx
  | state s => exact s.toCensus_release part ctx
  | transition t => exact t.toCensus_release part ctx

end AnyNode

end SkillScript
