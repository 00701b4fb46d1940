import SkillScript.Node.Behavior
/-!
# Order in a tree

In an orderly tree a node is active exactly when its parent is active and runs it.
A sequence runs the child at its index, a parallel its unfinished children, a
machine its current state. A state runs its behavior and all its transitions and
never its exit behavior; a transition runs its condition, and a joined condition
all its children. A sensor for events listens exactly while it is active.

A sequence, a parallel or a machine that is reset while it is active runs nothing
until the next update. A tree in strict order has no such node: what is active
in it has started.
-/
set_option autoImplicit false
namespace SkillScript

class Ordered (β : Type) where
  Orderly : (strict : Bool) → β → Prop

instance : Ordered Empty where
  Orderly _ b := nomatch b

/-- Whether a sensor for events listens; other sensors have nothing to listen to. -/
def Sensor.Listens (active : Bool) : Sensor → Prop
  | event _ _ receiver _ => receiver.isSome = active
  | _ => True

namespace Condition

mutual

def Orderly : Condition → Prop
  | sensor active x => x.Listens active
  | gate active _ children => OrderlyAll active children

def OrderlyAll (active : Bool) : List Condition → Prop
  | [] => True
  | c :: rest => (c.isActive = active ∧ Orderly c) ∧ OrderlyAll active rest

end

theorem orderlyAll_iff (active : Bool) (cs : List Condition) :
    OrderlyAll active cs ↔ ∀ c ∈ cs, c.isActive = active ∧ c.Orderly := by
  induction cs with
  | nil => simp [OrderlyAll]
  | cons c rest ih => simp [OrderlyAll, ih]

end Condition

structure Transition.Orderly (t : Transition) : Prop where
  runs : t.condition.isActive = t.active
  condition : t.condition.Orderly

variable {β : Type} [Behaves β] [Ordered β]

structure State.Orderly (strict : Bool) (s : State β) : Prop where
  behavior : ∀ b ∈ s.behavior, Behaves.isActive b = s.active ∧ Ordered.Orderly strict b
  exit : ∀ b ∈ s.exit, Behaves.isActive b = false ∧ Ordered.Orderly strict b
  transitions : ∀ t ∈ s.transitions, t.active = s.active ∧ t.Orderly

structure Sequence.Orderly (strict active : Bool) (s : Sequence β) : Prop where
  children : ∀ i c, s.children[i]? = some c →
    Behaves.isActive c = (active && s.started && i == s.index) ∧ Ordered.Orderly strict c
  started : strict = true → active = true → s.started = true

structure Parallel.Orderly (strict active : Bool) (p : Parallel β) : Prop where
  lanes : ∀ l ∈ p.lanes,
    Behaves.isActive l.child = (active && p.started && !l.finished) ∧
      Ordered.Orderly strict l.child
  started : strict = true → active = true → p.started = true

structure Machine.Orderly (strict active : Bool) (m : Machine β) : Prop where
  index : ∀ id i, m.index.find? id = some i → i < m.states.length
  initial : (m.index.find? m.initial).isSome = true
  current : ∀ i, m.current = some i → i < m.states.length
  states : ∀ i s, m.states[i]? = some s →
    s.active = (active && m.current == some i) ∧ s.Orderly strict
  running : strict = true → active = true → m.current.isSome = true

def Logic.Orderly (strict active : Bool) : Logic β → Prop
  | task _ => True
  | sequence s => s.Orderly strict active
  | parallel p => p.Orderly strict active
  | machine m => m.Orderly strict active

instance Node.ordered : Ordered (Node β) where
  Orderly strict n := n.logic.Orderly strict n.active

instance Behavior.ordered : (height : Nat) → Ordered (Behavior height)
  | 0 => inferInstanceAs (Ordered Empty)
  | height + 1 =>
    let _ := ordered height
    inferInstanceAs (Ordered (Node (Behavior height)))

/-- Behaviors that keep their order. Every call leaves the status that it is meant to leave, and an
update of an active node in order is granted all the way down. -/
class Behaves.Disciplined (β : Type) [Behaves β] [Ordered β] : Prop where
  isActive_activate (ctx : Context) (b : β) : isActive (activate ctx b).1 = true
  isActive_deactivate (ctx : Context) (b : β) : isActive (deactivate ctx b).1 = false
  isActive_reset (ctx : Context) (b : β) : isActive (reset ctx b).1 = isActive b
  isActive_update (step : Float32) (ctx : Context) (b : β) :
    isActive (update step ctx b).2.1 = isActive b
  isActive_onTrigger (tag : String) (b : β) : isActive (onTrigger tag b) = isActive b
  orderly_activate {strict : Bool} (ctx : Context) {b : β} (orderly : Ordered.Orderly strict b) :
    Ordered.Orderly strict (activate ctx b).1
  orderly_deactivate {strict : Bool} (ctx : Context) {b : β}
    (orderly : Ordered.Orderly strict b) : Ordered.Orderly strict (deactivate ctx b).1
  orderly_reset {strict : Bool} (ctx : Context) {b : β} (orderly : Ordered.Orderly strict b)
    (resting : strict = true → isActive b = false) : Ordered.Orderly strict (reset ctx b).1
  orderly_update {strict : Bool} (step : Float32) (ctx : Context) {b : β}
    (orderly : Ordered.Orderly strict b) : Ordered.Orderly strict (update step ctx b).2.1
  orderly_onTrigger {strict : Bool} (tag : String) {b : β}
    (orderly : Ordered.Orderly strict b) : Ordered.Orderly strict (onTrigger tag b)
  refusals_update {strict : Bool} (step : Float32) (ctx : Context) {b : β}
    (orderly : Ordered.Orderly strict b) (active : isActive b = true) :
    (update step ctx b).2.2.refusals = ctx.refusals

attribute [simp] Behaves.Disciplined.isActive_activate Behaves.Disciplined.isActive_deactivate
  Behaves.Disciplined.isActive_reset Behaves.Disciplined.isActive_update
  Behaves.Disciplined.isActive_onTrigger

instance : Behaves.Disciplined Empty where
  isActive_activate _ b := nomatch b
  isActive_deactivate _ b := nomatch b
  isActive_reset _ b := nomatch b
  isActive_update _ _ b := nomatch b
  isActive_onTrigger _ b := nomatch b
  orderly_activate _ b := nomatch b
  orderly_deactivate _ b := nomatch b
  orderly_reset _ b := nomatch b
  orderly_update _ _ b := nomatch b
  orderly_onTrigger _ b := nomatch b
  refusals_update _ _ b := nomatch b

end SkillScript
