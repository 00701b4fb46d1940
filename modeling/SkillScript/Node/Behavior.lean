import SkillScript.Node.Machine
import SkillScript.Node.Parallel
import SkillScript.Node.Sequence
/-!
# Behaviors

A behavior node is a task, a sequence, a parallel or a state machine, together
with whether it is active and whether it has begun since its last reset. Behaviors
form trees of finite height: those of height `n + 1` are the nodes whose children
are behaviors of height `n`.
-/
set_option autoImplicit false
namespace SkillScript

inductive Logic (β : Type) where
  | task (task : Task)
  | sequence (sequence : Sequence β)
  | parallel (parallel : Parallel β)
  | machine (machine : Machine β)

namespace Logic

variable {β : Type} [Behaves β]

omit [Behaves β] in
def type : Logic β → BehaviorType
  | task t => t.type
  | sequence _ => .sequence
  | parallel _ => .parallel
  | machine _ => .fsm

def onActivate (ctx : Context) : Logic β → Logic β × Context
  | task t => (task t, ctx)
  | sequence s =>
    let (s, ctx) := s.onActivate ctx
    (sequence s, ctx)
  | parallel p =>
    let (p, ctx) := p.onActivate ctx
    (parallel p, ctx)
  | machine m =>
    let (m, ctx) := m.onActivate ctx
    (machine m, ctx)

def onDeactivate (ctx : Context) : Logic β → Logic β × Context
  | task t => (task t, ctx)
  | sequence s =>
    let (s, ctx) := s.onDeactivate ctx
    (sequence s, ctx)
  | parallel p =>
    let (p, ctx) := p.onDeactivate ctx
    (parallel p, ctx)
  | machine m =>
    let (m, ctx) := m.onDeactivate ctx
    (machine m, ctx)

def onReset (ctx : Context) : Logic β → Logic β × Context
  | task t => (task (t.reset ctx.toScope), ctx)
  | sequence s =>
    let (s, ctx) := s.onReset ctx
    (sequence s, ctx)
  | parallel p =>
    let (p, ctx) := p.onReset ctx
    (parallel p, ctx)
  | machine m =>
    let (m, ctx) := m.onReset ctx
    (machine m, ctx)

def onBegin (ctx : Context) : Logic β → Logic β × Context
  | task t =>
    let (t, s) := t.begin ctx.toScope
    (task t, { ctx with toScope := s })
  | l => (l, ctx)

def onUpdate (step : Float32) (ctx : Context) : Logic β → Float32 × Logic β × Context
  | task t =>
    let (left, t, s) := t.update step ctx.toScope
    (left, task t, { ctx with toScope := s })
  | sequence s =>
    let (left, s, ctx) := s.onUpdate step ctx
    (left, sequence s, ctx)
  | parallel p =>
    let (left, p, ctx) := p.onUpdate step ctx
    (left, parallel p, ctx)
  | machine m =>
    let (left, m, ctx) := m.onUpdate step ctx
    (left, machine m, ctx)

def canStop : Logic β → Bool
  | task t => t.canStop
  | sequence s => s.canStop
  | parallel p => p.canStop
  | machine m => m.canStop

def onTrigger (tag : String) : Logic β → Logic β
  | task t => task t
  | sequence s => sequence (s.onTrigger tag)
  | parallel p => parallel (p.onTrigger tag)
  | machine m => machine (m.onTrigger tag)

def onDestroy (ctx : Context) : Logic β → Context
  | task t =>
    { ctx with toScope := t.destroy ctx.toScope, toCensus := ctx.toCensus.closed t.number? }
  | sequence s => s.onDestroy ctx
  | parallel p => p.onDestroy ctx
  | machine m => m.onDestroy ctx

def abandon (bus : Bus) : Logic β → Bus
  | task _ => bus
  | sequence s => s.abandon bus
  | parallel p => p.abandon bus
  | machine m => m.abandon bus

end Logic

structure Node (β : Type) where
  active : Bool := false
  /-- Whether there was an update since the last reset. -/
  begun : Bool := false
  logic : Logic β

namespace Node

variable {β : Type} [Behaves β]

def activate (ctx : Context) (n : Node β) : Node β × Context :=
  if n.active then (n, ctx)
  else
    let (logic, ctx) := n.logic.onActivate ctx
    ({ n with active := true, logic := logic }, ctx)

def deactivate (ctx : Context) (n : Node β) : Node β × Context :=
  if n.active then
    let (logic, ctx) := n.logic.onDeactivate ctx
    ({ n with active := false, logic := logic }, ctx)
  else (n, ctx)

def reset (ctx : Context) (n : Node β) : Node β × Context :=
  let (logic, ctx) := n.logic.onReset ctx
  ({ n with begun := false, logic := logic }, ctx)

def begin (ctx : Context) (n : Node β) : Node β × Context :=
  if n.begun then (n, ctx)
  else
    let (logic, ctx) := n.logic.onBegin ctx
    ({ n with begun := true, logic := logic }, ctx)

/-- Updates a node that is active; a negative step counts as zero. A node that is not active
uses nothing of the step. -/
def update (step : Float32) (ctx : Context) (n : Node β) : Float32 × Node β × Context :=
  if n.active then
    let step := if step < 0 then 0 else step
    let (n, ctx) := n.begin ctx
    let (left, logic, ctx) := n.logic.onUpdate step ctx
    (left, { n with logic := logic }, ctx)
  else (step, n, ctx.refuse)

def canStop (n : Node β) : Bool :=
  n.logic.canStop

def onTrigger (tag : String) (n : Node β) : Node β :=
  if n.active then { n with logic := n.logic.onTrigger tag } else n

def destroy (ctx : Context) (n : Node β) : Context :=
  n.logic.onDestroy ctx

def abandon (bus : Bus) (n : Node β) : Bus :=
  n.logic.abandon bus

instance : Behaves (Node β) where
  isActive n := n.active
  activate := activate
  deactivate := deactivate
  reset := reset
  update := update
  canStop := canStop
  onTrigger := onTrigger
  destroy := destroy
  abandon := abandon

end Node

/-- Behavior trees of at most the given height. -/
def Behavior : Nat → Type
  | 0 => Empty
  | height + 1 => Node (Behavior height)

instance Behavior.behaves : (height : Nat) → Behaves (Behavior height)
  | 0 => inferInstanceAs (Behaves Empty)
  | height + 1 =>
    let _ := behaves height
    inferInstanceAs (Behaves (Node (Behavior height)))

end SkillScript
