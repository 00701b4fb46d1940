import SkillScript.Lifecycle
import SkillScript.Node.Create
/-!
# Nodes in the hands of an owner

An owner can hold a node through its whole life: before it is initialized, while
it lives, and after it was destroyed. Every call is answered as the lifecycle
prescribes; a call that does not fit is counted and otherwise ignored.
-/
set_option autoImplicit false
namespace SkillScript

/-- What can still be read from a node that was destroyed. -/
structure Remains where
  begun : Bool := false
  stateId : String := ""
  ended : Bool := false
  evaluations : Nat := 0
deriving DecidableEq, Repr

inductive Handle where
  | fresh (type : NodeType)
  | live (height : Nat) (node : AnyNode (Behavior height))
  | gone (type : NodeType) (remains : Remains)

namespace AnyNode

variable {β : Type} [Behaves β]

omit [Behaves β] in
def isActive : AnyNode β → Bool
  | behavior n => n.active
  | condition c => c.isActive
  | state s => s.active
  | transition t => t.active

omit [Behaves β] in
def remains : AnyNode β → Remains
  | behavior n => { begun := n.begun }
  | condition _ => {}
  | state s => { stateId := s.id, ended := s.ended }
  | transition t => { evaluations := t.evaluations }

def activate (ctx : Context) : AnyNode β → AnyNode β × Context
  | behavior n =>
    let (n, ctx) := n.activate ctx
    (behavior n, ctx)
  | condition c =>
    let (c, ctx) := c.activate ctx
    (condition c, ctx)
  | state s =>
    let (s, ctx) := s.activate ctx
    (state s, ctx)
  | transition t =>
    let (t, ctx) := t.activate ctx
    (transition t, ctx)

def deactivate (ctx : Context) : AnyNode β → AnyNode β × Context
  | behavior n =>
    let (n, ctx) := n.deactivate ctx
    (behavior n, ctx)
  | condition c =>
    let (c, ctx) := c.deactivate ctx
    (condition c, ctx)
  | state s =>
    let (s, ctx) := s.deactivate ctx
    (state s, ctx)
  | transition t =>
    let (t, ctx) := t.deactivate ctx
    (transition t, ctx)

def reset (ctx : Context) : AnyNode β → AnyNode β × Context
  | behavior n =>
    let (n, ctx) := n.reset ctx
    (behavior n, ctx)
  | condition c => (condition (c.reset ctx.bus), ctx)
  | state s =>
    let (s, ctx) := s.reset ctx
    (state s, ctx)
  | transition t => (transition (t.reset ctx.toScope), ctx)

def onTrigger (tag : String) : AnyNode β → AnyNode β
  | behavior n => behavior (n.onTrigger tag)
  | condition c => condition (c.onTrigger tag)
  | state s => state (s.onTrigger tag)
  | transition t => transition (t.onTrigger tag)

def destroy (ctx : Context) : AnyNode β → Context
  | behavior n => n.destroy ctx
  | condition c => c.destroy ctx
  | state s => s.destroy ctx
  | transition t => t.destroy ctx

def abandon (bus : Bus) : AnyNode β → Bus
  | behavior n => n.abandon bus
  | condition c => c.abandon bus
  | state s => s.abandon bus
  | transition t => t.abandon bus

end AnyNode

namespace Handle

def type : Handle → NodeType
  | fresh t => t
  | live _ n => n.type
  | gone t _ => t

def status : Handle → Lifecycle
  | fresh _ => .uninitialized
  | live _ n => if n.isActive then .active else .ready
  | gone _ _ => .destroyed

def remains : Handle → Remains
  | fresh _ => {}
  | live _ n => n.remains
  | gone _ r => r

/-- Carries out a call on a live node; on any other node it is refused. -/
def onLive (ctx : Context) (h : Handle)
    (act : (height : Nat) → AnyNode (Behavior height) → AnyNode (Behavior height) × Context) :
    Handle × Context :=
  match h with
  | live height n =>
    let (n, ctx) := act height n
    (live height n, ctx)
  | h => (h, ctx.refuse)

/-- Initializes a fresh node. A node that is no longer fresh refuses, which is no error. -/
def init (r : Registry) (ctx : Context) (h : Handle) (c : Config) :
    Except NodeError Unit × Handle × Context :=
  match h with
  | fresh t =>
    let height := c.height
    match instantiate r height ctx t c.typeName c.body with
    | (.ok n, ctx) => (.ok (), live height n, ctx)
    | (.error e, ctx) => (.error e, fresh t, ctx)
  | h => (.ok (), h, ctx.refuse)

def activate (ctx : Context) (h : Handle) : Handle × Context :=
  h.onLive ctx fun _ n => n.activate ctx

def deactivate (ctx : Context) (h : Handle) : Handle × Context :=
  h.onLive ctx fun _ n => n.deactivate ctx

def reset (ctx : Context) (h : Handle) : Handle × Context :=
  h.onLive ctx fun _ n => n.reset ctx

def enter (ctx : Context) (h : Handle) : Handle × Context :=
  let (h, ctx) := h.reset ctx
  h.activate ctx

def leave (ctx : Context) (h : Handle) : Handle × Context :=
  h.onLive ctx fun _ n =>
    match n with
    | .state s =>
      let (s, ctx) := s.leave ctx
      (.state s, ctx)
    | n => (n, ctx)

/-- Updates a node. For a behavior the answer is what is left of the step; a transition cannot
be updated, only checked. -/
def update (step : Float32) (ctx : Context) (h : Handle) : Float32 × Handle × Context :=
  match h with
  | live height (.behavior n) =>
    let (left, n, ctx) := n.update step ctx
    (left, live height (.behavior n), ctx)
  | live height (.condition c) =>
    let (c, ctx) := c.update step ctx
    (step, live height (.condition c), ctx)
  | live height (.state s) =>
    let (s, ctx) := s.update step ctx
    (step, live height (.state s), ctx)
  | live height (.transition t) => (step, live height (.transition t), ctx)
  | h => (step, h, ctx.refuse)

inductive Checked where
  | answer (b : Bool)
  | target (id : Option String)
deriving DecidableEq, Repr

/-- Checks a condition, the transitions of a state, or a transition. Behaviors cannot be
checked. A node that is not alive answers no. -/
def check (step : Float32) (ctx : Context) (h : Handle) : Option Checked × Handle × Context :=
  match h with
  | live height (.condition c) =>
    let (answer, c) := c.check ctx.toScope
    (some (.answer answer), live height (.condition c), ctx)
  | live height (.state s) =>
    let (target, s, ctx) := s.checkTransitions step ctx
    (some (.target target), live height (.state s), ctx)
  | live height (.transition t) =>
    let (target, t, ctx) := t.check step ctx
    (some (.target target), live height (.transition t), ctx)
  | h =>
    match h.type with
    | .behavior _ => (none, h, ctx)
    | .condition _ => (some (.answer false), h, ctx)
    | .state => (some (.target none), h, ctx)
    | .transition => (some (.target none), h, ctx.refuse)

def onTrigger (tag : String) : Handle → Handle
  | live height n => live height (n.onTrigger tag)
  | h => h

/-- Whether a behavior has nothing left to do, as is the case before it is initialized and after
it was destroyed. Other nodes have no such notion. -/
def canStop? (h : Handle) : Option Bool :=
  match h with
  | live _ (.behavior n) => some n.canStop
  | live _ _ => none
  | h =>
    match h.type with
    | .behavior _ => some true
    | _ => none

def destroy (ctx : Context) : Handle → Handle × Context
  | fresh t => (gone t {}, ctx)
  | live _ n => (gone n.type n.remains, n.destroy ctx)
  | gone t r => (gone t r, ctx.refuse)

def release (ctx : Context) (h : Handle) : Context :=
  (h.destroy ctx).2.buried

/-- The bus without the receivers of a node that is dropped. -/
def abandon (bus : Bus) : Handle → Bus
  | live _ n => n.abandon bus
  | _ => bus

/-- Creates a node for a place of the given kind, or for any place. -/
def create? (r : Registry) (ctx : Context) (slot : Option Slot) (c : Config) :
    Option Handle × Context :=
  let height := c.height
  let fits (n : AnyNode (Behavior height)) : Option Handle :=
    if slot.all (· = n.type.slot) then some (live height n) else none
  AnyNode.fit fits (create r height ctx c)

end Handle

end SkillScript
