import SkillScript.Settings
import SkillScript.World.Entities
import SkillScript.World.Bus
/-!
# What a script sees

The world is shared by all scripts of a host. A scope adds to it what belongs to
one script: the entity it runs for, the tag of its cast and its variables. A
context adds the accounts of its node tree: the census of its nodes, and how many
lifecycle calls have been refused.
-/
set_option autoImplicit false
namespace SkillScript

structure World where
  entities : Entities := .empty
  bus : Bus := .ofCapacity 64
  settings : Settings := {}
deriving Inhabited

def World.ofSettings (settings : Settings) : World where
  bus := .ofCapacity settings.eventCapacity
  settings := settings

structure Scope extends World where
  owner : EntityId
  tag : CastTag
  vars : Vars

/-- Who was born and who is gone in a node tree. The behaviors that a host runs are numbered in
the order in which they start. -/
structure Census where
  /-- Nodes created and not yet released. -/
  live : Nat := 0
  /-- Releases that found no node left on the account. -/
  overdrawn : Nat := 0
  /-- How many behaviors run by the host have started. -/
  started : Nat := 0
  /-- The numbers of those that have ended, the latest first. -/
  ended : List Nat := []
deriving DecidableEq, Repr, Inhabited

namespace Census

def born (c : Census) : Census :=
  { c with live := c.live + 1 }

/-- Counts a node out. The count never goes below zero. -/
def buried (c : Census) : Census :=
  { c with
    live := c.live - 1
    overdrawn := if c.live = 0 then c.overdrawn + 1 else c.overdrawn }

def opened (c : Census) : Option Nat → Census
  | none => c
  | some _ => { c with started := c.started + 1 }

def closed (c : Census) : Option Nat → Census
  | none => c
  | some n => { c with ended := n :: c.ended }

end Census

structure Context extends Scope, Census where
  /-- Lifecycle calls that did not fit the status of their node. -/
  refusals : Nat := 0

def Scope.publish (s : Scope) (name : String) (payload : Vars) : Scope :=
  { s with bus := s.bus.publish { name := name, source := s.owner, payload := payload } }

namespace Context

def publish (ctx : Context) (name : String) (payload : Vars) : Context :=
  { ctx with toScope := ctx.toScope.publish name payload }

def refuse (ctx : Context) : Context :=
  { ctx with refusals := ctx.refusals + 1 }

def born (ctx : Context) : Context :=
  { ctx with toCensus := ctx.toCensus.born }

def buried (ctx : Context) : Context :=
  { ctx with toCensus := ctx.toCensus.buried }

def unsubscribe (ctx : Context) (receiver : Receiver) : Context :=
  { ctx with bus := ctx.bus.unsubscribe receiver }

end Context

end SkillScript
