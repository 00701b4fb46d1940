/-!
# The lifecycle of a node

A node is initialized once, is then switched between ready and active, and is
destroyed at last. A call that does not fit the status is refused and changes
nothing; switching a node to the status that it already has is allowed and
changes nothing either.
-/
set_option autoImplicit false
namespace SkillScript

inductive Lifecycle where
  | uninitialized
  | ready
  | active
  | destroyed
deriving DecidableEq, Repr, Inhabited

namespace Lifecycle

def name : Lifecycle → String
  | uninitialized => "uninitialized"
  | ready => "ready"
  | active => "active"
  | destroyed => "destroyed"

def isActive (s : Lifecycle) : Bool :=
  s = active

def isLive (s : Lifecycle) : Bool :=
  s = ready || s = active

def isDestroyed (s : Lifecycle) : Bool :=
  s = destroyed

inductive Call where
  | init
  | markReady
  | activate
  | deactivate
  | reset
  | update
  | destroy
deriving DecidableEq, Repr

inductive Reply where
  | granted
  /-- The node is already in the status asked for. -/
  | idle
  /-- The call does not fit the status. -/
  | refused
deriving DecidableEq, Repr

def reply : Lifecycle → Call → Reply
  | uninitialized, .init => .granted
  | _, .markReady => .granted
  | ready, .activate => .granted
  | active, .activate => .idle
  | active, .deactivate => .granted
  | ready, .deactivate => .idle
  | ready, .reset => .granted
  | active, .reset => .granted
  | active, .update => .granted
  | destroyed, .destroy => .refused
  | _, .destroy => .granted
  | _, _ => .refused

def target (s : Lifecycle) : Call → Lifecycle
  | .markReady => ready
  | .activate => active
  | .deactivate => ready
  | .destroy => destroyed
  | .init => s
  | .reset => s
  | .update => s

def after (s : Lifecycle) (c : Call) : Lifecycle :=
  if s.reply c = .granted then s.target c else s

end Lifecycle

end SkillScript
