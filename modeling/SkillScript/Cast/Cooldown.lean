import SkillScript.Number.Order
/-!
# Cooldowns

A cooldown is entered for its whole duration and runs down to zero.
-/
set_option autoImplicit false
namespace SkillScript

structure Cooldown where
  duration : Float32 := 0
  remaining : Float32 := 0
deriving DecidableEq, Repr, Inhabited

namespace Cooldown

/-- A cooldown that is not running. A negative duration counts as zero. -/
def ofDuration (duration : Float32) : Cooldown :=
  { duration := Number.atLeastZero duration }

def start (c : Cooldown) : Cooldown :=
  { c with remaining := c.duration }

def tick (c : Cooldown) (step : Float32) : Cooldown :=
  { c with remaining := Number.atLeastZero (c.remaining - Number.atLeastZero step) }

def clear (c : Cooldown) : Cooldown :=
  { c with remaining := 0 }

def isCooling (c : Cooldown) : Bool :=
  0 < c.remaining

end Cooldown

end SkillScript
