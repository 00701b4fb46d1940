import SkillScript.Settings
import SkillScript.Number.Order
/-!
# Timers

A timer counts a duration down to zero. Only the time that it still has left is
taken from a step, so the rest of the step is there for what comes next.
-/
set_option autoImplicit false
namespace SkillScript

structure Timer where
  total : Float32
  remaining : Float32
  done : Bool
deriving DecidableEq, Repr, Inhabited

namespace Timer

/-- A timer at its start. A duration that is negative or no number counts as zero. -/
def start (duration : Float32) : Timer :=
  let total := if duration < 0 || duration.isNaN then 0 else duration
  { total := total, remaining := total, done := false }

/-- The part of a step that a timer takes, and the timer after it. What is left counts as zero
within the tolerance of the settings, and the timer is done when nothing is left. -/
def advance (settings : Settings) (t : Timer) (step : Float32) : Float32 × Timer :=
  let taken := Number.minNum step t.remaining
  let left := t.remaining - taken
  let left := if settings.isZero left then 0 else left
  (taken, { t with remaining := left, done := left == 0 })

end Timer

end SkillScript
