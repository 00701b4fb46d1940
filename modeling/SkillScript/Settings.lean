/-!
# Settings

Constants shared by all scripts of one host.
-/
set_option autoImplicit false
namespace SkillScript

structure Settings where
  /-- The time step given to an exit behavior, long enough to complete it. -/
  exitStep : Float32 := 1000000
  /-- Times no farther than this from zero count as zero. -/
  timeEpsilon : Float32 := 0.0001
  /-- How many events of one name the bus keeps at least. -/
  eventCapacity : Nat := 64
deriving DecidableEq, Repr, Inhabited

def Settings.isZero (s : Settings) (t : Float32) : Bool :=
  t.abs ≤ s.timeEpsilon

end SkillScript
