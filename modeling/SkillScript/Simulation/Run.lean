import SkillScript.Cast.Caster
/-!
# Simulating casts

A caster and a target stand at a distance. One skill is cast, or cast again
whenever it is ready, while time passes in equal steps; the report says what has
become of both.
-/
set_option autoImplicit false
namespace SkillScript
namespace Simulation

structure Setup where
  ticks : UInt32 := 60
  step : Float32 := 0.1
  distance : Float32 := 4
  /-- The health of both entities at the start. -/
  health : Int32 := 100
  /-- Whether the skill is cast again. -/
  again : Bool := false
deriving DecidableEq, Repr

structure Report where
  skill : String
  ticks : UInt32
  elapsed : Float32
  casts : UInt32
  rejected : UInt32
  casterHealth : Option Int32
  targetHealth : Option Int32
  cooldownRemaining : Float32
  casting : Bool
deriving DecidableEq, Repr

def casterId : EntityId := ⟨1⟩

def targetId : EntityId := ⟨2⟩

structure Stage where
  caster : Caster
  world : World
  casts : UInt32 := 0
  rejected : UInt32 := 0

namespace Stage

def cast (r : Registry) (lib : Library) (id : SkillId) (s : Stage) : Stage :=
  let (started, caster, world) :=
    s.caster.spell r lib id { target := some targetId } s.world
  let s := { s with caster := caster, world := world }
  if started then { s with casts := s.casts + 1 } else { s with rejected := s.rejected + 1 }

def pass (step : Float32) (s : Stage) : Stage :=
  let (caster, world) := s.caster.update step s.world
  let (caster, world) := caster.lateUpdate world
  { s with caster := caster, world := world }

def isReady (id : SkillId) (s : Stage) : Bool :=
  !s.caster.isCasting && (s.caster.check id (some targetId) s.world.entities).isOk

/-- One step, and another cast if it is wanted and possible. -/
def tick (r : Registry) (lib : Library) (setup : Setup) (id : SkillId) (s : Stage) : Stage :=
  let s := s.pass setup.step
  if setup.again && s.isReady id then s.cast r lib id else s

def ticks (r : Registry) (lib : Library) (setup : Setup) (id : SkillId) : Nat → Stage → Stage
  | 0, s => s
  | n + 1, s => ticks r lib setup id n (s.tick r lib setup id)

end Stage

/-- Both entities in their places, and a caster that knows the skill. -/
def Stage.initial (setup : Setup) (settings : Settings) (skill : Skill) : Stage :=
  let world := World.ofSettings settings
  let entities := world.entities.insert casterId (.actor setup.health .origin)
  let entities := entities.insert targetId (.actor setup.health ⟨setup.distance, 0⟩)
  let caster : Caster := { owner := casterId }
  { caster := caster.learn skill, world := { world with entities := entities } }

def run (r : Registry) (settings : Settings) (lib : Library) (setup : Setup) (skill : Skill) :
    Report :=
  let s := (Stage.initial setup settings skill).cast r lib skill.id
  let s := s.ticks r lib setup skill.id setup.ticks.toNat
  { skill := skill.name
    ticks := setup.ticks
    elapsed := Float32.ofInt setup.ticks.toNat * setup.step
    casts := s.casts
    rejected := s.rejected
    casterHealth := s.world.entities.health? casterId
    targetHealth := s.world.entities.health? targetId
    cooldownRemaining := match s.caster.ability? skill.id with
      | some a => a.cooldown.remaining
      | none => 0
    casting := s.caster.isCasting }

end Simulation
end SkillScript
