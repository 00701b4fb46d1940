import SkillScript.Cast.Skill
/-!
# Casts

A cast is one use of a skill. It owns the agent that runs the script, and it
remembers which flags it has taken from its owner, so that it can give back
exactly those.
-/
set_option autoImplicit false
namespace SkillScript

structure Spell where
  target : Option EntityId := none
  position : Option Position := none
  vars : Vars := ∅

def releaseTrigger : String := "OnReleaseSkill"

/-- The variables that a script gets with the release trigger. The caller's own variables come
last and win. -/
def Spell.payload (s : Spell) : Vars :=
  let vars : Vars := ∅
  let vars :=
    match s.target with
    | some id => vars.insert "target" (.entity id)
    | none => vars
  let vars :=
    match s.position with
    | some p => (vars.insert "target_x" (.float p.x)).insert "target_y" (.float p.y)
    | none => vars
  vars.union s.vars

structure Cast where
  skill : Skill
  tag : CastTag
  agent : Agent
  /-- The flags taken from the owner and not yet given back. -/
  suppressed : Flags
  finished : Bool := false
  disposed : Bool := false

namespace Cast

def owner (p : Cast) : EntityId :=
  p.agent.owner

def suppress (w : World) (owner : EntityId) (flags : Flags) : World :=
  if flags.isEmpty then w
  else { w with entities := w.entities.setFlags owner ((w.entities.flags owner).diff flags) }

def restore (w : World) (owner : EntityId) (flags : Flags) : World :=
  if flags.isEmpty then w
  else { w with entities := w.entities.setFlags owner ((w.entities.flags owner).union flags) }

def pay (w : World) (owner : EntityId) (cost : Int32) : World :=
  if 0 < cost then
    match w.entities.health? owner with
    | none => w
    | some health =>
      let left := health - cost
      { w with entities := w.entities.setHealth owner (if left < 0 then 0 else left) }
  else w

/-- Starts a cast: makes the agent, takes flags and health from the owner, and releases the
script. If the agent cannot be made, the owner is left alone. -/
def start (r : Registry) (skill : Skill) (script : Script) (owner : EntityId)
    (sequence : UInt32) (spell : Spell) (w : World) : Except AgentError Cast × World :=
  let tag := CastTag.forCast owner sequence
  let vars := Vars.set ∅ "skill_id" (Int64.ofNat skill.id.number.toNat)
  match Agent.init r script owner tag vars w with
  | (.error e, w) => (.error e, w)
  | (.ok agent, w) =>
    let suppressed := (w.entities.flags owner).inter skill.locks
    let w := pay (suppress w owner suppressed) owner skill.healthCost
    let agent := agent.trigger releaseTrigger spell.payload
    (.ok { skill := skill, tag := tag, agent := agent, suppressed := suppressed }, w)

def trigger (p : Cast) (tag : String) (payload : Vars) : Cast :=
  if p.disposed then p else { p with agent := p.agent.trigger tag payload }

def update (p : Cast) (step : Float32) (w : World) : Cast × World :=
  if p.finished then (p, w)
  else
    let (agent, w) := p.agent.update step w
    ({ p with agent := agent }, w)

def lateUpdate (p : Cast) : Cast :=
  if !p.finished && p.agent.isFinished then { p with finished := true } else p

def markFinished (p : Cast) : Cast :=
  { p with finished := true }

/-- Whether the cast is over: it was marked so, or it can be interrupted and its owner is
stunned. -/
def isFinished (p : Cast) (es : Entities) : Bool :=
  p.finished || (p.skill.interruptible && (es.flags p.owner).stunned)

/-- Removes what the cast has spawned, gives the flags back and disposes the agent. -/
def release (p : Cast) (w : World) : Cast × World :=
  let w := { w with entities := w.entities.release p.tag }
  let w := restore w p.owner p.suppressed
  let (agent, w) := p.agent.dispose w
  ({ p with agent := agent, suppressed := .empty, finished := true, disposed := true }, w)

/-- Ends the cast and enters its cooldown. A cast ends once. -/
def dispose (p : Cast) (cd : Cooldown) (w : World) : Cast × Cooldown × World :=
  if p.disposed then (p, cd, w)
  else
    let (p, w) := p.release w
    (p, cd.start, w)

/-- Lets go of a cast: one that has not ended is released without a cooldown. -/
def drop (p : Cast) (w : World) : World :=
  if p.disposed then w else (p.release w).2

end Cast

end SkillScript
