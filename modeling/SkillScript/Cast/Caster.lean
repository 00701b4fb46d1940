import SkillScript.Cast.Basic
/-!
# Casters

A caster is an entity with its abilities and at most one running cast. A cast is
checked against all gates before anything changes. A cast that is replaced ends
first and enters its own cooldown.
-/
set_option autoImplicit false
namespace SkillScript

abbrev Library := Table String Script

inductive SkillError where
  | unknownSkill (id : SkillId)
  | scriptNotFound (skill : SkillId) (script : String)
  | blocked (skill : SkillId) (reason : CastBlock)
  | agent (e : AgentError)
deriving DecidableEq, Repr

def SkillError.message : SkillError → String
  | unknownSkill id => id.display ++ " is not known to this caster"
  | scriptNotFound skill script =>
    skill.display ++ " uses script " ++ named script ++ ", which is not loaded"
  | blocked skill reason => skill.display ++ " cannot be cast: " ++ reason.name
  | agent e => e.message

structure Caster where
  owner : EntityId
  abilities : Table SkillId Ability := ∅
  current : Option Cast := none
  /-- How many casts were started; the number wraps around. -/
  casts : UInt32 := 0

namespace Caster

/-- Adds a skill. A skill that is learned again has a fresh cooldown. -/
def learn (c : Caster) (skill : Skill) : Caster :=
  { c with abilities := c.abilities.insert skill.id (.ofSkill skill) }

def ability? (c : Caster) (id : SkillId) : Option Ability :=
  c.abilities.find? id

def isCasting (c : Caster) : Bool :=
  c.current.isSome

def activeSkill? (c : Caster) : Option SkillId :=
  c.current.map fun p => p.skill.id

/-- Whether a cast runs that must not be interrupted. -/
def isBusy (c : Caster) (es : Entities) : Bool :=
  c.current.any fun p => !p.skill.interruptible && !p.isFinished es

/-- All gates of a cast; those for a target only if there is one. -/
def check (c : Caster) (id : SkillId) (target : Option EntityId) (es : Entities) :
    Except SkillError Unit :=
  match c.ability? id with
  | none => .error (.unknownSkill id)
  | some a =>
    let gates : Except CastBlock Unit := do
      a.check c.owner es (c.isBusy es)
      match target with
      | none => pure ()
      | some t => a.checkTarget c.owner t es
    gates.mapError (.blocked id)

/-- Ends the running cast and enters the cooldown of its skill, if that is still known. -/
def endCast (c : Caster) (w : World) : Caster × World :=
  match c.current with
  | none => (c, w)
  | some p =>
    let id := p.skill.id
    match c.ability? id with
    | some a =>
      let (_, cd, w) := p.dispose a.cooldown w
      ({ c with
          abilities := c.abilities.insert id { a with cooldown := cd }
          current := none }, w)
    | none =>
      let (_, _, w) := p.dispose {} w
      ({ c with current := none }, w)

def interrupt (c : Caster) (w : World) : Bool × Caster × World :=
  if c.isCasting then
    let (c, w) := c.endCast w
    (true, c, w)
  else (false, c, w)

/-- Casts a skill in place of the running cast. On an error nothing has changed, except that
the running cast has ended if the new one failed only when its script was started. -/
def trySpell (r : Registry) (lib : Library) (c : Caster) (id : SkillId) (spell : Spell)
    (w : World) : Except SkillError Unit × Caster × World :=
  match c.check id spell.target w.entities with
  | .error e => (.error e, c, w)
  | .ok () =>
    match c.ability? id with
    | none => (.error (.unknownSkill id), c, w)
    | some a =>
      match lib.find? a.skill.script with
      | none => (.error (.scriptNotFound id a.skill.script), c, w)
      | some script =>
        let (_, c, w) := c.interrupt w
        let c := { c with casts := c.casts + 1 }
        match Cast.start r a.skill script c.owner c.casts spell w with
        | (.error e, w) => (.error (.agent e), c, w)
        | (.ok p, w) => (.ok (), { c with current := some p }, w)

def spell (r : Registry) (lib : Library) (c : Caster) (id : SkillId) (spell : Spell)
    (w : World) : Bool × Caster × World :=
  let (result, c, w) := c.trySpell r lib id spell w
  (result.isOk, c, w)

def trigger (c : Caster) (tag : String) (payload : Vars) : Caster :=
  { c with current := c.current.map fun p => p.trigger tag payload }

/-- Lets time pass for all cooldowns, then for the running cast. -/
def update (c : Caster) (step : Float32) (w : World) : Caster × World :=
  let c := { c with
    abilities := c.abilities.map fun a => { a with cooldown := a.cooldown.tick step } }
  match c.current with
  | none => (c, w)
  | some p =>
    let (p, w) := p.update step w
    ({ c with current := some p }, w)

def lateUpdate (c : Caster) (w : World) : Caster × World :=
  match c.current with
  | none => (c, w)
  | some p =>
    let p := p.lateUpdate
    let c := { c with current := some p }
    if p.isFinished w.entities then c.endCast w else (c, w)

/-- Lets go of a caster: its running cast ends. -/
def drop (c : Caster) (w : World) : World :=
  (c.endCast w).2

end Caster

end SkillScript
