import SkillScript.Cast.Caster
/-!
# Calls to a caster

What hosts do with a caster, as data: a run is a list of calls, each with the world
that it finds, since hosts change their worlds as they like between the calls. A call
that casts a skill either changes nothing, or ends the running cast and then launches
the new one. Ending a cast sweeps the world, disposes of the agent and enters the
cooldown.
-/
set_option autoImplicit false
namespace SkillScript

namespace Cast

def sweep (p : Cast) (w : World) : World :=
  restore { w with entities := w.entities.release p.tag } p.owner p.suppressed

theorem release_eq (p : Cast) (w : World) :
    p.release w =
      ({ p with
          agent := (p.agent.dispose (p.sweep w)).1
          suppressed := .empty
          finished := true
          disposed := true },
        (p.agent.dispose (p.sweep w)).2) :=
  rfl

/-- Whether a late update ends the cast: its script has run to the end, or it can be interrupted
and its owner is stunned. -/
def isOver (p : Cast) (es : Entities) : Bool :=
  p.agent.isFinished || (p.skill.interruptible && (es.flags p.owner).stunned)

variable {r : Registry} {skill : Skill} {script : Script} {owner : EntityId} {sequence : UInt32}
  {spell : Spell} {w w' : World} {e : AgentError} {p : Cast}

theorem trigger_eq (undisposed : p.disposed = false) (tag : String) (payload : Vars) :
    p.trigger tag payload = { p with agent := p.agent.trigger tag payload } := by
  simp [trigger, undisposed]

theorem update_eq (unfinished : p.finished = false) (step : Float32) (w : World) :
    p.update step w =
      ({ p with agent := (p.agent.update step w).1 }, (p.agent.update step w).2) := by
  simp [update, unfinished]

def startVars (skill : Skill) : Vars :=
  Vars.set ∅ "skill_id" (Int64.ofNat skill.id.number.toNat)

theorem start_error (failed : start r skill script owner sequence spell w = (.error e, w')) :
    Agent.init r script owner (.forCast owner sequence) (startVars skill) w = (.error e, w') := by
  simp only [start] at failed
  split at failed
  · rename_i e' w₁ refused
    cases failed
    exact refused
  · cases failed

/-- A cast that has started holds an agent that has started, and takes from the owner what the
skill demands. -/
theorem start_ok (started : start r skill script owner sequence spell w = (.ok p, w')) :
    ∃ agent w₁,
      Agent.init r script owner (.forCast owner sequence) (startVars skill) w = (.ok agent, w₁) ∧
      p = { skill := skill
            tag := .forCast owner sequence
            agent := agent.trigger releaseTrigger spell.payload
            suppressed := (w₁.entities.flags owner).inter skill.locks } ∧
      w' = pay (suppress w₁ owner p.suppressed) owner skill.healthCost := by
  simp only [start] at started
  split at started
  · cases started
  · rename_i agent w₁ made
    cases started
    exact ⟨agent, w₁, made, rfl, rfl⟩

end Cast

namespace Caster

inductive Call where
  | learn (skill : Skill)
  | trySpell (id : SkillId) (spell : Spell)
  | trigger (tag : String) (payload : Vars)
  | update (step : Float32)
  | lateUpdate
  | interrupt

def call (r : Registry) (lib : Library) (w : World) (c : Caster) : Call → Caster × World
  | .learn skill => (c.learn skill, w)
  | .trySpell id spell => (c.trySpell r lib id spell w).2
  | .trigger tag payload => (c.trigger tag payload, w)
  | .update step => c.update step w
  | .lateUpdate => c.lateUpdate w
  | .interrupt => (c.interrupt w).2

def run (r : Registry) (lib : Library) (c : Caster) : List (World × Call) → Caster
  | [] => c
  | (w, a) :: rest => run r lib (c.call r lib w a).1 rest

theorem run_append (r : Registry) (lib : Library) (c : Caster) (l l' : List (World × Call)) :
    c.run r lib (l ++ l') = (c.run r lib l).run r lib l' := by
  induction l generalizing c with
  | nil => rfl
  | cons e rest ih => exact ih _

/-- Starts a cast when no other runs any more. -/
def launch (r : Registry) (skill : Skill) (script : Script) (spell : Spell) (c : Caster)
    (w : World) : Except SkillError Unit × Caster × World :=
  let c := { c with casts := c.casts + 1 }
  match Cast.start r skill script c.owner c.casts spell w with
  | (.error e, w) => (.error (.agent e), c, w)
  | (.ok p, w) => (.ok (), { c with current := some p }, w)

variable {r : Registry} {lib : Library} {c : Caster} {id : SkillId} {spell : Spell} {w : World}
  {p : Cast}

/-- A skill that passes all gates is known. -/
theorem ability_of_check {target : Option EntityId} {es : Entities}
    (passed : c.check id target es = .ok ()) : ∃ a, c.ability? id = some a := by
  rw [check] at passed
  cases known : c.ability? id with
  | none =>
    rw [known] at passed
    cases passed
  | some a => exact ⟨a, rfl⟩

theorem interrupt_eq (c : Caster) (w : World) : (c.interrupt w).2 = c.endCast w := by
  rw [interrupt, isCasting]
  cases current : c.current with
  | none => simp [endCast, current]
  | some p => rfl

/-- An attempt that passes all gates and whose script is loaded ends the running cast and launches
the new one. -/
theorem trySpell_eq_launch {a : Ability} {script : Script}
    (passed : c.check id spell.target w.entities = .ok ()) (known : c.ability? id = some a)
    (loaded : lib.find? a.skill.script = some script) :
    c.trySpell r lib id spell w =
      launch r a.skill script spell (c.endCast w).1 (c.endCast w).2 := by
  rw [← interrupt_eq]
  simp only [trySpell, passed, known, loaded]
  rfl

/-- What an attempt to cast a skill can come to: it is refused by a gate, its script is missing,
or it ends the running cast and launches the new one. -/
theorem trySpell_cases (r : Registry) (lib : Library) (c : Caster) (id : SkillId) (spell : Spell)
    (w : World) :
    (∃ e, c.check id spell.target w.entities = .error e ∧
      c.trySpell r lib id spell w = (.error e, c, w)) ∨
    (∃ a, c.check id spell.target w.entities = .ok () ∧ c.ability? id = some a ∧
      lib.find? a.skill.script = none ∧
      c.trySpell r lib id spell w = (.error (.scriptNotFound id a.skill.script), c, w)) ∨
    (∃ a script, c.check id spell.target w.entities = .ok () ∧ c.ability? id = some a ∧
      lib.find? a.skill.script = some script ∧
      c.trySpell r lib id spell w =
        launch r a.skill script spell (c.endCast w).1 (c.endCast w).2) := by
  cases gates : c.check id spell.target w.entities with
  | error e => exact Or.inl ⟨e, rfl, by rw [trySpell, gates]⟩
  | ok _ =>
    obtain ⟨a, known⟩ := ability_of_check gates
    cases loaded : lib.find? a.skill.script with
    | none =>
      refine Or.inr (Or.inl ⟨a, rfl, known, loaded, ?_⟩)
      simp only [trySpell, gates, known, loaded]
    | some script =>
      exact Or.inr (Or.inr ⟨a, script, rfl, known, loaded, trySpell_eq_launch gates known loaded⟩)

theorem launch_cases (r : Registry) (skill : Skill) (script : Script) (spell : Spell)
    (c : Caster) (w : World) :
    (∃ e w', Cast.start r skill script c.owner (c.casts + 1) spell w = (.error e, w') ∧
      launch r skill script spell c w =
        (.error (.agent e), { c with casts := c.casts + 1 }, w')) ∨
    (∃ p w', Cast.start r skill script c.owner (c.casts + 1) spell w = (.ok p, w') ∧
      launch r skill script spell c w =
        (.ok (), { c with casts := c.casts + 1, current := some p }, w')) := by
  rcases started : Cast.start r skill script c.owner (c.casts + 1) spell w with ⟨e | p, w'⟩
  · exact Or.inl ⟨e, w', rfl, by simp only [launch, started]⟩
  · exact Or.inr ⟨p, w', rfl, by simp only [launch, started]⟩

/-- What has started a cast: the gates let it in, the script was loaded, and it started in the world
that the end of the running cast had left. -/
theorem trySpell_started (started : (c.trySpell r lib id spell w).1 = .ok ()) :
    ∃ a script p w', c.check id spell.target w.entities = .ok () ∧ c.ability? id = some a ∧
      lib.find? a.skill.script = some script ∧
      Cast.start r a.skill script (c.endCast w).1.owner ((c.endCast w).1.casts + 1) spell
        (c.endCast w).2 = (.ok p, w') ∧
      c.trySpell r lib id spell w =
        (.ok (),
          { (c.endCast w).1 with casts := (c.endCast w).1.casts + 1, current := some p }, w') := by
  rcases trySpell_cases r lib c id spell w with
    ⟨e, -, result⟩ | ⟨a, -, -, -, result⟩ | ⟨a, script, passed, known, loaded, result⟩
  · rw [result] at started
    cases started
  · rw [result] at started
    cases started
  · rcases launch_cases r a.skill script spell (c.endCast w).1 (c.endCast w).2 with
      ⟨e, w', -, launched⟩ | ⟨p, w', made, launched⟩
    · rw [result, launched] at started
      cases started
    · exact ⟨a, script, p, w', passed, known, loaded, made, by rw [result, launched]⟩

/-- An update reaches the agent of the running cast. -/
theorem update_eq (running : c.current = some p) (unfinished : p.finished = false)
    (step : Float32) (w : World) :
    c.update step w =
      ({ c with
          abilities := c.abilities.map fun a => { a with cooldown := a.cooldown.tick step }
          current := some { p with agent := (p.agent.update step w).1 } },
        (p.agent.update step w).2) := by
  simp only [update, running, Cast.update_eq unfinished]

theorem endCast_idle (idle : c.current = none) (w : World) : c.endCast w = (c, w) := by
  simp only [endCast, idle]

/-- Ending a cast of a known skill enters the cooldown once and releases the cast once. -/
theorem endCast_eq (running : c.current = some p) (undisposed : p.disposed = false) {a : Ability}
    (known : c.ability? p.skill.id = some a) (w : World) :
    c.endCast w =
      ({ c with
          abilities := c.abilities.insert p.skill.id { a with cooldown := a.cooldown.start }
          current := none },
        (p.release w).2) := by
  simp only [endCast, running, known, Cast.dispose, undisposed]
  rfl

/-- It makes no difference to its end whether a cast was marked as finished. -/
theorem endCast_markFinished (running : c.current = some p) (w : World) :
    endCast { c with current := some p.markFinished } w = c.endCast w := by
  have same : Cast.markFinished p = { p with finished := true } := rfl
  simp only [endCast, running, same, ability?, Cast.dispose]
  cases disposed : p.disposed with
  | false => rfl
  | true => rfl

/-- A late update ends the cast if it is over, and otherwise changes nothing. -/
theorem lateUpdate_eq (running : c.current = some p) (unfinished : p.finished = false)
    (w : World) :
    c.lateUpdate w = if p.isOver w.entities then c.endCast w else (c, w) := by
  cases done : p.agent.isFinished with
  | true =>
    have marked : p.lateUpdate = p.markFinished := by
      simp [Cast.lateUpdate, Cast.markFinished, unfinished, done]
    have ends : p.isOver w.entities = true := by simp [Cast.isOver, done]
    have finished : p.markFinished.isFinished w.entities = true := by
      simp [Cast.isFinished, Cast.markFinished]
    rw [ends, if_pos rfl, ← endCast_markFinished running]
    simp only [lateUpdate, running, marked, finished, if_true]
  | false =>
    have unmarked : p.lateUpdate = p := by simp [Cast.lateUpdate, done]
    have same : { c with current := some p } = c := by rw [← running]
    have ends : p.isOver w.entities = p.isFinished w.entities := by
      simp [Cast.isOver, Cast.isFinished, unfinished, done]
    simp only [lateUpdate, running, unmarked, same, ends]

end Caster

end SkillScript
