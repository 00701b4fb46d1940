import SkillScript.Proofs.Casting.Attempts
import SkillScript.Proofs.Casting.Cooling
/-!
# Casts that must not be interrupted

A cast of a skill that cannot be interrupted ends in two ways only: an explicit
interrupt, and a late update that finds its script at its end. Whatever else happens
to the caster, to its abilities and to its owner, the cast goes on, and every attempt
to cast a skill in its place is refused by a gate and changes nothing.
-/
set_option autoImplicit false
namespace SkillScript

namespace Cast

def afterAll (p : Cast) (calls : List (World × Caster.Call)) : Cast :=
  calls.foldl (fun p e => p.after e.1 e.2) p

@[simp]
theorem tag_afterAll (p : Cast) (calls : List (World × Caster.Call)) :
    (p.afterAll calls).tag = p.tag := by
  induction calls generalizing p with
  | nil => rfl
  | cons e rest ih => exact (ih (p.after e.1 e.2)).trans (p.tag_after e.1 e.2)

@[simp]
theorem skill_afterAll (p : Cast) (calls : List (World × Caster.Call)) :
    (p.afterAll calls).skill = p.skill := by
  induction calls generalizing p with
  | nil => rfl
  | cons e rest ih => exact (ih (p.after e.1 e.2)).trans (p.skill_after e.1 e.2)

end Cast

namespace Caster

/-- Whether a call is an interrupt, or a late update that finds the script of the running cast at
its end. -/
def Concludes (c : Caster) : Call → Prop
  | .interrupt => True
  | .lateUpdate => ∃ p, c.current = some p ∧ p.agent.isFinished = true
  | _ => False

def Undisturbed (r : Registry) (lib : Library) : Caster → List (World × Call) → Prop
  | _, [] => True
  | c, (w, a) :: rest => ¬ c.Concludes a ∧ Undisturbed r lib (c.call r lib w a).1 rest

variable {r : Registry} {lib : Library} {c : Caster} {p : Cast}

/-- A cast that must not be interrupted ends only by what concludes it, stunned or not. -/
theorem Sound.exits_iff_concludes (sound : c.Sound lib) (running : c.current = some p)
    (bound : p.skill.interruptible = false) (w : World) (a : Call) :
    c.Exits lib p w a ↔ c.Concludes a := by
  cases a with
  | learn skill => exact Iff.rfl
  | trigger tag payload => exact Iff.rfl
  | update step => exact Iff.rfl
  | interrupt => exact Iff.rfl
  | trySpell id spell =>
    constructor
    · rintro ⟨passed, -⟩
      have free := sound.interruptible_of_check running passed
      rw [bound] at free
      cases free
    · exact False.elim
  | lateUpdate =>
    have ends : p.isOver w.entities = p.agent.isFinished := by simp [Cast.isOver, bound]
    simp only [Exits, Concludes, ends, running, Option.some.injEq, exists_eq_left']

/-- No attempt passes the gates while such a cast runs. -/
theorem Sound.check_refused (sound : c.Sound lib) (running : c.current = some p)
    (bound : p.skill.interruptible = false) (id : SkillId) (target : Option EntityId)
    (es : Entities) : ∃ e, c.check id target es = .error e := by
  cases passed : c.check id target es with
  | error e => exact ⟨e, rfl⟩
  | ok _ =>
    have free := sound.interruptible_of_check running passed
    rw [bound] at free
    cases free

theorem Sound.trySpell_refused (sound : c.Sound lib) (running : c.current = some p)
    (bound : p.skill.interruptible = false) (id : SkillId) (spell : Spell) (w : World) :
    ∃ e, e.IsGate ∧ c.trySpell r lib id spell w = (.error e, c, w) := by
  obtain ⟨e, refused⟩ := sound.check_refused running bound id spell.target w.entities
  obtain ⟨failed, gate⟩ := (check_eq_error_iff r lib c id spell w e).mp refused
  have early : ∀ e', e ≠ .agent e' := by
    rintro e' rfl
    exact gate
  exact ⟨e, gate, Prod.ext failed (unchanged_of_error failed early)⟩

/-- Undisturbed, the cast goes on through all calls. -/
theorem Sound.goesOn_undisturbed (sound : c.Sound lib) (running : c.current = some p)
    (bound : p.skill.interruptible = false) {calls : List (World × Call)}
    (undisturbed : Undisturbed r lib c calls) :
    Lasts r lib p.tag c calls ∧ (c.run r lib calls).current = some (p.afterAll calls) := by
  -- By induction on the calls: each of them leaves a cast of the same skill under the same tag.
  induction calls generalizing c p with
  | nil => exact ⟨⟨p, running, rfl⟩, running⟩
  | cons e rest ih =>
    obtain ⟨w, a⟩ := e
    obtain ⟨quiet, undisturbed⟩ := undisturbed
    have stays : ¬ c.Exits lib p w a :=
      mt (sound.exits_iff_concludes running bound w a).mp quiet
    have next : (c.call r lib w a).1.current = some (p.after w a) := by
      rw [sound.call_goesOn running stays]
    have bound' : (p.after w a).skill.interruptible = false := by
      rw [p.skill_after]
      exact bound
    obtain ⟨lasts, later⟩ := ih (sound.call w a) next bound' undisturbed
    rw [p.tag_after] at lasts
    exact ⟨⟨⟨p, running, rfl⟩, lasts⟩, later⟩

/-- A cast that must not be interrupted is never replaced. Whatever the history of the caster, and
whatever calls come while such a cast runs, in whatever worlds: as long as none of them concludes
the cast, it is the same cast that runs, and nothing has been done to it but to its agent, by
triggers and updates. All that time, every attempt to cast a skill is refused by a gate and changes
nothing; and a call ends the cast exactly if it concludes it. -/
theorem uninterruptible_casts_stay (r : Registry) (lib : Library) (owner : EntityId)
    (calls later : List (World × Call)) (p : Cast)
    (running : (run r lib { owner := owner } calls).current = some p)
    (bound : p.skill.interruptible = false)
    (undisturbed : Undisturbed r lib (run r lib { owner := owner } calls) later) :
    let c := (run r lib { owner := owner } calls).run r lib later
    Lasts r lib p.tag (run r lib { owner := owner } calls) later ∧
      c.current = some (p.afterAll later) ∧
      (∀ id spell w, ∃ e, e.IsGate ∧ c.trySpell r lib id spell w = (.error e, c, w) ∧
        c.spell r lib id spell w = (false, c, w)) ∧
      ∀ w a, ¬ (c.call r lib w a).1.Runs p.tag ↔ c.Concludes a := by
  intro c
  have before := sound_run r lib owner calls
  obtain ⟨lasts, current⟩ := before.goesOn_undisturbed running bound undisturbed
  have sound : c.Sound lib := before.run later
  have bound' : (p.afterAll later).skill.interruptible = false := by
    rw [p.skill_afterAll]
    exact bound
  refine ⟨lasts, current, ?refused, ?ends⟩
  case refused =>
    intro id spell w
    obtain ⟨e, gate, attempt⟩ := sound.trySpell_refused current bound' id spell w (r := r)
    refine ⟨e, gate, attempt, ?_⟩
    rw [spell_eq, attempt]
    rfl
  case ends =>
    intro w a
    have exits := sound.runs_call_iff current (r := r) (w := w) (a := a)
    rw [p.tag_afterAll] at exits
    rw [exits, not_not]
    exact sound.exits_iff_concludes current bound' w a

def vow : Skill :=
  { id := ⟨4⟩, name := "vow", script := "idle", cooldown := 2 }

def vowCalls : List (World × Call) :=
  [(stanceWorld, .learn vow), (stanceWorld, .learn stance), (stanceWorld, .trySpell ⟨4⟩ {})]

def stunnedWorld : World :=
  { entities := stanceWorld.entities.setFlags ⟨1⟩ { movable := true, stunned := true } }

def vowTrials : List (World × Call) :=
  [(stanceWorld, .learn { vow with interruptible := true }), (stunnedWorld, .lateUpdate),
    (stanceWorld, .trySpell ⟨1⟩ {}), ({}, .lateUpdate), ({}, .update 1)]

def vowCaster : Caster :=
  (run idleRegistry stanceLibrary { owner := ⟨1⟩ } vowCalls).run idleRegistry stanceLibrary
    vowTrials

theorem uninterruptible_casts_stay_of_vow :
    vowCaster.activeSkill? = some ⟨4⟩ ∧ vowCaster.Runs (.forCast ⟨1⟩ 1) ∧
      (vowCaster.trySpell idleRegistry stanceLibrary ⟨1⟩ {} stanceWorld).2 =
        (vowCaster, stanceWorld) := by
  have goesOn (c : Caster) (unfinished : (c.current.all fun p => !p.agent.isFinished) = true) :
      ¬ c.Concludes .lateUpdate := by
    rintro ⟨p, running, finished⟩
    simp [running, finished] at unfinished
  have undisturbed : Undisturbed idleRegistry stanceLibrary
      (run idleRegistry stanceLibrary { owner := ⟨1⟩ } vowCalls) vowTrials := by
    refine ⟨id, goesOn _ ?_, id, goesOn _ ?_, id, trivial⟩
    · decide +kernel
    · decide +kernel
  obtain ⟨-, current, refused, -⟩ := uninterruptible_casts_stay idleRegistry stanceLibrary ⟨1⟩
    vowCalls vowTrials _ rfl rfl undisturbed
  obtain ⟨e, -, attempt, -⟩ := refused ⟨1⟩ {} stanceWorld
  exact ⟨by decide +kernel, ⟨_, current, Cast.tag_afterAll _ _⟩, congrArg Prod.snd attempt⟩

end Caster

end SkillScript
