import SkillScript.Proofs.Casting.Cleanup
import SkillScript.Script.Build
/-!
# Attempts to cast

An attempt that a gate refuses, or whose script is not loaded, changes nothing at
all. One that fails when its script is started leaves what an interrupt would have
left, and a number used up. Any other attempt starts a cast.
-/
set_option autoImplicit false
namespace SkillScript

open Entities (Unowned)

def SkillError.IsGate : SkillError → Prop
  | unknownSkill _ => True
  | blocked _ _ => True
  | scriptNotFound _ _ => False
  | agent _ => False

namespace Caster

variable {r : Registry} {lib : Library} {c : Caster} {id : SkillId} {spell : Spell} {w : World}
  {e : SkillError}

theorem isGate_of_check {target : Option EntityId} {es : Entities}
    (refused : c.check id target es = .error e) : e.IsGate := by
  rw [check] at refused
  cases known : c.ability? id with
  | none =>
    rw [known] at refused
    cases refused
    trivial
  | some a =>
    simp only [known, Except.mapError] at refused
    split at refused
    · cases refused
      trivial
    · cases refused

/-- What was refused was refused by a gate exactly if the error is one of theirs. -/
theorem check_eq_error_iff (r : Registry) (lib : Library) (c : Caster) (id : SkillId)
    (spell : Spell) (w : World) (e : SkillError) :
    c.check id spell.target w.entities = .error e ↔
      (c.trySpell r lib id spell w).1 = .error e ∧ e.IsGate := by
  rcases trySpell_cases r lib c id spell w with
    ⟨e', refused, result⟩ | ⟨a, passed, -, -, result⟩ | ⟨a, script, passed, -, -, result⟩
  · rw [refused, result]
    constructor
    · intro same
      cases same
      exact ⟨rfl, isGate_of_check refused⟩
    · rintro ⟨same, -⟩
      cases same
      rfl
  · rw [passed, result]
    constructor
    · intro same
      cases same
    · rintro ⟨same, gate⟩
      cases same
      exact gate.elim
  · rw [passed, result]
    constructor
    · intro same
      cases same
    · rintro ⟨failed, gate⟩
      rcases launch_cases r a.skill script spell (c.endCast w).1 (c.endCast w).2 with
        ⟨e', w', -, launched⟩ | ⟨p, w', -, launched⟩
      · rw [launched] at failed
        cases failed
        exact gate.elim
      · rw [launched] at failed
        cases failed

/-- An attempt that does not come to the start of the script changes nothing. -/
theorem unchanged_of_error (failed : (c.trySpell r lib id spell w).1 = .error e)
    (early : ∀ e', e ≠ .agent e') : (c.trySpell r lib id spell w).2 = (c, w) := by
  rcases trySpell_cases r lib c id spell w with
    ⟨e', -, result⟩ | ⟨a, -, -, -, result⟩ | ⟨a, script, -, -, -, result⟩
  · rw [result]
  · rw [result]
  · rw [result] at failed
    rcases launch_cases r a.skill script spell (c.endCast w).1 (c.endCast w).2 with
      ⟨e', w', -, launched⟩ | ⟨p, w', -, launched⟩
    · rw [launched] at failed
      cases failed
      exact absurd rfl (early e')
    · rw [launched] at failed
      cases failed

/-- An attempt whose script does not start has ended the running cast and used up a number. -/
theorem Sound.endCast_of_error (sound : c.Sound lib) {e : AgentError}
    (failed : (c.trySpell r lib id spell w).1 = .error (.agent e))
    (hookless : ∀ a script, c.ability? id = some a → lib.find? a.skill.script = some script →
      script.Hookless) :
    (c.trySpell r lib id spell w).2 =
      ({ (c.endCast w).1 with casts := c.casts + 1 }, (c.endCast w).2) := by
  rcases trySpell_cases r lib c id spell w with
    ⟨e', refused, result⟩ | ⟨a, -, -, -, result⟩ | ⟨a, script, -, known, loaded, result⟩
  · rw [result] at failed
    cases failed
    exact (isGate_of_check refused).elim
  · rw [result] at failed
    cases failed
  · rw [result] at failed ⊢
    rcases launch_cases r a.skill script spell (c.endCast w).1 (c.endCast w).2 with
      ⟨e', w', refused, launched⟩ | ⟨p, w', -, launched⟩
    · have same := Agent.init_failed (hookless a script known loaded) (Cast.start_error refused)
      rw [launched, same, (sound.endCast_ended w).casts]
    · rw [launched] at failed
      cases failed

/-- A skill that passes all gates is cast if its script is loaded and can be started. -/
theorem Sound.trySpell_ok (sound : c.Sound lib)
    (passed : c.check id spell.target w.entities = .ok ()) {a : Ability} {script : Script}
    (known : c.ability? id = some a) (loaded : lib.find? a.skill.script = some script)
    (starts : script.Starts r) :
    (c.trySpell r lib id spell w).1 = .ok () ∧
      (c.trySpell r lib id spell w).2.1.activeSkill? = some id := by
  rw [trySpell_eq_launch passed known loaded]
  rcases launch_cases r a.skill script spell (c.endCast w).1 (c.endCast w).2 with
    ⟨e, w', failed, -⟩ | ⟨p, w', started, launched⟩
  · obtain ⟨agent, w₁, made⟩ := Agent.starts_everywhere starts (c.endCast w).1.owner
      (.forCast (c.endCast w).1.owner ((c.endCast w).1.casts + 1)) (Cast.startVars a.skill)
      (c.endCast w).2
    rw [Cast.start_error failed] at made
    cases made
  · obtain ⟨agent, w₁, -, rfl, -⟩ := Cast.start_ok started
    rw [launched]
    exact ⟨rfl, congrArg some (sound.named id a known)⟩

theorem spell_eq (r : Registry) (lib : Library) (c : Caster) (id : SkillId) (spell : Spell)
    (w : World) : c.spell r lib id spell w =
      ((c.trySpell r lib id spell w).1.isOk, (c.trySpell r lib id spell w).2) :=
  rfl

/-- Failed casts are atomic. An attempt is refused by a gate exactly if the check is, with the same
error, and is answered with no exactly if there is an error. Where the script is not even started,
neither the caster nor the world has changed. Where it does not start, and no hooks have run, they
are as an interrupt leaves them, but for the number of the cast; and no object carries its tag that
did not before. An attempt that passes the gates, and whose script is loaded and can be started,
starts a cast of the skill. -/
theorem failed_casts_are_atomic (r : Registry) (lib : Library) (owner : EntityId)
    (calls : List (World × Call)) (id : SkillId) (spell : Spell) (w : World) :
    let c := run r lib { owner := owner } calls
    let attempt := c.trySpell r lib id spell w
    (∀ e, c.check id spell.target w.entities = .error e ↔ attempt.1 = .error e ∧ e.IsGate) ∧
    ((c.spell r lib id spell w).1 = false ↔ ∃ e, attempt.1 = .error e) ∧
    (c.spell r lib id spell w).2 = attempt.2 ∧
    (∀ e, attempt.1 = .error e → (∀ e', e ≠ .agent e') → attempt.2 = (c, w)) ∧
    (∀ e, attempt.1 = .error (.agent e) →
      (∀ a script, c.ability? id = some a → lib.find? a.skill.script = some script →
        script.Hookless) →
      attempt.2 = ({ (c.interrupt w).2.1 with casts := c.casts + 1 }, (c.interrupt w).2.2) ∧
        (lib.Keeps (Unowned (.forCast c.owner (c.casts + 1))) →
          w.entities.Unowned (.forCast c.owner (c.casts + 1)) →
          attempt.2.2.entities.Unowned (.forCast c.owner (c.casts + 1)))) ∧
    (∀ a script, c.check id spell.target w.entities = .ok () → c.ability? id = some a →
      lib.find? a.skill.script = some script → script.Starts r →
      attempt.1 = .ok () ∧ attempt.2.1.activeSkill? = some id) := by
  intro c attempt
  have sound : c.Sound lib := sound_run r lib owner calls
  have refused := check_eq_error_iff r lib c id spell w
  have answered : c.spell r lib id spell w = (attempt.1.isOk, attempt.2) := spell_eq ..
  rw [answered]
  refine ⟨refused, ?answer, rfl, ?early, ?late, ?success⟩
  case answer =>
    cases attempt.1 with
    | error e => exact ⟨fun _ => ⟨e, rfl⟩, fun _ => rfl⟩
    | ok _ =>
      constructor
      · intro refused
        cases refused
      · rintro ⟨e, failed⟩
        cases failed
  case early =>
    intro e failed early
    exact unchanged_of_error failed early
  case late =>
    intro e failed hookless
    have left : attempt.2 = _ := sound.endCast_of_error failed hookless
    rw [interrupt_eq, left]
    exact ⟨rfl, fun kept => sound.endCast_keeps_of_hosted kept fun _ _ hosted => hosted.unowned⟩
  case success =>
    intro a script passed known loaded starts
    exact sound.trySpell_ok passed known loaded starts

def brokenScript : Script :=
  ⟨"broken", Build.fsm "gone" [{ id := "idle" }]⟩

def flaw : Skill :=
  { id := ⟨2⟩, name := "flaw", script := "broken" }

def flawLibrary : Library :=
  Table.ofList [("idle", idleScript), ("broken", brokenScript)]

theorem flawLibrary_hookless (name : String) (script : Script)
    (loaded : flawLibrary.find? name = some script) : script.Hookless := by
  have both : flawLibrary.find? name =
      if name = "broken" then some brokenScript
      else if name = "idle" then some idleScript else none := by
    have first := Table.find?_insert (Table.empty : Library) "idle" name idleScript
    have second := Table.find?_insert (Table.empty.insert "idle" idleScript : Library) "broken"
      name brokenScript
    rw [first] at second
    exact second
  rw [both] at loaded
  split at loaded
  · cases loaded
    nofun
  · split at loaded
    · cases loaded
      nofun
    · cases loaded

def flawCalls : List (World × Call) :=
  (stanceWorld, .learn flaw) :: stanceCalls

def flawCaster : Caster :=
  run idleRegistry flawLibrary { owner := ⟨1⟩ } flawCalls

theorem failed_casts_are_atomic_of_flaw :
    let attempt := flawCaster.trySpell idleRegistry flawLibrary ⟨2⟩ {} lockedWorld
    flawCaster.activeSkill? = some ⟨1⟩ ∧
      attempt.1 = .error (.agent (.rootCreation "broken" brokenScript.root.typeName)) ∧
      attempt.2 = ({ (flawCaster.interrupt lockedWorld).2.1 with casts := flawCaster.casts + 1 },
        (flawCaster.interrupt lockedWorld).2.2) ∧
      attempt.2.1.activeSkill? = none := by
  have active : flawCaster.activeSkill? = some ⟨1⟩ := by decide +kernel
  have failed : (flawCaster.trySpell idleRegistry flawLibrary ⟨2⟩ {} lockedWorld).1 =
      .error (.agent (.rootCreation "broken" brokenScript.root.typeName)) := by decide +kernel
  have idle : (flawCaster.trySpell idleRegistry flawLibrary ⟨2⟩ {} lockedWorld).2.1.activeSkill? =
      none := by decide +kernel
  have atomic := failed_casts_are_atomic idleRegistry flawLibrary ⟨1⟩ flawCalls ⟨2⟩ {} lockedWorld
  obtain ⟨-, -, -, -, late, -⟩ := atomic
  have left := (late _ failed fun _ script _ loaded => flawLibrary_hookless _ script loaded).1
  exact ⟨active, failed, left, idle⟩

end Caster

end SkillScript
