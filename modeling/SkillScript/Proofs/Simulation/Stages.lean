import SkillScript.Proofs.Casting.Attempts
import SkillScript.Proofs.Casting.Countdown
import SkillScript.Simulation.Run
/-!
# What holds on stage

On the stage of a simulation a skill is cast only while no cast runs, and the skill is
then not on cooldown. So a cast that runs has no cooldown behind it. While no cast
runs and none has been started, time changes nothing: neither the world nor the
answers of the gates.
-/
set_option autoImplicit false
namespace SkillScript

namespace Caster

variable {r : Registry} {lib : Library} {c : Caster} {id : SkillId} {spell : Spell} {w : World}

theorem ability?_update (c : Caster) (step : Float32) (w : World) (id : SkillId) :
    (c.update step w).1.ability? id =
      (c.ability? id).map fun a => { a with cooldown := a.cooldown.tick step } := by
  unfold update
  cases c.current with
  | none => exact Table.find?_map ..
  | some p => exact Table.find?_map ..

theorem isCasting_update (c : Caster) (step : Float32) (w : World) :
    (c.update step w).1.isCasting = c.isCasting := by
  unfold update isCasting
  cases running : c.current with
  | none => rfl
  | some p => rfl

/-- A late update ends the running cast or does nothing. -/
theorem Sound.lateUpdate_cases (sound : c.Sound lib) (w : World) :
    c.lateUpdate w = (c, w) ∨ c.lateUpdate w = c.endCast w := by
  cases running : c.current with
  | none => exact Or.inl (by simp only [Caster.lateUpdate, running])
  | some p =>
    rw [lateUpdate_eq running (sound.carries p running).unfinished]
    split
    · exact Or.inr rfl
    · exact Or.inl rfl

/-- The end of a cast keeps every skill, with a cooldown that may have started. -/
theorem Sound.ability?_endCast (sound : c.Sound lib) (w : World) {a : Ability}
    (known : c.ability? id = some a) :
    (c.endCast w).1.ability? id = some a ∨
      (c.endCast w).1.ability? id = some { a with cooldown := a.cooldown.start } := by
  cases running : c.current with
  | none =>
    rw [endCast_idle running]
    exact Or.inl known
  | some p =>
    obtain ⟨a', known', ending⟩ := sound.endCast_eq running w
    have after : (c.endCast w).1.ability? id =
        if id = p.skill.id then some { a' with cooldown := a'.cooldown.start }
        else c.ability? id := by
      rw [ending]
      exact Table.find?_insert ..
    rw [after]
    split
    · rename_i here
      rw [← here, known] at known'
      cases known'
      exact Or.inr rfl
    · exact Or.inl known

/-- Where no cast runs, an attempt leaves the abilities as they are. -/
theorem ability?_trySpell_of_idle (idle : c.current = none) (i : SkillId) :
    (c.trySpell r lib id spell w).2.1.ability? i = c.ability? i := by
  rcases trySpell_cases r lib c id spell w with
    ⟨e, -, result⟩ | ⟨a, -, -, -, result⟩ | ⟨a, script, -, -, -, result⟩
  · rw [result]
  · rw [result]
  · rw [result, endCast_idle idle]
    rcases launch_cases r a.skill script spell c w with
      ⟨e, w', -, launched⟩ | ⟨p, w', -, launched⟩
    · rw [launched]
      rfl
    · rw [launched]
      rfl

/-- Where no cast runs, one runs after an attempt only if the gates have let it in. -/
theorem check_of_isCasting_trySpell (idle : c.current = none)
    (casting : (c.trySpell r lib id spell w).2.1.isCasting = true) :
    c.check id spell.target w.entities = .ok () := by
  rcases trySpell_cases r lib c id spell w with
    ⟨e, -, result⟩ | ⟨a, passed, -⟩ | ⟨a, script, passed, -⟩
  · rw [result, isCasting, idle] at casting
    cases casting
  · exact passed
  · exact passed

end Caster

namespace Simulation.Stage

variable {r : Registry} {lib : Library} {setup : Setup} {skill : Skill} {s : Stage}

def attempt (r : Registry) (lib : Library) (id : SkillId) (s : Stage) :
    Except SkillError Unit × Caster × World :=
  s.caster.trySpell r lib id { target := some targetId } s.world

/-- The world and the caster after a cast are those that the attempt has left. -/
theorem cast_eq (r : Registry) (lib : Library) (id : SkillId) (s : Stage) :
    s.cast r lib id =
      { caster := (s.attempt r lib id).2.1
        world := (s.attempt r lib id).2.2
        casts := if (s.attempt r lib id).1.isOk then s.casts + 1 else s.casts
        rejected := if (s.attempt r lib id).1.isOk then s.rejected else s.rejected + 1 } := by
  show (if (s.attempt r lib id).1.isOk then _ else _) = _
  split <;> rfl

theorem tick_eq (r : Registry) (lib : Library) (setup : Setup) (id : SkillId) (s : Stage) :
    s.tick r lib setup id =
      if setup.again && (s.pass setup.step).isReady id then (s.pass setup.step).cast r lib id
      else s.pass setup.step :=
  rfl

theorem isReady_iff (id : SkillId) (s : Stage) :
    s.isReady id = true ↔ s.caster.current = none ∧
      s.caster.check id (some targetId) s.world.entities = .ok () := by
  rw [isReady, Bool.and_eq_true, Bool.not_eq_true', Caster.isCasting, Option.isSome_eq_false_iff,
    Option.isNone_iff_eq_none]
  cases s.caster.check id (some targetId) s.world.entities <;> simp [Except.isOk, Except.toBool]

/-! ## Casts and their cooldowns -/

/-- What holds of a stage at any time: the caster knows the skill, and if a cast runs, the skill is
not on cooldown. -/
structure Settled (lib : Library) (skill : Skill) (s : Stage) : Prop where
  sound : s.caster.Sound lib
  knows : ∃ a, s.caster.ability? skill.id = some a ∧ a.skill = skill ∧ a.cooldown.Proper
  fresh : s.caster.isCasting = true → ¬ s.caster.Cools skill.id

theorem Settled.pass (settled : s.Settled lib skill) (step : Float32) :
    (s.pass step).Settled lib skill := by
  obtain ⟨a, known, same, proper⟩ := settled.knows
  have sound := settled.sound.update step s.world
  have later : (s.caster.update step s.world).1.ability? skill.id =
      some { a with cooldown := a.cooldown.tick step } := by
    rw [Caster.ability?_update, known, Option.map_some]
  have fresh : (s.caster.update step s.world).1.isCasting = true →
      ¬ (s.caster.update step s.world).1.Cools skill.id := by
    rw [Caster.isCasting_update]
    rintro casting ⟨a', known', cooling⟩
    rw [later] at known'
    cases known'
    exact settled.fresh casting ⟨a, known, Cooldown.cooling_of_tick cooling⟩
  have result : (s.pass step).caster =
      ((s.caster.update step s.world).1.lateUpdate (s.caster.update step s.world).2).1 := rfl
  rcases sound.lateUpdate_cases (s.caster.update step s.world).2 with goesOn | ends
  · rw [goesOn] at result
    refine ⟨result ▸ sound, ?_, result ▸ fresh⟩
    rw [result]
    exact ⟨_, later, same, proper.tick step⟩
  · rw [ends] at result
    have ended := sound.endCast_ended (s.caster.update step s.world).2
    refine ⟨result ▸ ended.sound sound, ?_, ?_⟩
    · rw [result]
      rcases sound.ability?_endCast (s.caster.update step s.world).2 later with kept | started
      · exact ⟨_, kept, same, proper.tick step⟩
      · exact ⟨_, started, same, (proper.tick step).start⟩
    · intro casting
      rw [result, Caster.isCasting, ended.idle] at casting
      cases casting

theorem Settled.cast (settled : s.Settled lib skill) (idle : s.caster.current = none) :
    (s.cast r lib skill.id).Settled lib skill := by
  have result : (s.cast r lib skill.id).caster = (s.attempt r lib skill.id).2.1 := by
    rw [cast_eq]
  have abilities (i : SkillId) :
      (s.cast r lib skill.id).caster.ability? i = s.caster.ability? i := by
    rw [result]
    exact Caster.ability?_trySpell_of_idle idle i
  refine ⟨?_, ?_, ?_⟩
  · rw [result]
    exact settled.sound.trySpell skill.id _ s.world
  · rw [abilities]
    exact settled.knows
  · intro casting
    rw [result] at casting
    rw [Caster.Cools, abilities]
    exact Caster.not_cools_of_check (Caster.check_of_isCasting_trySpell idle casting)

theorem Settled.tick (settled : s.Settled lib skill) (setup : Setup) :
    (s.tick r lib setup skill.id).Settled lib skill := by
  have passed := settled.pass setup.step
  rw [tick_eq]
  split
  · rename_i casts
    rw [Bool.and_eq_true] at casts
    exact passed.cast ((isReady_iff skill.id _).mp casts.2).1
  · exact passed

theorem Settled.ticks (settled : s.Settled lib skill) (setup : Setup) (n : Nat) :
    (s.ticks r lib setup skill.id n).Settled lib skill := by
  induction n generalizing s with
  | zero => exact settled
  | succ n ih => exact ih (settled.tick setup)

/-- While a cast runs there is no cooldown left. -/
theorem Settled.remaining (settled : s.Settled lib skill) (casting : s.caster.isCasting = true) :
    ∃ a, s.caster.ability? skill.id = some a ∧ (a.cooldown.remaining == 0) = true := by
  obtain ⟨a, known, -, proper⟩ := settled.knows
  refine ⟨a, known, proper.beq_zero ?_⟩
  cases cooling : a.cooldown.isCooling with
  | false => rfl
  | true => exact absurd ⟨a, known, cooling⟩ (settled.fresh casting)

end Simulation.Stage

end SkillScript
