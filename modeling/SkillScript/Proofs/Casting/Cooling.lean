import SkillScript.Proofs.Casting.Cleanup
import SkillScript.Proofs.Number.Sign
/-!
# Casts of skills on cooldown

A skill on cooldown cannot be cast, and time never makes a cooldown start. But a cast
that replaces one of the same skill is let in before the running cast ends, and that
end enters the cooldown. So a cast runs on cooldown only if it replaced one of its
own skill.
-/
set_option autoImplicit false
namespace SkillScript

namespace Cooldown

variable {cd : Cooldown}

/-- Time does not start a cooldown. -/
theorem cooling_of_tick {step : Float32} (cooling : (cd.tick step).isCooling = true) :
    cd.isCooling = true := by
  rw [isCooling, decide_eq_true_iff] at cooling ⊢
  by_contra ready
  have spent : ¬ 0 < cd.remaining - Number.atLeastZero step :=
    Number.not_zero_lt_sub ready (Number.not_atLeastZero_lt step)
  exact Number.not_zero_lt_atLeastZero spent cooling

theorem isCooling_start (cd : Cooldown) : cd.start.isCooling = decide (0 < cd.duration) :=
  rfl

end Cooldown

namespace Ability

theorem ready_ofSkill (skill : Skill) : (ofSkill skill).cooldown.isCooling = false := by
  have zero : ¬ (0 : Float32) < 0 := by decide
  exact decide_eq_false zero

/-- What the gates without a target have let in is not on cooldown, and no cast runs that must not
be interrupted. -/
theorem open_of_check {a : Ability} {owner : EntityId} {es : Entities} {busy : Bool}
    (passed : a.check owner es busy = .ok ()) : a.cooldown.isCooling = false ∧ busy = false := by
  rw [check] at passed
  split at passed
  · cases passed
  · rename_i ready
    refine ⟨by simpa using ready, ?_⟩
    cases busy with
    | false => rfl
    | true =>
      split at passed
      · cases passed
      · split at passed
        · cases passed
        · split at passed <;> cases passed

end Ability

namespace Caster

def Cools (c : Caster) (id : SkillId) : Prop :=
  ∃ a, c.ability? id = some a ∧ a.cooldown.isCooling = true

variable {r : Registry} {lib : Library} {c : Caster} {p : Cast} {id : SkillId} {spell : Spell}
  {w : World}

/-! ## The gates -/

theorem gates_of_check {target : Option EntityId} {es : Entities}
    (passed : c.check id target es = .ok ()) :
    ∃ a, c.ability? id = some a ∧ a.check c.owner es (c.isBusy es) = .ok () := by
  obtain ⟨a, known⟩ := ability_of_check passed
  refine ⟨a, known, ?_⟩
  simp only [check, known] at passed
  cases gates : a.check c.owner es (c.isBusy es) with
  | ok _ => rfl
  | error e =>
    rw [gates] at passed
    cases passed

theorem not_cools_of_check {target : Option EntityId} {es : Entities}
    (passed : c.check id target es = .ok ()) : ¬ c.Cools id := by
  rintro ⟨a, known, cooling⟩
  obtain ⟨a', known', gates⟩ := gates_of_check passed
  rw [known] at known'
  cases known'
  rw [(Ability.open_of_check gates).1] at cooling
  cases cooling

/-- A cast that another one may replace can be interrupted. -/
theorem Sound.interruptible_of_check (sound : c.Sound lib) (running : c.current = some p)
    {target : Option EntityId} {es : Entities} (passed : c.check id target es = .ok ()) :
    p.skill.interruptible = true := by
  obtain ⟨a, -, gates⟩ := gates_of_check passed
  have idle := (Ability.open_of_check gates).2
  have unfinished := (sound.carries p running).unfinished
  cases interruptible : p.skill.interruptible with
  | true => rfl
  | false =>
    have busy : c.isBusy es = true := by
      simp [isBusy, running, interruptible, Cast.isFinished, unfinished]
    rw [busy] at idle
    cases idle

/-! ## While a cast goes on -/

/-- A call that does not end a cast puts no skill on cooldown. -/
theorem Call.cooling_of_abilities {a : Call} {t : Table SkillId Ability} {ability : Ability}
    (found : (a.abilities t).find? id = some ability)
    (cooling : ability.cooldown.isCooling = true) :
    ∃ ability', t.find? id = some ability' ∧ ability'.cooldown.isCooling = true := by
  cases a with
  | learn skill =>
    have found : (t.insert skill.id (.ofSkill skill)).find? id = some ability := found
    rw [Table.find?_insert] at found
    by_cases here : id = skill.id
    · rw [if_pos here] at found
      cases found
      rw [Ability.ready_ofSkill] at cooling
      cases cooling
    · rw [if_neg here] at found
      exact ⟨ability, found, cooling⟩
  | update step =>
    have found : (t.map fun a => { a with cooldown := a.cooldown.tick step }).find? id =
        some ability := found
    rw [Table.find?_map, Option.map_eq_some_iff] at found
    obtain ⟨ability', before, rfl⟩ := found
    exact ⟨ability', before, Cooldown.cooling_of_tick cooling⟩
  | trySpell id spell => exact ⟨ability, found, cooling⟩
  | trigger tag payload => exact ⟨ability, found, cooling⟩
  | lateUpdate => exact ⟨ability, found, cooling⟩
  | interrupt => exact ⟨ability, found, cooling⟩

/-- While a cast runs, no skill comes to be on cooldown. -/
theorem Sound.cools_of_run (sound : c.Sound lib) {tag : CastTag} {calls : List (World × Call)}
    (lasts : Lasts r lib tag c calls) (cools : (c.run r lib calls).Cools id) : c.Cools id := by
  by_contra ready
  refine sound.keeps_run (P := fun c' => ¬ c'.Cools id) lasts ?_ ready cools
  intro c' p w a _ _ _ ready
  rintro ⟨ability, found, cooling⟩
  exact ready (Call.cooling_of_abilities found cooling)

/-! ## When a cast starts -/

/-- The running cast is one of the skill, and its end takes some time to cool down. -/
def Recasts (c : Caster) (id : SkillId) : Prop :=
  c.activeSkill? = some id ∧ ∃ a, c.ability? id = some a ∧ 0 < a.cooldown.duration

theorem Sound.cools_endCast_iff (sound : c.Sound lib) (ready : ¬ c.Cools id) (w : World) :
    (c.endCast w).1.Cools id ↔ c.Recasts id := by
  cases running : c.current with
  | none =>
    rw [endCast_idle running]
    constructor
    · intro cools
      exact absurd cools ready
    · rintro ⟨active, -⟩
      rw [activeSkill?, running] at active
      cases active
  | some p =>
    obtain ⟨a, known, ending⟩ := sound.endCast_eq running w
    have after (i : SkillId) : (c.endCast w).1.ability? i =
        if i = p.skill.id then some { a with cooldown := a.cooldown.start } else c.ability? i := by
      rw [ending]
      exact Table.find?_insert ..
    have active : c.activeSkill? = some p.skill.id := by rw [activeSkill?, running, Option.map_some]
    rw [Cools, Recasts, after, active]
    by_cases here : id = p.skill.id
    · rw [if_pos here, here]
      constructor
      · rintro ⟨a', same, cooling⟩
        cases same
        rw [Cooldown.isCooling_start, decide_eq_true_iff] at cooling
        exact ⟨rfl, a, known, cooling⟩
      · rintro ⟨-, a', known', lasting⟩
        rw [known] at known'
        cases known'
        refine ⟨_, rfl, ?_⟩
        rw [Cooldown.isCooling_start, decide_eq_true_iff]
        exact lasting
    · rw [if_neg here]
      constructor
      · intro cools
        exact absurd cools ready
      · rintro ⟨same, -⟩
        exact absurd (Option.some.inj same).symm here

/-- Only the end of the cast that it replaces changes the cooldowns when a cast starts. -/
theorem cools_started (started : (c.trySpell r lib id spell w).1 = .ok ()) (i : SkillId) :
    (c.trySpell r lib id spell w).2.1.Cools i ↔ (c.endCast w).1.Cools i := by
  obtain ⟨a, script, p, w', -, -, -, -, result⟩ := trySpell_started started
  rw [result]
  exact Iff.rfl

theorem check_of_started (started : (c.trySpell r lib id spell w).1 = .ok ()) :
    c.check id spell.target w.entities = .ok () := by
  obtain ⟨a, script, p, w', passed, -⟩ := trySpell_started started
  exact passed

/-- A cast that has started is one of the skill that was asked for. -/
theorem Sound.activeSkill?_started (sound : c.Sound lib)
    (started : (c.trySpell r lib id spell w).1 = .ok ()) :
    (c.trySpell r lib id spell w).2.1.activeSkill? = some id := by
  obtain ⟨a, script, p, w', -, known, -, made, result⟩ := trySpell_started started
  obtain ⟨agent, w₁, -, rfl, -⟩ := Cast.start_ok made
  rw [result]
  exact congrArg some (sound.named id a known)

/-- Right after its start, a cast is one of a skill on cooldown exactly if it replaced one of the
same skill whose cooldown takes some time. -/
theorem Sound.cools_started_iff (sound : c.Sound lib)
    (started : (c.trySpell r lib id spell w).1 = .ok ()) :
    (c.trySpell r lib id spell w).2.1.Cools id ↔ c.Recasts id := by
  rw [cools_started started]
  exact sound.cools_endCast_iff (not_cools_of_check (check_of_started started)) w

/-- A cast runs on cooldown only if it was started in place of an interruptible cast of its own
skill: whatever the history, the call that started it found such a cast running. Right after any
start, the skill is on cooldown exactly if that is so and its cooldown takes some time. -/
theorem casts_on_cooldown_were_recast (r : Registry) (lib : Library) (owner : EntityId)
    (calls : List (World × Call)) :
    let c := run r lib { owner := owner } calls
    (∀ id, c.activeSkill? = some id → c.Cools id →
      ∃ p, c.current = some p ∧ ∃ o : Origin, o.calls = calls ∧ o.id = id ∧
        o.Of r lib owner p.tag ∧ (o.before r lib owner).Recasts id ∧
        ∃ q, (o.before r lib owner).current = some q ∧ q.skill.interruptible = true) ∧
    ∀ id spell w, (c.trySpell r lib id spell w).1 = .ok () →
      (c.trySpell r lib id spell w).2.1.activeSkill? = some id ∧
        ((c.trySpell r lib id spell w).2.1.Cools id ↔ c.Recasts id) := by
  intro c
  constructor
  · intro id active cools
    obtain ⟨p, running, -⟩ := Option.map_eq_some_iff.mp active
    obtain ⟨o, history, started, lasts⟩ := origin r lib owner calls running
    have before := sound_run r lib owner o.earlier
    have after : (o.start r lib owner).2.1.Sound lib := before.trySpell o.id o.spell o.world
    have passed := check_of_started started
    have first := before.activeSkill?_started started
    have same : c = (o.start r lib owner).2.1.run r lib o.later := by
      rw [← o.run_calls, history]
    rw [same, after.activeSkill?_run lasts] at active
    -- The cast is still one of the skill that was asked for when it started.
    have asked : o.id = id := Option.some.inj (first.symm.trans active)
    subst asked
    rw [same] at cools
    have recasts : (o.before r lib owner).Recasts o.id :=
      (before.cools_started_iff started).mp (after.cools_of_run lasts cools)
    obtain ⟨q, replaced, -⟩ := Option.map_eq_some_iff.mp recasts.1
    exact ⟨p, running, o, history, rfl, ⟨started, lasts⟩, recasts, q, replaced,
      before.interruptible_of_check replaced passed⟩
  · intro id spell w started
    have sound := sound_run r lib owner calls
    exact ⟨sound.activeSkill?_started started, sound.cools_started_iff started⟩

def recastCalls : List (World × Call) :=
  stanceCalls ++ [(stanceWorld, .trySpell ⟨1⟩ {})]

def recastCaster : Caster :=
  run idleRegistry stanceLibrary { owner := ⟨1⟩ } recastCalls

theorem recastCaster_ability : recastCaster.ability? ⟨1⟩ = some ⟨stance, ⟨2, 2⟩⟩ := by
  decide +kernel

theorem recast_runs_on_cooldown :
    ((run idleRegistry stanceLibrary { owner := ⟨1⟩ } stanceCalls).trySpell idleRegistry
        stanceLibrary ⟨1⟩ {} stanceWorld).1 = .ok () ∧
      recastCaster.activeSkill? = some ⟨1⟩ ∧ recastCaster.Cools ⟨1⟩ := by
  refine ⟨?started, ?active, ⟨stance, ⟨2, 2⟩⟩, recastCaster_ability, ?cooling⟩
  case started => decide +kernel
  case active => decide +kernel
  case cooling => decide

theorem casts_on_cooldown_were_recast_of_stance :
    (∃ o : Origin, o.calls = recastCalls ∧ o.id = ⟨1⟩ ∧
        (o.before idleRegistry stanceLibrary ⟨1⟩).Recasts ⟨1⟩) ∧
      let learned := run idleRegistry stanceLibrary { owner := ⟨1⟩ } [(stanceWorld, .learn stance)]
      let first := learned.trySpell idleRegistry stanceLibrary ⟨1⟩ {} stanceWorld
      first.2.1.activeSkill? = some ⟨1⟩ ∧ ¬ first.2.1.Cools ⟨1⟩ := by
  have active : recastCaster.activeSkill? = some ⟨1⟩ := by decide +kernel
  have cools : recastCaster.Cools ⟨1⟩ := ⟨_, recastCaster_ability, by decide⟩
  obtain ⟨p, -, o, history, asked, -, recasts, -⟩ :=
    (casts_on_cooldown_were_recast idleRegistry stanceLibrary ⟨1⟩ recastCalls).1 ⟨1⟩ active cools
  have started : ((run idleRegistry stanceLibrary { owner := ⟨1⟩ }
      [(stanceWorld, .learn stance)]).trySpell idleRegistry stanceLibrary ⟨1⟩ {} stanceWorld).1 =
      .ok () := by decide +kernel
  have first := (casts_on_cooldown_were_recast idleRegistry stanceLibrary ⟨1⟩
    [(stanceWorld, .learn stance)]).2 ⟨1⟩ {} stanceWorld started
  refine ⟨⟨o, history, asked, recasts⟩, first.1, ?_⟩
  rw [first.2]
  rintro ⟨running, -⟩
  cases running

end Caster

end SkillScript
