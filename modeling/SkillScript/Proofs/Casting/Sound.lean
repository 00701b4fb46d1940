import SkillScript.Proofs.Casting.Agents
import SkillScript.Proofs.Casting.Calls
import SkillScript.Proofs.World.Entities
/-!
# What holds of a caster between calls

An ability is filed under the id of its skill. A cast that runs is one of a known
skill; it has neither been marked finished nor been disposed of, its agent has a
tree whose nodes are all that it has on account, and it runs under the tag of the
cast, which names the caster and the number of the cast. A cast has never taken the
flag of being stunned. All this holds of a new caster and is kept by every call,
whatever the world is like when it comes.
-/
set_option autoImplicit false
namespace SkillScript

open Census (Grows)

namespace Caster

structure Carries (lib : Library) (c : Caster) (p : Cast) : Prop where
  known : ∃ a, c.ability? p.skill.id = some a
  tag : p.tag = .forCast c.owner c.casts
  owner : p.owner = c.owner
  branded : p.agent.tag = p.tag
  steady : p.suppressed.stunned = false
  unfinished : p.finished = false
  undisposed : p.disposed = false
  tree : ∃ t, p.agent.tree = some t
  account : Grows {} p.agent.toCensus p.agent.labels
  hooks : ∃ name script, lib.find? name = some script ∧ p.agent.hooks ⊆ script.root.hooks

structure Sound (lib : Library) (c : Caster) : Prop where
  named : ∀ id a, c.ability? id = some a → a.skill.id = id
  carries : ∀ p, c.current = some p → c.Carries lib p

variable {r : Registry} {lib : Library} {c c' : Caster} {p : Cast}

theorem sound_new (lib : Library) (owner : EntityId) : Sound lib { owner := owner } where
  named := by
    intro id a known
    cases known
  carries := by
    intro p running
    cases running

/-! ## Running casts -/

/-- A cast goes on in a caster that knows the same skills. -/
theorem Carries.move (carries : c.Carries lib p) (owner : c'.owner = c.owner)
    (casts : c'.casts = c.casts)
    (known : ∀ id a, c.ability? id = some a → ∃ a', c'.ability? id = some a') :
    c'.Carries lib p where
  known := by
    obtain ⟨a, found⟩ := carries.known
    exact known _ a found
  tag := by rw [carries.tag, owner, casts]
  owner := carries.owner.trans owner.symm
  branded := carries.branded
  steady := carries.steady
  unfinished := carries.unfinished
  undisposed := carries.undisposed
  tree := carries.tree
  account := carries.account
  hooks := carries.hooks

/-- A cast goes on when its agent is triggered or updated. -/
theorem Carries.agent (carries : c.Carries lib p) (w : World) {call : Agent.Call}
    (lives : call ≠ .dispose) :
    c.Carries lib { p with agent := (p.agent.call w call).1 } := by
  obtain ⟨t, tree⟩ := carries.tree
  obtain ⟨name, script, loaded, hooks⟩ := carries.hooks
  have same : (p.agent.call w call).1.owner = p.agent.owner ∧
      (p.agent.call w call).1.tag = p.agent.tag := by
    cases call <;> simp [Agent.call, Agent.trigger, Agent.update, Agent.dispose, tree,
      Agent.settle]
  refine ⟨carries.known, carries.tag, same.1.trans carries.owner, same.2.trans carries.branded,
    carries.steady, carries.unfinished, carries.undisposed, ?tree,
    Agent.call_grows w carries.account call,
    ⟨name, script, loaded, List.Subset.trans (Agent.hooks_call w p.agent call) hooks⟩⟩
  case tree =>
    cases call with
    | trigger tag payload =>
      simp only [Agent.call, Agent.trigger, tree]
      exact ⟨_, rfl⟩
    | update step =>
      simp only [Agent.call, Agent.update, tree]
      exact ⟨_, rfl⟩
    | dispose => exact absurd rfl lives

/-- A cast that was started runs. -/
theorem carries_started {skill : Skill} {script : Script} {spell : Spell} {w w' : World}
    {name : String} (loaded : lib.find? name = some script)
    (known : ∃ a, c.ability? skill.id = some a)
    (started : Cast.start r skill script c.owner c.casts spell w = (.ok p, w')) :
    c.Carries lib p := by
  obtain ⟨agent, w₁, made, rfl, -⟩ := Cast.start_ok started
  obtain ⟨owner, branded, tree⟩ := Agent.init_planted made
  have account := Agent.init_grows made
  have hooks := Agent.hooks_init made
  let fresh : Cast :=
    { skill := skill, tag := .forCast c.owner c.casts, agent := agent
      suppressed := (w₁.entities.flags c.owner).inter skill.locks }
  have steady : fresh.suppressed.stunned = false := Bool.and_false _
  have carries : c.Carries lib fresh :=
    ⟨known, rfl, owner, branded, steady, rfl, rfl, tree, account, ⟨name, script, loaded, hooks⟩⟩
  have released : Agent.Call.trigger releaseTrigger spell.payload ≠ .dispose := by simp
  exact carries.agent w released

/-! ## Ends and beginnings -/

theorem Sound.endCast_eq (sound : c.Sound lib) (running : c.current = some p) (w : World) :
    ∃ a, c.ability? p.skill.id = some a ∧
      c.endCast w =
        ({ c with
            abilities := c.abilities.insert p.skill.id { a with cooldown := a.cooldown.start }
            current := none },
          (p.release w).2) := by
  have carries := sound.carries p running
  obtain ⟨a, known⟩ := carries.known
  exact ⟨a, known, Caster.endCast_eq running carries.undisposed known w⟩

/-- An end of a cast changes nothing of a caster but the cast and the cooldown of its skill. -/
structure Ended (c c' : Caster) : Prop where
  owner : c'.owner = c.owner
  casts : c'.casts = c.casts
  idle : c'.current = none
  skills : ∀ id, (c'.ability? id).map (·.skill) = (c.ability? id).map (·.skill)

theorem Sound.endCast_ended (sound : c.Sound lib) (w : World) : Ended c (c.endCast w).1 := by
  cases running : c.current with
  | none =>
    rw [endCast_idle running]
    exact ⟨rfl, rfl, running, fun _ => rfl⟩
  | some p =>
    obtain ⟨a, known, ending⟩ := sound.endCast_eq running w
    rw [ending]
    refine ⟨rfl, rfl, rfl, ?_⟩
    intro id
    show (Option.map _ (Table.find? _ id)) = _
    rw [Table.find?_insert]
    by_cases here : id = p.skill.id
    · rw [if_pos here, here, known]
      rfl
    · rw [if_neg here]
      rfl

theorem Ended.known (ended : Ended c c') {id : SkillId} {a : Ability}
    (known : c.ability? id = some a) :
    ∃ a', c'.ability? id = some a' ∧ a'.skill = a.skill := by
  have same := ended.skills id
  rw [known, Option.map_some, Option.map_eq_some_iff] at same
  exact same

theorem Ended.sound (ended : Ended c c') (sound : c.Sound lib) : c'.Sound lib where
  named := by
    intro id a' found
    have same := ended.skills id
    rw [found, Option.map_some, eq_comm, Option.map_eq_some_iff] at same
    obtain ⟨a, known, skill⟩ := same
    rw [← skill]
    exact sound.named id a known
  carries := by
    intro p running
    rw [ended.idle] at running
    cases running

theorem Sound.launch {skill : Skill} {script : Script} {spell : Spell} {name : String}
    (sound : c.Sound lib) (idle : c.current = none) (known : ∃ a, c.ability? skill.id = some a)
    (loaded : lib.find? name = some script) (w : World) :
    (c.launch r skill script spell w).2.1.Sound lib := by
  rcases launch_cases r skill script spell c w with
    ⟨e, w', -, launched⟩ | ⟨p, w', started, launched⟩
  · rw [launched]
    refine ⟨sound.named, ?_⟩
    intro p running
    have running : c.current = some p := running
    rw [idle] at running
    cases running
  · rw [launched]
    refine ⟨sound.named, ?_⟩
    intro q running
    cases running
    exact carries_started (c := { c with casts := c.casts + 1, current := some p }) loaded known
      started

/-! ## Calls -/

theorem Sound.learn (sound : c.Sound lib) (skill : Skill) : (c.learn skill).Sound lib where
  named := by
    intro id a known
    have known : (c.abilities.insert skill.id (.ofSkill skill)).find? id = some a := known
    rw [Table.find?_insert] at known
    by_cases here : id = skill.id
    · rw [if_pos here] at known
      cases known
      exact here.symm
    · rw [if_neg here] at known
      exact sound.named id a known
  carries := by
    intro p running
    refine (sound.carries p running).move rfl rfl ?_
    intro id a known
    show ∃ a', (c.abilities.insert skill.id (.ofSkill skill)).find? id = some a'
    rw [Table.find?_insert]
    by_cases here : id = skill.id
    · rw [if_pos here]
      exact ⟨_, rfl⟩
    · rw [if_neg here]
      exact ⟨a, known⟩

theorem Sound.trySpell (sound : c.Sound lib) (id : SkillId) (spell : Spell) (w : World) :
    (c.trySpell r lib id spell w).2.1.Sound lib := by
  rcases trySpell_cases r lib c id spell w with
    ⟨e, -, same⟩ | ⟨a, -, -, -, same⟩ | ⟨a, script, -, known, loaded, launched⟩
  · rw [same]
    exact sound
  · rw [same]
    exact sound
  · rw [launched]
    have ended := sound.endCast_ended w
    obtain ⟨a', known', -⟩ := ended.known known
    have name := sound.named id a known
    exact (ended.sound sound).launch ended.idle ⟨a', by rw [name]; exact known'⟩ loaded _

theorem Sound.trigger (sound : c.Sound lib) (tag : String) (payload : Vars) :
    (c.trigger tag payload).Sound lib where
  named := sound.named
  carries := by
    intro p running
    obtain ⟨q, before, rfl⟩ := Option.map_eq_some_iff.mp running
    have carries := sound.carries q before
    have lives : Agent.Call.trigger tag payload ≠ .dispose := by simp
    rw [Cast.trigger_eq carries.undisposed]
    refine (carries.agent default lives).move rfl rfl ?_
    intro id a known
    exact ⟨a, known⟩

theorem Sound.update (sound : c.Sound lib) (step : Float32) (w : World) :
    (c.update step w).1.Sound lib := by
  have named : ∀ id a, (c.abilities.map fun a => { a with cooldown := a.cooldown.tick step }).find?
      id = some a → a.skill.id = id := by
    intro id a known
    rw [Table.find?_map, Option.map_eq_some_iff] at known
    obtain ⟨a, before, rfl⟩ := known
    exact sound.named id a before
  cases running : c.current with
  | none =>
    simp only [Caster.update, running]
    refine ⟨named, ?_⟩
    intro p running'
    cases running'
  | some p =>
    have carries := sound.carries p running
    have lives : Agent.Call.update step ≠ .dispose := by simp
    rw [update_eq running carries.unfinished]
    refine ⟨named, ?_⟩
    intro q running'
    cases running'
    refine (carries.agent w lives).move rfl rfl ?_
    intro id a known
    refine ⟨{ a with cooldown := a.cooldown.tick step }, ?_⟩
    show (c.abilities.map _).find? id = _
    rw [Table.find?_map]
    have known : c.abilities.find? id = some a := known
    rw [known]
    rfl

theorem Sound.endCast (sound : c.Sound lib) (w : World) : (c.endCast w).1.Sound lib :=
  (sound.endCast_ended w).sound sound

theorem Sound.lateUpdate (sound : c.Sound lib) (w : World) : (c.lateUpdate w).1.Sound lib := by
  cases running : c.current with
  | none =>
    simp only [Caster.lateUpdate, running]
    exact sound
  | some p =>
    rw [lateUpdate_eq running (sound.carries p running).unfinished]
    by_cases ends : p.isOver w.entities = true
    · rw [if_pos ends]
      exact sound.endCast w
    · rw [if_neg ends]
      exact sound

theorem Sound.call (sound : c.Sound lib) (w : World) (a : Call) :
    (c.call r lib w a).1.Sound lib := by
  cases a with
  | learn skill => exact sound.learn skill
  | trySpell id spell => exact sound.trySpell id spell w
  | trigger tag payload => exact sound.trigger tag payload
  | update step => exact sound.update step w
  | lateUpdate => exact sound.lateUpdate w
  | interrupt =>
    show (c.interrupt w).2.1.Sound lib
    rw [interrupt_eq]
    exact sound.endCast w

theorem Sound.run (sound : c.Sound lib) (calls : List (World × Call)) :
    (c.run r lib calls).Sound lib := by
  induction calls generalizing c with
  | nil => exact sound
  | cons e rest ih => exact ih (sound.call e.1 e.2)

/-- A caster after any history. -/
theorem sound_run (r : Registry) (lib : Library) (owner : EntityId)
    (calls : List (World × Call)) : (run r lib { owner := owner } calls).Sound lib :=
  (sound_new lib owner).run calls

end Caster

end SkillScript
