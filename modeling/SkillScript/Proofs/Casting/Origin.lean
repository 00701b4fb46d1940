import Mathlib.Data.List.Induction
import SkillScript.Proofs.Casting.Sound
/-!
# How casts begin and end

A running cast ends in a call that interrupts it, in a late update when it is over,
and in an attempt to cast a skill that passes all gates and whose script is loaded.
Any other call lets it go on. So a cast that runs was started by one call of the
history, and it was the running cast ever since.
-/
set_option autoImplicit false
namespace SkillScript

namespace Cast

/-- The running cast after a call that does not end it. -/
def after (p : Cast) (w : World) : Caster.Call → Cast
  | .trigger tag payload => { p with agent := p.agent.trigger tag payload }
  | .update step => { p with agent := (p.agent.update step w).1 }
  | _ => p

def wake (p : Cast) (w : World) : Caster.Call → World
  | .update step => (p.agent.update step w).2
  | _ => w

@[simp]
theorem tag_after (p : Cast) (w : World) (a : Caster.Call) : (p.after w a).tag = p.tag := by
  cases a <;> rfl

@[simp]
theorem skill_after (p : Cast) (w : World) (a : Caster.Call) : (p.after w a).skill = p.skill := by
  cases a <;> rfl

@[simp]
theorem suppressed_after (p : Cast) (w : World) (a : Caster.Call) :
    (p.after w a).suppressed = p.suppressed := by
  cases a <;> rfl

end Cast

namespace Caster

def Call.abilities : Call → Table SkillId Ability → Table SkillId Ability
  | .learn skill, t => t.insert skill.id (.ofSkill skill)
  | .update step, t => t.map fun a => { a with cooldown := a.cooldown.tick step }
  | _, t => t

/-- Whether a call ends the running cast. -/
def Exits (lib : Library) (c : Caster) (p : Cast) (w : World) : Call → Prop
  | .interrupt => True
  | .lateUpdate => p.isOver w.entities = true
  | .trySpell id spell =>
    c.check id spell.target w.entities = .ok () ∧
      ∃ a, c.ability? id = some a ∧ (lib.find? a.skill.script).isSome = true
  | _ => False

variable {r : Registry} {lib : Library} {c : Caster} {p : Cast} {w : World} {a : Call}

theorem Sound.call_stays (sound : c.Sound lib) (running : c.current = some p)
    (stays : ¬ c.Exits lib p w a) :
    c.call r lib w a =
      ({ c with abilities := a.abilities c.abilities, current := some (p.after w a) },
        p.wake w a) := by
  have carries := sound.carries p running
  have same : c = { c with abilities := c.abilities, current := some p } := by rw [← running]
  cases a with
  | learn skill => exact congrArg (fun c : Caster => (c.learn skill, w)) same
  | trySpell id spell =>
    rcases trySpell_cases r lib c id spell w with
      ⟨e, -, refused⟩ | ⟨a, -, -, -, refused⟩ | ⟨a, script, gates, known, loaded, -⟩
    · simp only [Caster.call, refused]
      exact Prod.ext same rfl
    · simp only [Caster.call, refused]
      exact Prod.ext same rfl
    · exact absurd ⟨gates, a, known, by rw [loaded]; rfl⟩ stays
  | trigger tag payload =>
    simp only [Caster.call, Caster.trigger, running, Option.map_some,
      Cast.trigger_eq carries.undisposed]
    rfl
  | update step =>
    simp only [Caster.call, update_eq running carries.unfinished]
    rfl
  | lateUpdate =>
    simp only [Caster.call, lateUpdate_eq running carries.unfinished]
    have goesOn : ¬ p.isOver w.entities = true := stays
    rw [if_neg goesOn]
    exact Prod.ext same rfl
  | interrupt => exact absurd trivial stays

theorem Sound.call_goesOn (sound : c.Sound lib) (running : c.current = some p)
    (stays : ¬ c.Exits lib p w a) :
    (c.call r lib w a).1 =
      { c with abilities := a.abilities c.abilities, current := some (p.after w a) } := by
  rw [sound.call_stays running stays]

/-- A call that ends the running cast does nothing else, or launches another one then. -/
theorem Sound.call_exits (sound : c.Sound lib) (running : c.current = some p)
    (exits : c.Exits lib p w a) :
    c.call r lib w a = c.endCast w ∨
      ∃ id spell ability script, a = .trySpell id spell ∧ c.ability? id = some ability ∧
        lib.find? ability.skill.script = some script ∧
        c.trySpell r lib id spell w =
          (c.endCast w).1.launch r ability.skill script spell (c.endCast w).2 := by
  have carries := sound.carries p running
  cases a with
  | learn skill => exact absurd exits id
  | trySpell id spell =>
    obtain ⟨gates, ability, known, loaded⟩ := exits
    obtain ⟨script, loaded⟩ := Option.isSome_iff_exists.mp loaded
    have launched := trySpell_eq_launch gates known loaded (r := r)
    exact Or.inr ⟨id, spell, ability, script, rfl, known, loaded, launched⟩
  | trigger tag payload => exact absurd exits id
  | update step => exact absurd exits id
  | lateUpdate =>
    left
    simp only [Caster.call, lateUpdate_eq running carries.unfinished]
    exact if_pos exits
  | interrupt => exact Or.inl (interrupt_eq c w)

theorem launch_ok {skill : Skill} {script : Script} {spell : Spell} (idle : c.current = none)
    (running : (c.launch r skill script spell w).2.1.current = some p) :
    (c.launch r skill script spell w).1 = .ok () := by
  rcases launch_cases r skill script spell c w with
    ⟨e, w', -, launched⟩ | ⟨q, w', -, launched⟩
  · rw [launched] at running
    have running : c.current = some p := running
    rw [idle] at running
    cases running
  · rw [launched]

/-- A caster that runs no cast does nothing to the world, unless it casts a skill. -/
theorem call_idle (r : Registry) (lib : Library) (idle : c.current = none) (w : World) (a : Call) :
    (∃ id spell, a = .trySpell id spell) ∨
      c.call r lib w a = ({ c with abilities := a.abilities c.abilities }, w) := by
  have same : c = { c with abilities := c.abilities, current := none } := by rw [← idle]
  cases a with
  | trySpell id spell => exact Or.inl ⟨id, spell, rfl⟩
  | learn skill => exact Or.inr rfl
  | trigger tag payload =>
    right
    simp only [Caster.call, Caster.trigger, idle, Option.map_none]
    rfl
  | update step =>
    right
    simp only [Caster.call, Caster.update, idle]
    rfl
  | lateUpdate =>
    right
    simp only [Caster.call, Caster.lateUpdate, idle]
    exact Prod.ext same rfl
  | interrupt =>
    right
    simp only [Caster.call, interrupt_eq, endCast_idle idle]
    rfl

/-- What a call comes to: the running cast goes on; or no cast runs and none is started; or the
running cast ends; or another cast is launched after that. -/
theorem Sound.call_cases (sound : c.Sound lib) (r : Registry) (w : World) (a : Call) :
    (∃ p, c.current = some p ∧ c.call r lib w a =
      ({ c with abilities := a.abilities c.abilities, current := some (p.after w a) },
        p.wake w a)) ∨
    (c.current = none ∧ c.call r lib w a = ({ c with abilities := a.abilities c.abilities }, w)) ∨
    c.call r lib w a = c.endCast w ∨
    ∃ skill script spell name, lib.find? name = some script ∧
      c.call r lib w a =
        ((c.endCast w).1.launch r skill script spell (c.endCast w).2).2 := by
  rcases Option.eq_none_or_eq_some c.current with idle | ⟨p, running⟩
  · right
    rcases call_idle r lib idle w a with ⟨id, spell, rfl⟩ | same
    · rcases trySpell_cases r lib c id spell w with
        ⟨e, -, refused⟩ | ⟨_, -, -, -, refused⟩ | ⟨ability, script, -, -, loaded, launched⟩
      · exact Or.inl ⟨idle, congrArg Prod.snd refused⟩
      · exact Or.inl ⟨idle, congrArg Prod.snd refused⟩
      · right; right
        exact ⟨ability.skill, script, spell, _, loaded, congrArg Prod.snd launched⟩
    · exact Or.inl ⟨idle, same⟩
  · by_cases exits : c.Exits lib p w a
    · right; right
      rcases sound.call_exits running exits (r := r) with
        ending | ⟨id, spell, ability, script, rfl, -, loaded, launched⟩
      · exact Or.inl ending
      · exact Or.inr ⟨ability.skill, script, spell, _, loaded, congrArg Prod.snd launched⟩
    · exact Or.inl ⟨p, running, sound.call_stays running exits⟩

theorem Sound.owner_call (sound : c.Sound lib) (r : Registry) (w : World) (a : Call) :
    (c.call r lib w a).1.owner = c.owner := by
  have ended := (sound.endCast_ended w).owner
  rcases sound.call_cases r w a with
    ⟨p, -, goesOn⟩ | ⟨-, same⟩ | ending | ⟨skill, script, spell, name, -, launched⟩
  · rw [goesOn]
  · rw [same]
  · rwa [ending]
  · rw [launched]
    rcases launch_cases r skill script spell (c.endCast w).1 (c.endCast w).2 with
      ⟨e, w', -, result⟩ | ⟨p, w', -, result⟩
    · rwa [result]
    · rwa [result]

/-- A cast that runs after a call went on or was started by it. -/
theorem Sound.current_call (sound : c.Sound lib)
    (running : (c.call r lib w a).1.current = some p) :
    (∃ q, c.current = some q ∧ ¬ c.Exits lib q w a ∧ p = q.after w a) ∨
      ∃ id spell, a = .trySpell id spell ∧ (c.trySpell r lib id spell w).1 = .ok () := by
  cases before : c.current with
  | some q =>
    by_cases exits : c.Exits lib q w a
    · right
      have ended := sound.endCast_ended w
      rcases sound.call_exits before exits (r := r) with
        ending | ⟨id, spell, ability, script, rfl, -, -, launched⟩
      · rw [ending, ended.idle] at running
        cases running
      · have running : (c.trySpell r lib id spell w).2.1.current = some p := running
        rw [launched] at running
        refine ⟨id, spell, rfl, ?_⟩
        rw [launched]
        exact launch_ok ended.idle running
    · left
      rw [sound.call_goesOn before exits] at running
      cases running
      exact ⟨q, rfl, exits, rfl⟩
  | none =>
    right
    rcases call_idle r lib before w a with ⟨id, spell, rfl⟩ | same
    · have running : (c.trySpell r lib id spell w).2.1.current = some p := running
      refine ⟨id, spell, rfl, ?_⟩
      rcases trySpell_cases r lib c id spell w with
        ⟨e, -, same⟩ | ⟨a, -, -, -, same⟩ | ⟨a, script, -, -, -, launched⟩
      · rw [same, before] at running
        cases running
      · rw [same, before] at running
        cases running
      · rw [launched] at running
        rw [launched]
        exact launch_ok (sound.endCast_ended w).idle running
    · rw [same] at running
      have running : c.current = some p := running
      rw [before] at running
      cases running

/-! ## The cast with a tag -/

def Runs (c : Caster) (tag : CastTag) : Prop :=
  ∃ p, c.current = some p ∧ p.tag = tag

theorem succ_ne_self (n : UInt32) : n + 1 ≠ n := by
  intro same
  have numbers := congrArg UInt32.toNat same
  have bound : n.toNat < 2 ^ 32 := n.toNat_lt
  rw [UInt32.toNat_add] at numbers
  simp at numbers
  omega

theorem Sound.not_runs_launch {skill : Skill} {script : Script} {spell : Spell}
    (idle : c.current = none) (w : World) :
    ¬ (c.launch r skill script spell w).2.1.Runs (.forCast c.owner c.casts) := by
  rintro ⟨q, running, tag⟩
  rcases launch_cases r skill script spell c w with
    ⟨e, w', -, launched⟩ | ⟨p, w', started, launched⟩
  · rw [launched] at running
    have running : c.current = some q := running
    rw [idle] at running
    cases running
  · rw [launched] at running
    cases running
    obtain ⟨agent, w₁, -, rfl, -⟩ := Cast.start_ok started
    obtain ⟨-, same⟩ := CastTag.forCast_inj.mp tag
    exact succ_ne_self c.casts same

/-- After a call that ends it, the cast does not run; after any other call it does. -/
theorem Sound.runs_call_iff (sound : c.Sound lib) (running : c.current = some p) :
    (c.call r lib w a).1.Runs p.tag ↔ ¬ c.Exits lib p w a := by
  constructor
  · intro runs exits
    have ended := sound.endCast_ended w
    rcases sound.call_exits running exits (r := r) with
      ending | ⟨id, spell, _, _, rfl, -, -, launched⟩
    · rw [ending] at runs
      obtain ⟨q, current, -⟩ := runs
      rw [ended.idle] at current
      cases current
    · have runs : (c.trySpell r lib id spell w).2.1.Runs p.tag := runs
      rw [launched, (sound.carries p running).tag, ← ended.owner, ← ended.casts] at runs
      exact Sound.not_runs_launch ended.idle _ runs
  · intro stays
    rw [sound.call_goesOn running stays]
    exact ⟨_, rfl, p.tag_after w a⟩

def Lasts (r : Registry) (lib : Library) (tag : CastTag) : Caster → List (World × Call) → Prop
  | c, [] => c.Runs tag
  | c, (w, a) :: rest => c.Runs tag ∧ Lasts r lib tag (c.call r lib w a).1 rest

theorem Lasts.runs {tag : CastTag} {calls : List (World × Call)}
    (lasts : Lasts r lib tag c calls) : c.Runs tag := by
  cases calls with
  | nil => exact lasts
  | cons e rest => exact lasts.1

/-- What every call that lets the cast go on keeps of a caster holds for as long as the cast runs. -/
theorem Sound.keeps_run {P : Caster → Prop} {tag : CastTag} {calls : List (World × Call)}
    (sound : c.Sound lib) (lasts : Lasts r lib tag c calls)
    (keeps : ∀ c p w a, c.Sound lib → c.current = some p → (w, a) ∈ calls → P c →
      P { c with abilities := a.abilities c.abilities, current := some (p.after w a) })
    (holds : P c) : P (c.run r lib calls) := by
  -- By induction on the calls: since the cast still runs after the first one, that let it go on.
  induction calls generalizing c with
  | nil => exact holds
  | cons e rest ih =>
    obtain ⟨w, a⟩ := e
    obtain ⟨⟨p, running, rfl⟩, lasts⟩ := lasts
    have stays : ¬ c.Exits lib p w a := (sound.runs_call_iff running).mp lasts.runs
    have next : P (c.call r lib w a).1 := by
      rw [sound.call_goesOn running stays]
      exact keeps c p w a sound running (List.mem_cons_self ..) holds
    refine ih (sound.call w a) lasts ?_ next
    intro c p w a sound running member holds
    exact keeps c p w a sound running (List.mem_cons_of_mem _ member) holds

theorem Sound.activeSkill?_run (sound : c.Sound lib) {tag : CastTag}
    {calls : List (World × Call)} (lasts : Lasts r lib tag c calls) :
    (c.run r lib calls).activeSkill? = c.activeSkill? := by
  refine sound.keeps_run (P := fun c' => c'.activeSkill? = c.activeSkill?) lasts ?_ rfl
  intro c' p w a _ running _ same
  rw [← same, activeSkill?, activeSkill?, running, Option.map_some, Option.map_some, p.skill_after]

theorem Lasts.snoc {tag : CastTag} {calls : List (World × Call)}
    (lasts : Lasts r lib tag c calls) (runs : ((c.run r lib calls).call r lib w a).1.Runs tag) :
    Lasts r lib tag c (calls ++ [(w, a)]) := by
  induction calls generalizing c with
  | nil => exact ⟨lasts, runs⟩
  | cons e rest ih => exact ⟨lasts.1, ih lasts.2 runs⟩

/-! ## The origin of a cast -/

/-- The history of a caster up to the call that started the running cast, that call, and the calls
since then. -/
structure Origin where
  earlier : List (World × Call)
  world : World
  id : SkillId
  spell : Spell
  later : List (World × Call)

namespace Origin

def calls (o : Origin) : List (World × Call) :=
  o.earlier ++ (o.world, .trySpell o.id o.spell) :: o.later

def before (r : Registry) (lib : Library) (owner : EntityId) (o : Origin) : Caster :=
  run r lib { owner := owner } o.earlier

def start (r : Registry) (lib : Library) (owner : EntityId) (o : Origin) :
    Except SkillError Unit × Caster × World :=
  (o.before r lib owner).trySpell r lib o.id o.spell o.world

theorem run_calls (r : Registry) (lib : Library) (owner : EntityId) (o : Origin) :
    run r lib { owner := owner } o.calls = (o.start r lib owner).2.1.run r lib o.later := by
  rw [calls, run_append]
  rfl

/-- The call was answered with a cast that was the running one ever since. -/
structure Of (r : Registry) (lib : Library) (owner : EntityId) (tag : CastTag) (o : Origin) :
    Prop where
  started : (o.start r lib owner).1 = .ok ()
  lasts : Lasts r lib tag (o.start r lib owner).2.1 o.later

end Origin

/-- Every running cast has its origin in the history of the caster. -/
theorem origin (r : Registry) (lib : Library) (owner : EntityId) (calls : List (World × Call))
    (running : (run r lib { owner := owner } calls).current = some p) :
    ∃ o : Origin, o.calls = calls ∧ o.Of r lib owner p.tag := by
  induction calls using List.reverseRecOn generalizing p with
  | nil => cases running
  | append_singleton calls e ih =>
    obtain ⟨w, a⟩ := e
    have sound := sound_run r lib owner calls
    rw [run_append] at running
    rcases sound.current_call running with ⟨q, before, stays, rfl⟩ | ⟨id, spell, rfl, started⟩
    · obtain ⟨o, rfl, origin⟩ := ih before
      refine ⟨{ o with later := o.later ++ [(w, a)] }, ?_, origin.started, ?_⟩
      · simp [Origin.calls]
      · rw [q.tag_after]
        refine origin.lasts.snoc ?_
        rw [← o.run_calls]
        exact (sound.runs_call_iff before).mpr stays
    · exact ⟨⟨calls, w, id, spell, []⟩, rfl, started, p, running, rfl⟩

end Caster

end SkillScript
