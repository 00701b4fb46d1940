import SkillScript.Proofs.Casting.Cleanup
/-!
# Locks of casts

A cast takes from its owner those of the flags that its skill locks and that the owner
has, and gives back exactly these when it ends. The next cast takes its own only after
that. So whatever casts follow each other, and whether they start or not, the owner has
all the flags it began with, but for those that the skill of the running cast locks.

All this is about an owner that stays: its entity is neither removed nor replaced, and
nobody but its caster writes the flags in question. Whether it is stunned is no matter
of casts, and what hosts write there stays.
-/
set_option autoImplicit false
namespace SkillScript

open Entities (Spared handedOut)

namespace Flags

def lockable (a : Flags) : Flags :=
  { a with stunned := false }

@[simp]
theorem inter_locks (a : Flags) (s : Skill) : a.inter s.locks = a.lockable.inter s.locks := by
  simp [inter, lockable, Skill.locks]

theorem lockable_diff (a : Flags) (s : Skill) :
    (a.diff (a.inter s.locks)).lockable = a.lockable.diff s.locks := by
  obtain ⟨movable, stunnable, stunned⟩ := a
  cases movable <;> cases stunnable <;> simp [diff, inter, lockable, Skill.locks]

/-- What was taken is given back. -/
theorem lockable_union {a before : Flags} {s : Skill} (locked : a.lockable = before.diff s.locks) :
    (a.union (before.inter s.locks)).lockable = before := by
  obtain ⟨movable, stunnable, stunned⟩ := before
  simp only [lockable, diff, Skill.locks, Flags.mk.injEq] at locked
  obtain ⟨move, stun, dazed⟩ := locked
  simp only [union, inter, lockable, Skill.locks, Flags.mk.injEq]
  refine ⟨?_, ?_, by simpa using dazed⟩
  · rw [move]
    cases movable <;> simp
  · rw [stun]
    cases stunnable <;> simp

/-- What casts take and give back makes no difference to `f`. -/
def Steady {α : Type} (f : Flags → α) : Prop :=
  ∀ a b : Flags, b.stunned = false → f (a.diff b) = f a ∧ f (a.union b) = f a

theorem steady_unit : Steady fun _ => () := fun _ _ _ => ⟨rfl, rfl⟩

theorem steady_stunned : Steady fun a => a.stunned := by
  intro a b never
  simp [diff, union, never]

end Flags

def Library.Spares {α : Type} (lib : Library) (id : EntityId) (f : Flags → α) : Prop :=
  lib.Obeys (fun s s' => Spared id f s.entities s'.entities)
    (fun s s' => Spared id f s.entities s'.entities)

section

variable {α : Type} {f : Flags → α} {who : EntityId}

theorem Library.Spares.keeps {lib : Library} (spares : lib.Spares who f) (es : Entities) :
    lib.Keeps (Spared who f es) :=
  Obeys.keeps spares fun _ _ spared before => before.trans spared

theorem Library.Spares.unit {lib : Library} (spares : lib.Spares who f) :
    lib.Spares who fun _ => () := by
  have unit {es es' : Entities} (spared : Spared who f es es') : Spared who (fun _ => ()) es es' :=
    ⟨spared.spawns, fun free alive => ⟨(spared.kept free alive).1, rfl⟩⟩
  intro name script loaded h member
  have obey := spares name script loaded h member
  exact
    { onInitialize := fun hook present view s => unit (obey.onInitialize hook present view s)
      onBegin := fun hook present view s => unit (obey.onBegin hook present view s)
      onUpdate := fun hook present step view s => unit (obey.onUpdate hook present step view s)
      onDestroy := fun hook present view s => unit (obey.onDestroy hook present view s) }

theorem survives_spared {hs : List Hooks} {still : Scope → Scope → Prop}
    (obey : ∀ h ∈ hs, h.Obey still fun s s' => Spared who f s.entities s'.entities)
    (es : Entities) : Survives (fun s => Spared who f es s.entities) hs where
  publish _ _ _ holds := holds
  listeners _ _ holds := holds
  vars _ _ holds := holds
  adjustHealth s j delta holds := holds.trans (.adjustHealth s.entities j delta)
  spawn s kind holds := holds.trans (.spawn s.entities s.owner kind s.tag)
  onBegin h member hook present view s holds :=
    holds.trans ((obey h member).onBegin hook present view s)
  onUpdate h member hook present step view s holds :=
    holds.trans ((obey h member).onUpdate hook present step view s)

namespace Cast

theorem spared_suppress (steady : Flags.Steady f) {flags : Flags} (never : flags.stunned = false)
    (w : World) (owner : EntityId) :
    Spared owner f w.entities (suppress w owner flags).entities := by
  rw [suppress]
  split
  · exact .refl _ _ _
  · exact .setFlags (steady _ flags never).1

theorem spared_restore (steady : Flags.Steady f) {flags : Flags} (never : flags.stunned = false)
    (w : World) (owner : EntityId) :
    Spared owner f w.entities (restore w owner flags).entities := by
  rw [restore]
  split
  · exact .refl _ _ _
  · exact .setFlags (steady _ flags never).2

theorem spared_pay (f : Flags → α) (w : World) (owner : EntityId) (cost : Int32) :
    Spared owner f w.entities (pay w owner cost).entities := by
  rw [pay]
  split
  · cases w.entities.health? owner with
    | none => exact .refl _ _ _
    | some health => exact .setHealth _ owner _
  · exact .refl _ _ _

/-- What is left to the owner when a cast has started. -/
theorem flags_taken {w : World} {owner : EntityId} {flags : Flags} {cost : Int32}
    (alive : (pay (suppress w owner flags) owner cost).entities.exists? owner = true) :
    w.entities.exists? owner = true ∧
      (pay (suppress w owner flags) owner cost).entities.flags owner =
        (w.entities.flags owner).diff flags := by
  have none : handedOut (suppress w owner flags).entities
      (pay (suppress w owner flags) owner cost).entities = [] :=
    Entities.handedOut_eq_nil (hosted_pay _ owner cost).spawns
  obtain ⟨there, same⟩ := (spared_pay id (suppress w owner flags) owner cost).kept
    (by simp [none]) alive
  obtain ⟨before, taken⟩ := flags_suppress there
  exact ⟨before, same.trans taken⟩

end Cast

namespace Caster

variable {r : Registry} {lib : Library} {c : Caster} {p : Cast} {w : World} {a : Call}

theorem Carries.spared_wake (carries : c.Carries lib p) (spares : lib.Spares who f) (w : World)
    (a : Call) : Spared who f w.entities (p.wake w a).entities := by
  obtain ⟨s, spared, same⟩ := carries.wake_keeps
    (fun name script loaded => survives_spared (spares name script loaded) w.entities)
    (.refl who f w.entities) a
  rwa [← same]

theorem Sound.spared_endCast (sound : c.Sound lib) (steady : Flags.Steady f)
    (spares : lib.Spares c.owner f) (w : World) :
    Spared c.owner f w.entities (c.endCast w).2.entities := by
  refine sound.endCast_keeps (spares.keeps _) ?_ (.refl _ _ _)
  intro p running before
  have carries := sound.carries p running
  have released : Spared c.owner f w.entities (w.entities.release p.tag) := .release _ _
  refine released.trans ?_
  rw [← carries.owner]
  exact Cast.spared_restore steady carries.steady { w with entities := w.entities.release p.tag }
    p.owner

theorem spared_launch (r : Registry) (steady : Flags.Steady f) (spares : lib.Spares c.owner f)
    (skill : Skill) {script : Script} (spell : Spell) {name : String}
    (loaded : lib.find? name = some script) (w : World) :
    Spared c.owner f w.entities (c.launch r skill script spell w).2.2.entities := by
  refine launch_keeps (spares.keeps _ name script loaded) ?_ (.refl _ _ _)
  intro w₁ before
  have never : ((w₁.entities.flags c.owner).inter skill.locks).stunned = false := Bool.and_false _
  exact before.trans ((Cast.spared_suppress steady never w₁ c.owner).trans
    (Cast.spared_pay f _ c.owner skill.healthCost))

/-- Calls change nothing that casts neither take nor give back. -/
theorem Sound.spared_call (sound : c.Sound lib) (steady : Flags.Steady f)
    (spares : lib.Spares c.owner f) (w : World) (a : Call) :
    Spared c.owner f w.entities (c.call r lib w a).2.entities := by
  have ended := sound.endCast_ended w
  have left := sound.spared_endCast steady spares w
  rcases sound.call_cases r w a with
    ⟨p, running, goesOn⟩ | ⟨-, same⟩ | ending | ⟨skill, script, spell, name, loaded, launched⟩
  · rw [goesOn]
    exact (sound.carries p running).spared_wake spares w a
  · rw [same]
    exact .refl _ _ _
  · rwa [ending]
  · rw [launched]
    rw [← ended.owner] at spares left ⊢
    exact left.trans (spared_launch r steady spares skill spell loaded _)

/-! ## What the owner has -/

/-- What the owner has of the flags it began with: all while no cast runs, and otherwise all but
those that the skill of the cast locks. The cast holds the others. -/
structure Locked (before : Flags) (c : Caster) (es : Entities) : Prop where
  idle : c.current = none → (es.flags c.owner).lockable = before
  casting : ∀ p, c.current = some p →
    (es.flags c.owner).lockable = before.diff p.skill.locks ∧
      p.suppressed = before.inter p.skill.locks

variable {before : Flags}

/-- A sweep gives the flags back. -/
theorem Carries.lockable_sweep (carries : c.Carries lib p)
    (flags : (w.entities.flags c.owner).lockable = before.diff p.skill.locks)
    (held : p.suppressed = before.inter p.skill.locks)
    (alive : (p.sweep w).entities.exists? c.owner = true) :
    ((p.sweep w).entities.flags c.owner).lockable = before := by
  rw [← carries.owner] at alive flags ⊢
  obtain ⟨there, given⟩ := Cast.flags_restore alive
  have released : Spared p.owner id w.entities (w.entities.release p.tag) := .release _ _
  have same := (released.kept (by simp [handedOut, Entities.release]) there).2
  have same : (w.entities.release p.tag).flags p.owner = w.entities.flags p.owner := same
  rw [Cast.sweep, given, held, same]
  exact Flags.lockable_union flags

theorem Sound.lockable_endCast (sound : c.Sound lib) (spares : lib.Spares c.owner Flags.lockable)
    (locked : c.Locked before w.entities)
    (free : c.owner ∉ handedOut w.entities (c.endCast w).2.entities)
    (alive : (c.endCast w).2.entities.exists? c.owner = true) :
    ((c.endCast w).2.entities.flags c.owner).lockable = before := by
  cases running : c.current with
  | none =>
    rw [endCast_idle running]
    exact locked.idle running
  | some p =>
    have carries := sound.carries p running
    obtain ⟨_, -, ending⟩ := sound.endCast_eq running w
    rw [ending] at free alive ⊢
    have swept : (p.sweep w).entities.spawns = w.entities.spawns := (p.hosted_sweep w).spawns
    have left : Spared c.owner Flags.lockable (p.sweep w).entities (p.vacated w).entities :=
      carries.vacated_keeps (spares.keeps _) (.refl _ _ _)
    rw [← Entities.handedOut_congr swept] at free
    obtain ⟨there, same⟩ := left.kept free alive
    obtain ⟨flags, held⟩ := locked.casting p running
    exact same.trans (carries.lockable_sweep flags held there)

/-- A cast that starts takes what its skill locks; one that does not start takes nothing. -/
theorem locked_launch {skill : Skill} {script : Script} {spell : Spell} {name : String}
    (spares : lib.Spares c.owner Flags.lockable) (loaded : lib.find? name = some script)
    (idle : c.current = none)
    (flags : w.entities.exists? c.owner = true →
      (w.entities.flags c.owner).lockable = before)
    (free : c.owner ∉ handedOut w.entities (c.launch r skill script spell w).2.2.entities)
    (alive : (c.launch r skill script spell w).2.2.entities.exists? c.owner = true) :
    Locked before (c.launch r skill script spell w).2.1
      (c.launch r skill script spell w).2.2.entities := by
  have begun := Agent.init_keeps r c.owner (.forCast c.owner (c.casts + 1)) (Cast.startVars skill)
    (spares.keeps w.entities name script loaded) (.refl _ _ _)
  rcases launch_cases r skill script spell c w with
    ⟨e, w', failed, launched⟩ | ⟨p, w', started, launched⟩
  · rw [launched] at free alive ⊢
    rw [Cast.start_error failed] at begun
    obtain ⟨there, same⟩ := begun.kept free alive
    refine ⟨fun _ => same.trans (flags there), ?_⟩
    intro p running
    have running : c.current = some p := running
    rw [idle] at running
    cases running
  · rw [launched] at free alive ⊢
    obtain ⟨agent, w₁, made, rfl, rfl⟩ := Cast.start_ok started
    rw [made] at begun
    have taken := (Cast.hosted_suppress w₁ c.owner
      ((w₁.entities.flags c.owner).inter skill.locks)).trans
        (Cast.hosted_pay _ c.owner skill.healthCost)
    have free : c.owner ∉ handedOut w.entities w₁.entities :=
      fun member => free (Entities.mem_handedOut_left member (Nat.le_of_eq taken.spawns.symm))
    obtain ⟨there, left⟩ := Cast.flags_taken alive
    obtain ⟨there, same⟩ := begun.kept free there
    have same : (w₁.entities.flags c.owner).lockable = before := same.trans (flags there)
    refine ⟨nofun, ?_⟩
    intro p running
    cases running
    refine ⟨?_, by rw [Flags.inter_locks, same]⟩
    rw [left, Flags.lockable_diff, same]

theorem Sound.locked_call (sound : c.Sound lib) (spares : lib.Spares c.owner Flags.lockable)
    (locked : c.Locked before w.entities)
    (free : c.owner ∉ handedOut w.entities (c.call r lib w a).2.entities)
    (alive : (c.call r lib w a).2.entities.exists? c.owner = true) :
    (c.call r lib w a).1.Locked before (c.call r lib w a).2.entities := by
  have ended := sound.endCast_ended w
  rcases sound.call_cases r w a with
    ⟨p, running, goesOn⟩ | ⟨idle, same⟩ | ending | ⟨skill, script, spell, name, loaded, launched⟩
  · rw [goesOn] at free alive ⊢
    have same := (((sound.carries p running).spared_wake spares w a).kept free alive).2
    obtain ⟨flags, held⟩ := locked.casting p running
    refine ⟨nofun, ?_⟩
    intro q running'
    cases running'
    rw [p.skill_after, p.suppressed_after]
    exact ⟨same.trans flags, held⟩
  · rw [same]
    exact ⟨locked.idle, locked.casting⟩
  · rw [ending] at free alive ⊢
    have flags := sound.lockable_endCast spares locked free alive
    refine ⟨?_, ?_⟩
    · intro _
      rwa [ended.owner]
    · intro p running
      rw [ended.idle] at running
      cases running
  · rw [launched] at free alive ⊢
    have first := sound.spared_endCast Flags.steady_unit spares.unit w
    have second : Spared (c.endCast w).1.owner _ _ _ :=
      spared_launch r Flags.steady_unit (ended.owner ▸ spares.unit) skill spell loaded
        (c.endCast w).2
    have earlier : c.owner ∉ handedOut w.entities (c.endCast w).2.entities :=
      fun member => free (Entities.mem_handedOut_left member second.spawns)
    have later : (c.endCast w).1.owner ∉ handedOut (c.endCast w).2.entities _ :=
      fun member => free (Entities.mem_handedOut_right (ended.owner ▸ member) first.spawns)
    refine locked_launch (ended.owner ▸ spares) loaded ended.idle ?_ later (by rwa [ended.owner])
    rw [ended.owner]
    exact sound.lockable_endCast spares locked earlier

/-! ## Runs -/

/-- The caster of an owner and the world after any history that began in a given world: calls of the
caster, and changes that nobody's calls made, in any order. -/
inductive Reaches (r : Registry) (lib : Library) (owner : EntityId) (w₀ : World) :
    Caster → World → Prop where
  | start : Reaches r lib owner w₀ { owner := owner } w₀
  | host {c : Caster} {w : World} (reaches : Reaches r lib owner w₀ c w) (w' : World)
      (spared : Spared owner Flags.lockable w.entities w'.entities) : Reaches r lib owner w₀ c w'
  | call {c : Caster} {w : World} (reaches : Reaches r lib owner w₀ c w) (a : Call) :
      Reaches r lib owner w₀ (c.call r lib w a).1 (c.call r lib w a).2

variable {owner : EntityId} {w₀ : World}

theorem Reaches.sound (reaches : Reaches r lib owner w₀ c w) : c.Sound lib ∧ c.owner = owner := by
  induction reaches with
  | start => exact ⟨sound_new lib owner, rfl⟩
  | host _ _ _ ih => exact ih
  | call _ a ih =>
    obtain ⟨sound, rfl⟩ := ih
    exact ⟨sound.call _ a, sound.owner_call r _ a⟩

theorem Reaches.locked (reaches : Reaches r lib owner w₀ c w)
    (spares : lib.Spares owner Flags.lockable) :
    w₀.entities.spawns ≤ w.entities.spawns ∧
      (owner ∉ handedOut w₀.entities w.entities → w.entities.exists? owner = true →
        c.Locked (w₀.entities.flags owner).lockable w.entities) := by
  induction reaches with
  | start =>
    refine ⟨Nat.le_refl _, fun _ _ => ⟨fun _ => rfl, ?_⟩⟩
    intro p running
    cases running
  | host reaches w' spared ih =>
    obtain ⟨less, locked⟩ := ih
    refine ⟨Nat.le_trans less spared.spawns, ?_⟩
    intro free alive
    obtain ⟨there, same⟩ :=
      spared.kept (fun member => free (Entities.mem_handedOut_right member less)) alive
    have locked :=
      locked (fun member => free (Entities.mem_handedOut_left member spared.spawns)) there
    obtain ⟨-, rfl⟩ := reaches.sound
    exact ⟨fun idle => same.trans (locked.idle idle), fun p running =>
      ⟨same.trans (locked.casting p running).1, (locked.casting p running).2⟩⟩
  | @call c w reaches a ih =>
    obtain ⟨less, locked⟩ := ih
    obtain ⟨sound, rfl⟩ := reaches.sound
    have spared := sound.spared_call Flags.steady_unit spares.unit w a (r := r)
    refine ⟨Nat.le_trans less spared.spawns, ?_⟩
    intro free alive
    have later := fun member => free (Entities.mem_handedOut_right member less)
    have locked := locked (fun member => free (Entities.mem_handedOut_left member spared.spawns))
      (spared.kept later alive).1
    exact sound.locked_call spares locked later alive

/-- The flags that casts take and give back are exact over whole runs. A caster's owner stays where
it is, and nobody else writes these flags of it. Then, after any history, the owner has the flags it
began with if no cast runs, and otherwise all of them but those that the skill of the running cast
locks. And no call changes whether the owner is stunned, unless hooks of the host do. -/
theorem locks_are_exact (r : Registry) (lib : Library) (owner : EntityId) (w₀ : World) (c : Caster)
    (w : World) (reaches : Reaches r lib owner w₀ c w)
    (spares : lib.Spares owner Flags.lockable)
    (unreplaced : owner ∉ handedOut w₀.entities w.entities)
    (alive : w.entities.exists? owner = true) :
    let before := (w₀.entities.flags owner).lockable
    (c.current = none → (w.entities.flags owner).lockable = before) ∧
      (∀ p, c.current = some p →
        (w.entities.flags owner).lockable = before.diff p.skill.locks) ∧
      ∀ a, (lib.Spares owner fun flags => flags.stunned) →
        let after := (c.call r lib w a).2.entities
        owner ∉ handedOut w.entities after → after.exists? owner = true →
          (after.flags owner).stunned = (w.entities.flags owner).stunned := by
  intro before
  have locked := (reaches.locked spares).2 unreplaced alive
  obtain ⟨sound, rfl⟩ := reaches.sound
  refine ⟨locked.idle, fun p running => (locked.casting p running).1, ?_⟩
  intro a stays after free there
  exact ((sound.spared_call Flags.steady_stunned stays w a).kept free there).2

def lockedRun : Caster × World :=
  let learned := call idleRegistry stanceLibrary stanceWorld { owner := ⟨1⟩ } (.learn stance)
  learned.1.call idleRegistry stanceLibrary learned.2 (.trySpell ⟨1⟩ {})

def dazedWorld : World :=
  { lockedRun.2 with
    entities := lockedRun.2.entities.setFlags ⟨1⟩ { stunnable := true, stunned := true } }

theorem locks_are_exact_of_stance :
    lockedRun.1.activeSkill? = some ⟨1⟩ ∧
      (lockedRun.2.entities.flags ⟨1⟩).lockable = { stunnable := true } ∧
      (dazedWorld.entities.flags ⟨1⟩).stunned = true ∧
      let after := (lockedRun.1.call idleRegistry stanceLibrary dazedWorld .interrupt).2
      (after.entities.flags ⟨1⟩).stunned = true := by
  have cast : Reaches idleRegistry stanceLibrary ⟨1⟩ stanceWorld lockedRun.1 lockedRun.2 :=
    (Reaches.start.call (.learn stance)).call (.trySpell ⟨1⟩ {})
  have spares {α : Type} (f : Flags → α) : stanceLibrary.Spares ⟨1⟩ f :=
    Library.obeys_of_single "idle" rfl _ _
  have active : lockedRun.1.current.map (fun p => p.skill) = some stance := by decide +kernel
  obtain ⟨p, running, skill⟩ := Option.map_eq_some_iff.mp active
  have locked : (lockedRun.2.entities.flags ⟨1⟩).lockable = { stunnable := true } := by
    have exact := (locks_are_exact idleRegistry stanceLibrary ⟨1⟩ stanceWorld _ _ cast (spares _)
      (by decide +kernel) (by decide +kernel)).2.1 p running
    rw [exact, skill]
    decide +kernel
  have dazed := cast.host dazedWorld (.setFlags locked.symm)
  have stunned : (dazedWorld.entities.flags ⟨1⟩).stunned = true := by decide +kernel
  refine ⟨by decide +kernel, locked, stunned, ?_⟩
  intro after
  have kept := (locks_are_exact idleRegistry stanceLibrary ⟨1⟩ stanceWorld _ _ dazed (spares _)
    (by decide +kernel) (by decide +kernel)).2.2 .interrupt (spares _)
  exact (kept (by decide +kernel) (by decide +kernel)).trans stunned

end Caster

end

end SkillScript
