import SkillScript.Proofs.Casting.Origin
import SkillScript.Proofs.Status.ActivePath
import SkillScript.Proofs.World.Changes
import SkillScript.Script.Build
/-!
# Every end of a cast cleans up

However a cast ends, and whatever has happened to the caster and to the world before,
the same is done, and done once: the objects of the cast are removed, the flags that
it took are given back, its agent is disposed of, and the cooldown of its skill
starts. Where another cast takes its place, that one starts in the world left behind.

Hooks that the host runs while nodes end or come to life may do anything to the
world. What they do not undo still holds behind them.
-/
set_option autoImplicit false
namespace SkillScript

open Entities (Hosted Unowned)

def Library.Keeps (lib : Library) (K : Entities → Prop) : Prop :=
  ∀ name script, lib.find? name = some script → script.Keeps K

/-- What all hooks of the library do to a scope: when behaviors come to life or end, and while they
run. -/
def Library.Obeys (lib : Library) (still busy : Scope → Scope → Prop) : Prop :=
  ∀ name script, lib.find? name = some script → ∀ h ∈ script.root.hooks, h.Obey still busy

theorem Library.Obeys.keeps {lib : Library} {still busy : Scope → Scope → Prop}
    (obeys : lib.Obeys still busy) {K : Entities → Prop}
    (stable : ∀ s s', still s s' → K s.entities → K s'.entities) : lib.Keeps K := by
  intro name script loaded h member
  have obey := obeys name script loaded h member
  exact
    { onInitialize := fun hook present view s => stable _ _ (obey.onInitialize hook present view s)
      onDestroy := fun hook present view s => stable _ _ (obey.onDestroy hook present view s) }

/-- A library with a single script that has no hooks. -/
theorem Library.obeys_of_single (name : String) {script : Script} (none : script.root.hooks = [])
    (still busy : Scope → Scope → Prop) : Obeys (Table.ofList [(name, script)]) still busy := by
  intro other found loaded h member
  have single : (Table.ofList [(name, script)]).find? other =
      if other = name then some script else Option.none :=
    Table.find?_insert Table.empty name other script
  rw [single] at loaded
  split at loaded
  · cases loaded
    rw [none] at member
    cases member
  · cases loaded

def idleScript : Script :=
  ⟨"idle", Build.fsm "idle" [{ id := "idle" }]⟩

def idleRegistry : Registry :=
  ((Registry.empty.registerType (.behavior .fsm)).2.registerType .state).2

namespace Cast

def Restored (p : Cast) (es : Entities) : Prop :=
  es.exists? p.owner = true → p.suppressed.Within (es.flags p.owner)

def ended (p : Cast) (w : World) : Cast :=
  (p.release w).1

def vacated (p : Cast) (w : World) : World :=
  (p.release w).2

theorem hosted_suppress (w : World) (owner : EntityId) (flags : Flags) :
    Hosted w.entities (suppress w owner flags).entities := by
  rw [suppress]
  split
  · exact .refl _
  · exact .setFlags _ owner _

theorem hosted_restore (w : World) (owner : EntityId) (flags : Flags) :
    Hosted w.entities (restore w owner flags).entities := by
  rw [restore]
  split
  · exact .refl _
  · exact .setFlags _ owner _

theorem hosted_pay (w : World) (owner : EntityId) (cost : Int32) :
    Hosted w.entities (pay w owner cost).entities := by
  rw [pay]
  split
  · cases w.entities.health? owner with
    | none => exact .refl _
    | some health => exact .setHealth _ owner _
  · exact .refl _

theorem hosted_sweep (p : Cast) (w : World) : Hosted w.entities (p.sweep w).entities :=
  (Hosted.release w.entities p.tag).trans
    (hosted_restore { w with entities := w.entities.release p.tag } p.owner p.suppressed)

theorem flags_suppress {w : World} {owner : EntityId} {flags : Flags}
    (alive : (suppress w owner flags).entities.exists? owner = true) :
    w.entities.exists? owner = true ∧
      (suppress w owner flags).entities.flags owner = (w.entities.flags owner).diff flags := by
  rw [suppress] at alive ⊢
  by_cases empty : flags.isEmpty = true
  · rw [if_pos empty] at alive ⊢
    simp_all [Flags.isEmpty, Flags.diff]
  · rw [if_neg empty] at alive ⊢
    rw [Entities.setFlags, Entities.exists?_modify] at alive
    exact ⟨alive, Entities.flags_setFlags _ _ _ alive⟩

theorem flags_restore {w : World} {owner : EntityId} {flags : Flags}
    (alive : (restore w owner flags).entities.exists? owner = true) :
    w.entities.exists? owner = true ∧
      (restore w owner flags).entities.flags owner = (w.entities.flags owner).union flags := by
  rw [restore] at alive ⊢
  by_cases empty : flags.isEmpty = true
  · rw [if_pos empty] at alive ⊢
    simp_all [Flags.isEmpty, Flags.union]
  · rw [if_neg empty] at alive ⊢
    rw [Entities.setFlags, Entities.exists?_modify] at alive
    exact ⟨alive, Entities.flags_setFlags _ _ _ alive⟩

/-- Flags that are given back are set. -/
theorem within_restore (w : World) (owner : EntityId) (flags : Flags)
    (alive : (restore w owner flags).entities.exists? owner = true) :
    flags.Within ((restore w owner flags).entities.flags owner) := by
  rw [(flags_restore alive).2]
  exact .union_right _ _

theorem unowned_sweep (p : Cast) (w : World) : (p.sweep w).entities.Unowned p.tag :=
  (hosted_restore _ p.owner p.suppressed).unowned (Entities.unowned_release w.entities p.tag)

/-- What is there after a sweep was there before and did not belong to the cast. -/
theorem exists?_sweep (p : Cast) (w : World) (id : EntityId) :
    (p.sweep w).entities.exists? id =
      ((w.entities.find? id).filter fun e => !Entities.isOwnedBy p.tag e).isSome := by
  rw [← Entities.find?_release, sweep, restore]
  split
  · rfl
  · rw [Entities.setFlags, Entities.exists?_modify]
    rfl

/-- Except for flags of the owner, a sweep changes nothing that does not belong to the cast. -/
theorem find?_sweep (p : Cast) (w : World) {id : EntityId} (other : id ≠ p.owner) :
    (p.sweep w).entities.find? id =
      (w.entities.find? id).filter fun e => !Entities.isOwnedBy p.tag e := by
  rw [← Entities.find?_release, sweep, restore]
  split
  · rfl
  · rw [Entities.setFlags, Entities.find?_modify, if_neg other]

theorem restored_sweep (p : Cast) (w : World) : p.Restored (p.sweep w).entities :=
  within_restore _ p.owner p.suppressed

/-- Whatever is done to a cast that has ended changes nothing. -/
theorem ended_idle (p : Cast) (w : World) (cd : Cooldown) (w' : World) :
    (p.ended w).dispose cd w' = (p.ended w, cd, w') ∧ (p.ended w).drop w' = w' :=
  ⟨rfl, rfl⟩

end Cast

namespace Caster

variable {r : Registry} {lib : Library} {c : Caster} {p : Cast} {w : World}

/-- The start of a cast keeps what the hooks of its script keep, if the caster does when it takes
flags and health from its owner. -/
theorem launch_keeps {skill : Skill} {script : Script} {spell : Spell} {K : Entities → Prop}
    (kept : script.Keeps K)
    (taken : ∀ w : World, K w.entities → K (Cast.pay (Cast.suppress w c.owner
      ((w.entities.flags c.owner).inter skill.locks)) c.owner skill.healthCost).entities)
    (holds : K w.entities) : K (c.launch r skill script spell w).2.2.entities := by
  have after := Agent.init_keeps r c.owner (.forCast c.owner (c.casts + 1))
    (Cast.startVars skill) kept holds
  rcases launch_cases r skill script spell c w with
    ⟨e, w', failed, launched⟩ | ⟨p, w', started, launched⟩
  · rw [launched]
    rwa [Cast.start_error failed] at after
  · rw [launched]
    obtain ⟨agent, w₁, made, rfl, rfl⟩ := Cast.start_ok started
    rw [made] at after
    exact taken w₁ after

theorem launch_keeps_of_hosted {skill : Skill} {script : Script} {spell : Spell}
    {K : Entities → Prop} (kept : script.Keeps K)
    (stable : ∀ es es', Hosted es es' → K es → K es') (holds : K w.entities) :
    K (c.launch r skill script spell w).2.2.entities :=
  launch_keeps kept
    (fun w => stable _ _ ((Cast.hosted_suppress w _ _).trans (Cast.hosted_pay _ _ _))) holds

/-- What the hooks of the library keep still holds when the agent of a cast is disposed of. -/
theorem Carries.vacated_keeps (carries : c.Carries lib p) {K : Entities → Prop}
    (kept : lib.Keeps K) (holds : K (p.sweep w).entities) : K (p.vacated w).entities := by
  obtain ⟨name, script, loaded, hooks⟩ := carries.hooks
  refine Agent.dispose_keeps (a := p.agent) ?_ holds
  intro h member
  exact kept name script loaded h (hooks member)

/-- While a cast goes on, what survives the hooks of the library holds. -/
theorem Carries.wake_keeps (carries : c.Carries lib p) {I : Scope → Prop}
    (survives : ∀ name script, lib.find? name = some script → Survives I script.root.hooks)
    (holds : I (p.agent.context w).toScope) (a : Call) : ∃ s, I s ∧ s.toWorld = p.wake w a := by
  obtain ⟨name, script, loaded, hooks⟩ := carries.hooks
  cases a with
  | update step => exact Agent.update_keeps ((survives name script loaded).mono hooks) step w holds
  | _ => exact ⟨_, holds, rfl⟩

/-- An end of a cast keeps what the hooks of the library keep, if a sweep does. -/
theorem Sound.endCast_keeps (sound : c.Sound lib) {K : Entities → Prop} (kept : lib.Keeps K)
    (swept : ∀ p, c.current = some p → K w.entities → K (p.sweep w).entities)
    (holds : K w.entities) : K (c.endCast w).2.entities := by
  cases running : c.current with
  | none =>
    rw [endCast_idle running]
    exact holds
  | some p =>
    obtain ⟨a, -, ending⟩ := sound.endCast_eq running w
    rw [ending]
    exact (sound.carries p running).vacated_keeps kept (swept p running holds)

theorem Sound.endCast_keeps_of_hosted (sound : c.Sound lib) {K : Entities → Prop}
    (kept : lib.Keeps K) (stable : ∀ es es', Hosted es es' → K es → K es') (holds : K w.entities) :
    K (c.endCast w).2.entities :=
  sound.endCast_keeps kept (fun p _ => stable _ _ (p.hosted_sweep w)) holds

/-- What is left of a cast that has ended, and of the caster and the world: those before its end
are given, and those after the call that ended it. -/
structure CleanedUp (r : Registry) (lib : Library) (c : Caster) (p : Cast) (w : World)
    (after : Caster × World) : Prop where
  /-- The cooldown of the skill was started, and no other ability has changed. -/
  entered : ∃ a, c.ability? p.skill.id = some a ∧
    after.1.abilities = c.abilities.insert p.skill.id { a with cooldown := a.cooldown.start }
  cooldown : ∃ a, after.1.ability? p.skill.id = some a ∧
    a.cooldown.remaining = a.cooldown.duration
  /-- No object of the cast is left when its agent is disposed of, nor afterwards. -/
  swept : (p.sweep w).entities.Unowned p.tag
  unowned : lib.Keeps (Unowned p.tag) → after.2.entities.Unowned p.tag
  /-- The flags of the owner are set when the agent is disposed of, and afterwards. -/
  restored : p.Restored (p.sweep w).entities
  flags : lib.Keeps p.Restored → p.Restored (p.vacated w).entities
  tree : (p.ended w).agent.tree = none
  nodes : (p.ended w).agent.live = 0 ∧ (p.ended w).agent.overdrawn = 0
  /-- The cast had not been released before and cannot be released again. -/
  once : p.disposed = false ∧ (p.ended w).disposed = true ∧
    ∀ cd w', (p.ended w).dispose cd w' = (p.ended w, cd, w') ∧ (p.ended w).drop w' = w'
  /-- Nothing else has happened, except that another cast was launched in the world left behind. -/
  next : after.2 = p.vacated w ∧ after.1.current = none ∨
    ∃ skill script spell c', after = (launch r skill script spell c' (p.vacated w)).2

theorem Sound.cleanedUp_endCast (sound : c.Sound lib) (running : c.current = some p) (w : World) :
    CleanedUp r lib c p w (c.endCast w) := by
  have carries := sound.carries p running
  obtain ⟨a, known, ending⟩ := sound.endCast_eq running w
  have settled := Agent.dispose_settles carries.account (p.sweep w)
  have unowned : lib.Keeps (Unowned p.tag) → (p.vacated w).entities.Unowned p.tag :=
    fun kept => carries.vacated_keeps kept (p.unowned_sweep w)
  have tree : (p.ended w).agent.tree = none := by
    obtain ⟨t, tree⟩ := carries.tree
    simp [Cast.ended, Cast.release_eq, Agent.dispose, tree, Agent.settle]
  rw [ending]
  exact
    { entered := ⟨a, known, rfl⟩
      cooldown := by
        refine ⟨{ a with cooldown := a.cooldown.start }, ?_, rfl⟩
        show (c.abilities.insert _ _).find? _ = _
        rw [Table.find?_insert, if_pos rfl]
      swept := p.unowned_sweep w
      unowned := unowned
      restored := p.restored_sweep w
      flags := fun kept => carries.vacated_keeps kept (p.restored_sweep w)
      tree := tree
      nodes := ⟨settled.1, settled.2.1⟩
      once := ⟨carries.undisposed, rfl, p.ended_idle w⟩
      next := Or.inl ⟨rfl, rfl⟩ }

theorem abilities_launch (r : Registry) (skill : Skill) (script : Script) (spell : Spell)
    (c : Caster) (w : World) : (c.launch r skill script spell w).2.1.abilities = c.abilities := by
  rcases launch_cases r skill script spell c w with ⟨e, w', -, launched⟩ | ⟨p, w', -, launched⟩
  · rw [launched]
  · rw [launched]

/-- A replacement cleans up as well as any other end. -/
theorem CleanedUp.launch {skill : Skill} {script : Script} {spell : Spell} {name : String}
    {ended : Caster × World} (cleaned : CleanedUp r lib c p w ended)
    (left : ended.2 = p.vacated w) (loaded : lib.find? name = some script) :
    CleanedUp r lib c p w (ended.1.launch r skill script spell ended.2).2 := by
  have same := abilities_launch r skill script spell ended.1 ended.2
  exact
    { cleaned with
      entered := by
        obtain ⟨a, known, entered⟩ := cleaned.entered
        exact ⟨a, known, by rw [same, entered]⟩
      cooldown := by
        rw [ability?, same]
        exact cleaned.cooldown
      unowned := fun kept =>
        launch_keeps_of_hosted (kept name script loaded) (fun _ _ hosted => hosted.unowned)
          (cleaned.unowned kept)
      next := Or.inr ⟨skill, script, spell, ended.1, by rw [left]⟩ }

/-- Every end of a cast cleans up completely. A caster that has gone through any history runs a
cast. The calls after which that cast does not run any more are those that end it: an interrupt, a
late update after its script has run to the end or while it can be interrupted and its owner is
stunned, and a cast that passes all gates and whose script is loaded, whether it starts or not.
Each of them cleans the cast up, before hooks run that the host has in its tree. No other call does
anything to it, except that its agent may be triggered or updated. -/
theorem every_end_cleans_up (r : Registry) (lib : Library) (owner : EntityId)
    (calls : List (World × Call)) (w : World) (a : Call) (p : Cast)
    (running : (run r lib { owner := owner } calls).current = some p) :
    let c := run r lib { owner := owner } calls
    (¬ (c.call r lib w a).1.Runs p.tag ↔ c.Exits lib p w a) ∧
      (c.Exits lib p w a → CleanedUp r lib c p w (c.call r lib w a)) ∧
      (¬ c.Exits lib p w a → (c.call r lib w a).1 =
        { c with abilities := a.abilities c.abilities, current := some (p.after w a) }) := by
  intro c
  have sound : c.Sound lib := sound_run r lib owner calls
  refine ⟨by rw [sound.runs_call_iff running, not_not], ?_, sound.call_goesOn running⟩
  intro exits
  have cleaned := sound.cleanedUp_endCast running w (r := r)
  rcases sound.call_exits running exits (r := r) with
    ending | ⟨id, spell, ability, script, rfl, -, loaded, launched⟩
  · rw [ending]
    exact cleaned
  · have left : (c.endCast w).2 = p.vacated w := by
      obtain ⟨_, -, ending⟩ := sound.endCast_eq running w
      rw [ending]
      rfl
    show CleanedUp r lib c p w (c.trySpell r lib id spell w).2
    rw [launched]
    exact cleaned.launch left loaded

def stance : Skill :=
  { id := ⟨1⟩, name := "stance", script := "idle", cooldown := 2, interruptible := true
    lockMovement := true }

def stanceLibrary : Library :=
  Table.ofList [("idle", idleScript)]

theorem stanceLibrary_keeps (K : Entities → Prop) : stanceLibrary.Keeps K :=
  Library.Obeys.keeps (Library.obeys_of_single "idle" rfl (fun s s' => K s.entities → K s'.entities)
    fun _ _ => True) fun _ _ kept => kept

def stanceWorld : World :=
  { entities := Entities.empty.insert ⟨1⟩ (.actor 100 .origin) }

def stanceCalls : List (World × Call) :=
  [(stanceWorld, .learn stance), (stanceWorld, .trySpell ⟨1⟩ {})]

def lockedWorld : World :=
  { entities := ((stanceWorld.entities.setFlags ⟨1⟩ { stunnable := true }).spawn ⟨1⟩ "orb"
      (.forCast ⟨1⟩ 1)).2 }

theorem every_end_cleans_up_of_stance :
    ∃ p, (run idleRegistry stanceLibrary { owner := ⟨1⟩ } stanceCalls).current = some p ∧
      p.suppressed = { movable := true } ∧
      lockedWorld.entities.ownedCount p.tag = 1 ∧
      let after := (run idleRegistry stanceLibrary { owner := ⟨1⟩ } stanceCalls).call
        idleRegistry stanceLibrary lockedWorld .interrupt
      after.2.entities.ownedCount p.tag = 0 ∧
        p.suppressed.Within ((p.vacated lockedWorld).entities.flags ⟨1⟩) ∧
        ∃ a, after.1.ability? p.skill.id = some a ∧
          a.cooldown.remaining = a.cooldown.duration := by
  refine ⟨_, rfl, rfl, rfl, ?_⟩
  have cleaned := (every_end_cleans_up idleRegistry stanceLibrary ⟨1⟩ stanceCalls lockedWorld
    .interrupt _ rfl).2.1 trivial
  refine ⟨?_, ?_, cleaned.cooldown⟩
  · exact Entities.ownedCount_eq_zero_iff.mpr (cleaned.unowned (stanceLibrary_keeps _))
  · exact cleaned.flags (stanceLibrary_keeps _) rfl

/-- A hook that leaves an object of the cast behind and takes all flags from its owner. -/
def haunting : Hooks where
  onDestroy := some fun view s =>
    (view.finished,
      { s with entities := (s.entities.spawn s.owner "ghost" s.tag).2.setFlags s.owner {} })

def hauntedRegistry : Registry :=
  (Registry.standard.registerDelegate "Haunting" haunting).2

def hauntedLibrary : Library :=
  Table.ofList [("idle", ⟨"idle", ⟨"Haunting", .behavior, .delegate [] haunting⟩⟩)]

/-- What an end has done is undone by a hook that runs when the tree is destroyed: objects are
removed and flags are given back before that. -/
theorem ends_are_undone_by_hooks :
    ∃ p, (run hauntedRegistry hauntedLibrary { owner := ⟨1⟩ } stanceCalls).current = some p ∧
      p.suppressed = { movable := true } ∧
      let after := (run hauntedRegistry hauntedLibrary { owner := ⟨1⟩ } stanceCalls).call
        hauntedRegistry hauntedLibrary lockedWorld .interrupt
      after.1.current.isNone = true ∧ after.2.entities.exists? ⟨1⟩ = true ∧
        after.2.entities.ownedCount p.tag = 1 ∧
        ¬ p.suppressed.Within (after.2.entities.flags ⟨1⟩) := by
  refine ⟨_, rfl, rfl, by decide +kernel, by decide +kernel, by decide +kernel, ?_⟩
  intro within
  exact absurd (within.movable rfl) (by decide +kernel)

end Caster

end SkillScript
