import SkillScript.Proofs.Casting.Agents
import SkillScript.Proofs.Casting.Calls
import SkillScript.Proofs.Footprint.Calls
import SkillScript.Proofs.World.Entities
import SkillScript.Script.Build
/-!
# Only updates have effects

Where scripts hold no hooks of the host, a cast that starts takes flags and health
from its owner, a cast that ends removes its objects and gives the flags back, and
nothing else happens to the world, except that sensors begin or cease to listen. A
trigger changes no more than the variables of its agent. All other effects are those
of updates.
-/
set_option autoImplicit false
namespace SkillScript

/-- A world in which every entity has become what `f` says, and in which maybe others listen to the
bus. -/
structure World.Becomes (f : EntityId → Entity → Option Entity) (w w' : World) : Prop where
  entities : ∀ id, w'.entities.find? id = (w.entities.find? id).bind (f id)
  spawns : w'.entities.spawns = w.entities.spawns
  settings : w'.settings = w.settings
  journal : w'.bus.journal = w.bus.journal
  guests : w'.bus.guests = w.bus.guests
  capacity : w'.bus.capacity = w.bus.capacity

namespace World.Becomes

variable {f g : EntityId → Entity → Option Entity} {w w' w'' : World}

theorem trans (first : Becomes f w w') (second : Becomes g w' w'') :
    Becomes (fun id e => (f id e).bind (g id)) w w'' where
  entities id := by rw [second.entities, first.entities, Option.bind_assoc]
  spawns := second.spawns.trans first.spawns
  settings := second.settings.trans first.settings
  journal := second.journal.trans first.journal
  guests := second.guests.trans first.guests
  capacity := second.capacity.trans first.capacity

/-- It suffices to know what becomes of the entities that are there. -/
theorem congr (becomes : Becomes f w w')
    (same : ∀ id e, w.entities.find? id = some e → f id e = g id e) : Becomes g w w' where
  entities id := by
    rw [becomes.entities]
    exact Option.bind_congr fun e found => same id e found
  spawns := becomes.spawns
  settings := becomes.settings
  journal := becomes.journal
  guests := becomes.guests
  capacity := becomes.capacity

theorem refl (w : World) : Becomes (fun _ e => some e) w w :=
  ⟨fun _ => (Option.bind_fun_some _).symm, rfl, rfl, rfl, rfl, rfl⟩

/-- Nothing has happened, but that others listen. -/
theorem of_mute {ctx ctx' : Context} (same : ctx'.mute = ctx.mute) :
    Becomes (fun _ e => some e) ctx.toWorld ctx'.toWorld := by
  have parts : Becomes (fun _ e => some e) ctx.mute.toWorld ctx'.mute.toWorld := by
    rw [same]
    exact .refl _
  exact ⟨parts.entities, parts.spawns, parts.settings, parts.journal, parts.guests, parts.capacity⟩

theorem modify (w : World) (id : EntityId) (f : Entity → Entity) :
    Becomes (fun j e => some (if j = id then f e else e)) w
      { w with entities := w.entities.modify id f } where
  entities j := by
    show (w.entities.modify id f).find? j = _
    rw [Entities.find?_modify]
    by_cases here : j = id
    · subst here
      rw [if_pos rfl]
      cases w.entities.find? j with
      | none => rfl
      | some e => simp only [Option.map_some, Option.bind_some, if_true]
    · simp [here]
  spawns := rfl
  settings := rfl
  journal := rfl
  guests := rfl
  capacity := rfl

theorem release (w : World) (tag : CastTag) :
    Becomes (fun _ e => if e.ownerTag = some tag then none else some e) w
      { w with entities := w.entities.release tag } where
  entities id := by
    show (w.entities.release tag).find? id = _
    rw [Entities.find?_release]
    cases w.entities.find? id with
    | none => rfl
    | some e => by_cases owned : e.ownerTag = some tag <;> simp [Entities.isOwnedBy, owned]
  spawns := rfl
  settings := rfl
  journal := rfl
  guests := rfl
  capacity := rfl

end World.Becomes

namespace Cast

open World (Becomes)

theorem becomes_suppress (w : World) (owner : EntityId) (flags : Flags) :
    Becomes (fun id e => some (if id = owner then { e with flags := e.flags.diff flags } else e)) w
      (suppress w owner flags) := by
  rw [suppress]
  split
  · rename_i empty
    refine (Becomes.refl w).congr ?_
    intro id e _
    have same : e.flags.diff flags = e.flags := by simp_all [Flags.isEmpty, Flags.diff]
    rw [same, ite_self]
  · refine (Becomes.modify w owner _).congr ?_
    intro id e found
    by_cases here : id = owner
    · subst here
      simp [Entities.flags, found]
    · simp [here]

theorem becomes_restore (w : World) (owner : EntityId) (flags : Flags) :
    Becomes (fun id e => some (if id = owner then { e with flags := e.flags.union flags } else e)) w
      (restore w owner flags) := by
  rw [restore]
  split
  · rename_i empty
    refine (Becomes.refl w).congr ?_
    intro id e _
    have same : e.flags.union flags = e.flags := by simp_all [Flags.isEmpty, Flags.union]
    rw [same, ite_self]
  · refine (Becomes.modify w owner _).congr ?_
    intro id e found
    by_cases here : id = owner
    · subst here
      simp [Entities.flags, found]
    · simp [here]

def afterCost (cost health : Int32) : Int32 :=
  if 0 < cost then if health - cost < 0 then 0 else health - cost else health

theorem becomes_pay (w : World) (owner : EntityId) (cost : Int32) :
    Becomes (fun id e =>
        some (if id = owner then { e with health := afterCost cost e.health } else e)) w
      (pay w owner cost) := by
  rw [pay]
  split
  · rename_i costly
    cases health : w.entities.health? owner with
    | none =>
      refine (Becomes.refl w).congr ?_
      intro id e found
      have elsewhere : id ≠ owner := by
        rintro rfl
        simp [Entities.health?, found] at health
      rw [if_neg elsewhere]
    | some h =>
      refine (Becomes.modify w owner _).congr ?_
      intro id e found
      by_cases here : id = owner
      · subst here
        have same : e.health = h := by simpa [Entities.health?, found] using health
        simp [afterCost, costly, same]
      · simp [here]
  · rename_i free
    refine (Becomes.refl w).congr ?_
    intro id e _
    simp [afterCost, free]

def charge (skill : Skill) (suppressed : Flags) (e : Entity) : Entity :=
  { e with flags := e.flags.diff suppressed, health := afterCost skill.healthCost e.health }

end Cast

namespace Agent

variable {r : Registry} {script : Script} {owner : EntityId} {tag : CastTag} {vars : Vars}
  {w w' : World} {a : Agent}

theorem becomes_init (unhooked : script.root.hooks = [])
    (started : init r script owner tag vars w = (.ok a, w')) :
    w.Becomes (fun _ e => some e) w' := by
  obtain ⟨b, ctx, made, settled⟩ := init_ok started
  have made : created r script owner tag vars w = (some b, ctx) := made
  have untouched := (created_confined r script owner tag vars w).keeps
    (fun scope => scope.toWorld = w) (by rw [unhooked]; nofun) rfl
  rw [made] at untouched
  have untouched : ctx.toWorld = w := untouched
  obtain ⟨-, rfl⟩ := Prod.mk.inj settled
  have entered := World.Becomes.of_mute (Behaves.mute_enter ctx b)
  rwa [untouched] at entered

theorem becomes_dispose (unhooked : a.hooks = []) (w : World) :
    w.Becomes (fun _ e => some e) (a.dispose w).2 := by
  cases tree : a.tree with
  | none =>
    simp only [dispose, tree]
    exact .refl w
  | some t =>
    simp only [hooks, tree] at unhooked
    simp only [dispose, tree, settle]
    have rested := World.Becomes.of_mute (Behaves.Quiet.mute_deactivate (a.context w) t.root)
    have same := Holding.hooks_congr (Lasting.pristine_deactivate (a.context w) t.root)
    refine Holding.release_keeps (I := fun s => w.Becomes (fun _ e => some e) s.toWorld) _ _
      ⟨?_, ?_⟩ rested
    · intro hooks member
      rw [same, unhooked] at member
      cases member
    · intro receiver _ s becomes
      exact { becomes with }

end Agent

namespace Cast

/-- The casts that hosts can come to hold, of scripts without hooks. -/
inductive Reached (r : Registry) : Cast → Prop where
  | start {skill : Skill} {script : Script} {owner : EntityId} {sequence : UInt32} {spell : Spell}
    {w w' : World} {p : Cast} : script.root.hooks = [] →
      start r skill script owner sequence spell w = (.ok p, w') → Reached r p
  | trigger (tag : String) (payload : Vars) {p : Cast} : Reached r p → Reached r (p.trigger tag payload)
  | update (step : Float32) (w : World) {p : Cast} : Reached r p → Reached r (p.update step w).1
  | lateUpdate {p : Cast} : Reached r p → Reached r p.lateUpdate
  | markFinished {p : Cast} : Reached r p → Reached r p.markFinished
  | dispose (cd : Cooldown) (w : World) {p : Cast} : Reached r p → Reached r (p.dispose cd w).1

variable {r : Registry} {skill : Skill} {script : Script} {owner : EntityId} {sequence : UInt32}
  {spell : Spell} {w w' : World} {p : Cast}

theorem Reached.hooks_eq_nil (reached : Reached r p) : p.agent.hooks = [] := by
  have fewer {a : Agent} (bare : a.hooks = []) (w : World) (c : Agent.Call) :
      (a.call w c).1.hooks = [] := by
    have hooks := Agent.hooks_call w a c
    rwa [bare, List.subset_nil] at hooks
  induction reached with
  | @start skill script owner sequence spell w w' p unhooked started =>
    obtain ⟨agent, w₁, made, rfl, -⟩ := start_ok started
    have hooks := Agent.hooks_init made
    rw [unhooked, List.subset_nil] at hooks
    exact fewer hooks w (.trigger releaseTrigger spell.payload)
  | @trigger tag payload p _ ih =>
    unfold Cast.trigger
    split
    · exact ih
    · exact fewer ih {} (.trigger tag payload)
  | @update step w p _ ih =>
    unfold Cast.update
    split
    · exact ih
    · exact fewer ih w (.update step)
  | @lateUpdate p _ ih =>
    unfold Cast.lateUpdate
    split <;> exact ih
  | markFinished _ ih => exact ih
  | @dispose cd w p _ ih =>
    unfold Cast.dispose
    split
    · exact ih
    · exact fewer ih (p.sweep w) .dispose

theorem becomes_start (unhooked : script.root.hooks = [])
    (started : start r skill script owner sequence spell w = (.ok p, w')) :
    p.suppressed = (w.entities.flags owner).inter skill.locks ∧
      w.Becomes (fun id e => some (if id = owner then charge skill p.suppressed e else e)) w' := by
  obtain ⟨agent, w₁, made, rfl, rfl⟩ := start_ok started
  have begun := Agent.becomes_init unhooked made
  have same : w₁.entities.flags owner = w.entities.flags owner := by
    simp [Entities.flags, begun.entities]
  refine ⟨congrArg (fun flags => flags.inter skill.locks) same, ?_⟩
  refine ((begun.trans (becomes_suppress _ _ _)).trans (becomes_pay _ owner skill.healthCost)).congr
    ?_
  intro id e _
  by_cases here : id = owner
  · simp only [here, if_true, Option.bind_some]
    rfl
  · simp only [here, if_false, Option.bind_some]

theorem becomes_release (unhooked : p.agent.hooks = []) (w : World) :
    w.Becomes (fun id e =>
        if e.ownerTag = some p.tag then none
        else some (if id = p.owner then { e with flags := e.flags.union p.suppressed } else e))
      (p.release w).2 := by
  rw [release_eq]
  have swept := (World.Becomes.release w p.tag).trans
    (becomes_restore { w with entities := w.entities.release p.tag } p.owner p.suppressed)
  refine (swept.trans (Agent.becomes_dispose unhooked (p.sweep w))).congr ?_
  intro id e _
  by_cases owned : e.ownerTag = some p.tag
  · simp [owned]
  · simp [owned]

theorem becomes_dispose (unhooked : p.agent.hooks = []) (undisposed : p.disposed = false)
    (cd : Cooldown) (w : World) :
    w.Becomes (fun id e =>
        if e.ownerTag = some p.tag then none
        else some (if id = p.owner then { e with flags := e.flags.union p.suppressed } else e))
      (p.dispose cd w).2.2 := by
  have released := becomes_release unhooked w
  simp only [dispose, undisposed]
  exact released

end Cast

theorem Agent.find?_trigger (a : Agent) (tag : String) (payload : Vars) (name : String) :
    (a.trigger tag payload).vars.find? name =
      if a.isDisposed then a.vars.find? name
      else (payload.find? name).or (a.vars.find? name) := by
  cases tree : a.tree with
  | none => simp [trigger, isDisposed, tree]
  | some t => simp [trigger, isDisposed, tree, Table.find?_union]

/-- Only updates have effects. Where no hooks of the host run, neither the creation of a node, even
if it fails, nor any call that does not run it, nor its end changes a variable or an entity or
publishes anything. So the start of a cast changes the world by the flags and the health that it
takes from its owner, or not at all if it fails; a trigger merges its payload into the variables,
where it wins; and the end of a cast changes entities only by removing its objects and giving back
the flags. -/
theorem only_updates_have_effects (r : Registry) :
    (∀ c : Config, c.hooks = [] →
      (∀ ctx slot, (Handle.create? r ctx slot c).2.Same ctx) ∧
      ∀ h, Handle.Reached r c h → ∀ ctx,
        (h.init r ctx c).2.2.Same ctx ∧
        (∀ a : Handle.Call, a.runs = false → (h.call ctx a).2.Same ctx) ∧
        (h.destroy ctx).2.Same ctx) ∧
    (∀ (skill : Skill) (script : Script) (owner : EntityId) (sequence : UInt32) (spell : Spell)
        (w : World), script.root.hooks = [] →
      match Cast.start r skill script owner sequence spell w with
      | (.error _, w') => w' = w
      | (.ok p, w') =>
        p.suppressed = (w.entities.flags owner).inter skill.locks ∧
        w.Becomes (fun id e =>
          some (if id = owner then Cast.charge skill p.suppressed e else e)) w') ∧
    (∀ (a : Agent) (tag : String) (payload : Vars) (name : String),
      (a.trigger tag payload).vars.find? name =
        if a.isDisposed then a.vars.find? name
        else (payload.find? name).or (a.vars.find? name)) ∧
    (∀ p, Cast.Reached r p → ∀ (cd : Cooldown) (w : World),
      (p.disposed = true → (p.dispose cd w).2.2 = w) ∧
      (p.disposed = false → w.Becomes (fun id e =>
          if e.ownerTag = some p.tag then none
          else some (if id = p.owner then { e with flags := e.flags.union p.suppressed } else e))
        (p.dispose cd w).2.2) ∧
      p.drop w = (p.dispose cd w).2.2) := by
  refine ⟨?nodes, ?starts, Agent.find?_trigger, ?ends⟩
  case nodes =>
    intro c unhooked
    refine ⟨fun ctx slot => Handle.same_create? r ctx slot unhooked, ?_⟩
    intro h reached ctx
    refine ⟨h.same_init r ctx unhooked, fun a idle => h.same_call ctx idle, ?_⟩
    exact Handle.same_destroy ctx (reached.hooks_eq_nil unhooked)
  case starts =>
    intro skill script owner sequence spell w unhooked
    split
    · rename_i e w' failed
      have hookless : script.Hookless := by
        rw [Script.Hookless, unhooked]
        nofun
      exact Agent.init_failed hookless (Cast.start_error failed)
    · rename_i p w' started
      exact Cast.becomes_start unhooked started
  case ends =>
    intro p reached cd w
    refine ⟨?_, fun running => Cast.becomes_dispose reached.hooks_eq_nil running cd w, ?_⟩
    · intro disposed
      simp [Cast.dispose, disposed]
    · cases disposed : p.disposed <;> simp [Cast.drop, Cast.dispose, disposed]

def beaconConfig : Config :=
  Build.fsm "lit" [{ id := "lit", exit := some (Build.publishEvent "out") }]

def beaconSkill : Skill :=
  { id := ⟨1⟩, name := "beacon", script := "beacon", healthCost := 2, lockMovement := true }

def beaconWorld : World where
  entities := Entities.empty.insert ⟨1⟩ (.actor 10 .origin)

theorem only_updates_have_effects_of_beacon :
    ∃ h p w, (Handle.create? .standard emptyStage none beaconConfig).1 = some h ∧
      ((h.run [(emptyStage, .activate), (emptyStage, .update 1)]).call emptyStage
        .reset).2.Same emptyStage ∧
      Cast.start .standard beaconSkill ⟨"beacon", beaconConfig⟩ ⟨1⟩ 1 {} beaconWorld = (.ok p, w) ∧
      w.entities.health? ⟨1⟩ = some 8 ∧
      beaconWorld.Becomes (fun id e =>
        some (if id = ⟨1⟩ then Cast.charge beaconSkill p.suppressed e else e)) w ∧
      ((p.dispose {} w).2.2.entities.flags ⟨1⟩).movable = true := by
  obtain ⟨nodes, starts, -, -⟩ := only_updates_have_effects .standard
  have reached := (nodes beaconConfig rfl).2
  have started := starts beaconSkill ⟨"beacon", beaconConfig⟩ ⟨1⟩ 1 {} beaconWorld rfl
  refine ⟨_, _, _, rfl, ?_, rfl, rfl, started.2, rfl⟩
  exact (reached _ (.call _ _ (.call _ _ (.create emptyStage none rfl))) emptyStage).2.1 .reset rfl

end SkillScript
