import SkillScript.Proofs.Instantiation.Start
import SkillScript.Proofs.Simulation.Stages
import SkillScript.Simulation.Program
/-!
# Whole simulations

The first attempt decides what a simulation comes to. If it starts a cast, every later
attempt starts one, for an attempt is made only where the gates let it in, and a script
that starts once always starts. If a gate refuses it, nothing changes and the gate goes
on to refuse. If the script is missing or does not start, nothing changes but the number
of the cast, and every later attempt fails alike.
-/
set_option autoImplicit false
namespace SkillScript

/-! ## Loaded scripts -/

/-- An agent of the script never starts, and the attempt leaves the world as it was. -/
def Script.Fails (r : Registry) (script : Script) : Prop :=
  ∀ owner tag vars w, ∃ e, Agent.init r script owner tag vars w = (.error e, w)

/-- What a registry accepts always starts or never does. -/
theorem Registry.starts_or_fails {r : Registry} (fit : r.Fit) {name : String} {root : Element}
    {script : Script} (read : r.readScript name root = .ok script) :
    script.Starts r ∨ script.Fails r := by
  cases behaves : script.root.category.satisfies .behavior with
  | true =>
    obtain ⟨a, started, -⟩ :=
      Agent.init_complete default default ∅ {} (readScript_sound fit read) behaves
    exact Or.inl ⟨default, default, ∅, {}, a, _, Prod.ext started rfl⟩
  | false =>
    refine Or.inr fun owner tag vars w =>
      ⟨.rootNotBehavior script.name script.root.typeName, ?_⟩
    simp [Agent.init, behaves]

theorem mapError_ok {ε ε' α : Type} {x : Except ε α} {g : ε → ε'} {a : α}
    (done : x.mapError g = .ok a) : x = .ok a := by
  cases x with
  | error e => cases done
  | ok b => exact congrArg Except.ok (Except.ok.inj done)

namespace ContentFolder

variable {f : ContentFolder} {r : Registry}

theorem readScript_of_scriptFile {path : String} {script : Script}
    (loaded : f.scriptFile r path = .ok script) :
    ∃ name root, r.readScript name root = .ok script := by
  unfold scriptFile at loaded
  split at loaded
  · cases loaded
  · obtain ⟨text, -, loaded⟩ := bind_ok loaded
    have read := mapError_ok loaded
    unfold Registry.readScriptText at read
    split at read
    · cases read
    · exact ⟨_, _, read⟩

/-- A script of the library was accepted by the registry. -/
theorem readScript_of_scripts {lib : Library} (loaded : f.scripts r = .ok lib) {name : String}
    {script : Script} (found : lib.find? name = some script) :
    ∃ name root, r.readScript name root = .ok script := by
  obtain ⟨names, -, made⟩ := bind_ok loaded
  cases made
  obtain ⟨s, member, same⟩ := List.mem_map.mp (Table.mem_of_find?_ofList found)
  cases same
  obtain ⟨path, -, kept⟩ := List.mem_filterMap.mp member
  cases read : f.scriptFile r path with
  | error e =>
    rw [read] at kept
    cases kept
  | ok s =>
    rw [read] at kept
    cases kept
    exact readScript_of_scriptFile read

theorem starts_or_fails_of_load {content : Content} (loaded : f.load .standard = .ok content)
    {name : String} {script : Script} (found : content.scripts.find? name = some script) :
    script.Starts .standard ∨ script.Fails .standard := by
  obtain ⟨settings, -, loaded⟩ := bind_ok loaded
  obtain ⟨skills, -, loaded⟩ := bind_ok loaded
  obtain ⟨scripts, library, loaded⟩ := bind_ok loaded
  cases loaded
  obtain ⟨_, _, read⟩ := readScript_of_scripts library found
  exact Registry.starts_or_fails Registry.standard_hosted.fit read

end ContentFolder

namespace Simulation

def gates (skill : Skill) (es : Entities) : Except SkillError Unit :=
  let a := Ability.ofSkill skill
  let answer : Except CastBlock Unit := do
    a.check casterId es false
    a.checkTarget casterId targetId es
  answer.mapError (.blocked skill.id)

namespace Stage

variable {r : Registry} {lib : Library} {setup : Setup} {skill : Skill} {w : World} {s : Stage}

/-! ## Stages without a cast -/

/-- No cast has been started: none runs, the skill is not on cooldown, and the world is still the
given one. -/
structure Untouched (skill : Skill) (w : World) (s : Stage) : Prop where
  world : s.world = w
  owner : s.caster.owner = casterId
  idle : s.caster.current = none
  ready : ∃ cd : Cooldown, s.caster.ability? skill.id = some ⟨skill, cd⟩ ∧ cd.isCooling = false

theorem ability?_initial (setup : Setup) (settings : Settings) (skill : Skill) :
    (initial setup settings skill).caster.ability? skill.id = some (.ofSkill skill) := by
  show (Table.insert _ _ _).find? _ = _
  rw [Table.find?_insert, if_pos rfl]

theorem untouched_initial (setup : Setup) (settings : Settings) (skill : Skill) :
    (initial setup settings skill).Untouched skill (initial setup settings skill).world :=
  ⟨rfl, rfl, rfl, _, ability?_initial setup settings skill, Ability.ready_ofSkill skill⟩

theorem settled_initial (lib : Library) (setup : Setup) (settings : Settings) (skill : Skill) :
    (initial setup settings skill).Settled lib skill :=
  ⟨(Caster.sound_new lib casterId).learn skill,
    ⟨_, ability?_initial setup settings skill, rfl, Cooldown.Proper.ofDuration skill.cooldown⟩,
    nofun⟩

namespace Untouched

/-- As long as nothing has been cast, the gates answer the same. -/
theorem check_eq (untouched : s.Untouched skill w) :
    s.caster.check skill.id (some targetId) s.world.entities = gates skill w.entities := by
  obtain ⟨cd, known, ready⟩ := untouched.ready
  have fresh := Ability.ready_ofSkill skill
  have free : s.caster.isBusy w.entities = false := by
    rw [Caster.isBusy, untouched.idle, Option.any_none]
  rw [untouched.world]
  simp only [Caster.check, gates, known, untouched.owner, free, Ability.check, ready, fresh]
  rfl

theorem isReady_iff (untouched : s.Untouched skill w) :
    s.isReady skill.id = true ↔ gates skill w.entities = .ok () := by
  rw [Stage.isReady_iff, untouched.check_eq]
  exact ⟨fun h => h.2, fun h => ⟨untouched.idle, h⟩⟩

theorem pass (untouched : s.Untouched skill w) (step : Float32) :
    (s.pass step).Untouched skill w := by
  obtain ⟨cd, known, ready⟩ := untouched.ready
  have later := Caster.ability?_update s.caster step s.world skill.id
  rw [known, Option.map_some] at later
  have updated : s.caster.update step s.world =
      ((s.caster.update step s.world).1, s.world) := by
    simp only [Caster.update, untouched.idle]
  have idle : (s.caster.update step s.world).1.current = none := by
    simp only [Caster.update, untouched.idle]
  have owner : (s.caster.update step s.world).1.owner = s.caster.owner := by
    simp only [Caster.update, untouched.idle]
  have passed : s.pass step =
      { s with caster := (s.caster.update step s.world).1 } := by
    unfold Stage.pass
    rw [updated]
    simp only [Caster.lateUpdate, idle]
  rw [passed]
  refine ⟨untouched.world, owner.trans untouched.owner, idle, _, later, ?_⟩
  cases cooling : (cd.tick step).isCooling with
  | false => rfl
  | true =>
    rw [Cooldown.cooling_of_tick cooling] at ready
    cases ready

/-- Where the gates let the skill in but its script does not start, an attempt only uses up a
number. -/
theorem attempt_fails (untouched : s.Untouched skill w) (passed : gates skill w.entities = .ok ())
    (fails : ∀ script, lib.find? skill.script = some script → script.Fails r) :
    ∃ e n, ¬ e.IsGate ∧
      s.attempt r lib skill.id = (.error e, { s.caster with casts := n }, s.world) := by
  obtain ⟨cd, known, -⟩ := untouched.ready
  rcases Caster.trySpell_cases r lib s.caster skill.id { target := some targetId } s.world with
    ⟨e, refused, -⟩ | ⟨a, -, -, -, result⟩ | ⟨a, script, -, known', loaded, result⟩
  · rw [untouched.check_eq, passed] at refused
    cases refused
  · exact ⟨_, _, id, result⟩
  · rw [known] at known'
    cases known'
    rw [Caster.endCast_idle untouched.idle] at result
    rcases Caster.launch_cases r skill script { target := some targetId } s.caster s.world with
      ⟨e, w', failed, launched⟩ | ⟨p, w', started, -⟩
    · have failed := Cast.start_error failed
      obtain ⟨e', never⟩ := fails script loaded s.caster.owner
        (.forCast s.caster.owner (s.caster.casts + 1)) (Cast.startVars skill) s.world
      rw [never] at failed
      cases failed
      exact ⟨_, _, id, result.trans launched⟩
    · obtain ⟨agent, w₁, made, -⟩ := Cast.start_ok started
      obtain ⟨e', never⟩ := fails script loaded s.caster.owner
        (.forCast s.caster.owner (s.caster.casts + 1)) (Cast.startVars skill) s.world
      rw [never] at made
      cases made

theorem cast_fails (untouched : s.Untouched skill w) (passed : gates skill w.entities = .ok ())
    (fails : ∀ script, lib.find? skill.script = some script → script.Fails r) :
    (s.cast r lib skill.id).Untouched skill w ∧ (s.cast r lib skill.id).casts = s.casts ∧
      (s.cast r lib skill.id).rejected = s.rejected + 1 := by
  obtain ⟨e, n, -, result⟩ := untouched.attempt_fails passed fails
  rw [cast_eq, result]
  exact ⟨⟨untouched.world, untouched.owner, untouched.idle, untouched.ready⟩, rfl, rfl⟩

theorem cast_refused (r : Registry) (lib : Library) (untouched : s.Untouched skill w)
    {e : SkillError} (refused : gates skill w.entities = .error e) :
    (s.cast r lib skill.id).Untouched skill w ∧ (s.cast r lib skill.id).casts = s.casts ∧
      (s.cast r lib skill.id).rejected = s.rejected + 1 := by
  rw [← untouched.check_eq] at refused
  have result : s.attempt r lib skill.id = (.error e, s.caster, s.world) := by
    rw [attempt, Caster.trySpell, refused]
  rw [cast_eq, result]
  exact ⟨⟨untouched.world, untouched.owner, untouched.idle, untouched.ready⟩, rfl, rfl⟩

/-! ## Runs -/

/-- Where a gate refuses the skill it is never cast. -/
theorem ticks_refused (r : Registry) (lib : Library) (untouched : s.Untouched skill w)
    {e : SkillError} (refused : gates skill w.entities = .error e) (setup : Setup) (n : Nat) :
    (s.ticks r lib setup skill.id n).casts = s.casts ∧
      (s.ticks r lib setup skill.id n).rejected = s.rejected := by
  induction n generalizing s with
  | zero => exact ⟨rfl, rfl⟩
  | succ n ih =>
    have passed := untouched.pass setup.step
    have only : s.tick r lib setup skill.id = s.pass setup.step := by
      rw [tick_eq, if_neg]
      rw [Bool.and_eq_true, passed.isReady_iff, refused]
      nofun
    rw [ticks, only]
    exact ih passed

/-- Where the script does not start, every attempt fails. -/
theorem ticks_fail (untouched : s.Untouched skill w) (passed : gates skill w.entities = .ok ())
    (fails : ∀ script, lib.find? skill.script = some script → script.Fails r) (setup : Setup)
    (n : Nat) :
    (s.ticks r lib setup skill.id n).casts = s.casts ∧
      (s.ticks r lib setup skill.id n).rejected =
        s.rejected + UInt32.ofNat (if setup.again then n else 0) := by
  induction n generalizing s with
  | zero =>
    refine ⟨rfl, ?_⟩
    rw [ite_self]
    exact (UInt32.add_zero _).symm
  | succ n ih =>
    have later := untouched.pass setup.step
    have ready := later.isReady_iff.mpr passed
    rw [ticks, tick_eq, ready, Bool.and_true]
    cases again : setup.again with
    | false =>
      have rest := ih later
      rw [again] at rest
      exact rest
    | true =>
      obtain ⟨kept, casts, rejected⟩ := later.cast_fails (r := r) passed fails
      obtain ⟨casts', rejected'⟩ := ih kept
      rw [again] at rejected'
      refine ⟨casts'.trans casts, rejected'.trans ?_⟩
      rw [rejected, if_pos rfl, if_pos rfl, Nat.add_comm n 1, UInt32.ofNat_add, UInt32.add_assoc]
      rfl

end Untouched

/-- Where the script starts, the skill is cast whenever the gates let it in. -/
theorem Settled.attempt_ok (settled : s.Settled lib skill) {script : Script}
    (loaded : lib.find? skill.script = some script) (starts : script.Starts r)
    (passed : s.caster.check skill.id (some targetId) s.world.entities = .ok ()) :
    (s.attempt r lib skill.id).1 = .ok () := by
  obtain ⟨a, known, same, -⟩ := settled.knows
  subst same
  exact (settled.sound.trySpell_ok passed known loaded starts).1

theorem Settled.ticks_start (settled : s.Settled lib skill) {script : Script}
    (loaded : lib.find? skill.script = some script) (starts : script.Starts r) (setup : Setup)
    (n : Nat) :
    (s.ticks r lib setup skill.id n).rejected = s.rejected ∧
      ∃ k, k ≤ n ∧ (setup.again = false → k = 0) ∧
        (s.ticks r lib setup skill.id n).casts = s.casts + UInt32.ofNat k := by
  induction n generalizing s with
  | zero => exact ⟨rfl, 0, Nat.le_refl 0, fun _ => rfl, (UInt32.add_zero _).symm⟩
  | succ n ih =>
    obtain ⟨rejected, k, few, once, casts⟩ := ih (settled.tick (r := r) setup)
    rw [Stage.ticks, rejected, casts, tick_eq]
    split
    · rename_i casts
      rw [Bool.and_eq_true, Stage.isReady_iff] at casts
      have started := (settled.pass setup.step).attempt_ok loaded starts casts.2.2
      rw [cast_eq, started]
      refine ⟨rfl, k + 1, Nat.succ_le_succ few, ?_, ?_⟩
      · intro once
        rw [casts.1] at once
        cases once
      · rw [Nat.add_comm k 1, UInt32.ofNat_add, ← UInt32.add_assoc]
        rfl
    · exact ⟨rfl, k, Nat.le_succ_of_le few, once, rfl⟩

end Stage

/-! ## Reports -/

def firstAttempt (r : Registry) (settings : Settings) (lib : Library) (setup : Setup)
    (skill : Skill) : Except SkillError Unit :=
  ((Stage.initial setup settings skill).attempt r lib skill.id).1

section Run

variable {r : Registry} {settings : Settings} {lib : Library} {setup : Setup} {skill : Skill}

/-- An attempt is refused by a gate exactly if the gates refuse the skill. -/
theorem gates_of_firstAttempt {e : SkillError}
    (failed : firstAttempt r settings lib setup skill = .error e) :
    (e.IsGate → gates skill (Stage.initial setup settings skill).world.entities = .error e) ∧
      (¬ e.IsGate → gates skill (Stage.initial setup settings skill).world.entities = .ok ()) := by
  have untouched := Stage.untouched_initial setup settings skill
  have same (e' : SkillError) := Caster.check_eq_error_iff r lib
    (Stage.initial setup settings skill).caster skill.id { target := some targetId }
    (Stage.initial setup settings skill).world e'
  simp only [untouched.check_eq] at same
  refine ⟨fun gate => (same e).mpr ⟨failed, gate⟩, ?_⟩
  intro other
  cases answer : gates skill (Stage.initial setup settings skill).world.entities with
  | ok _ => rfl
  | error e' =>
    obtain ⟨failed', gate⟩ := (same e').mp answer
    cases failed.symm.trans failed'
    exact absurd gate other

/-- All that is counted is counted on the stage. -/
theorem casts_run (r : Registry) (settings : Settings) (lib : Library) (setup : Setup)
    (skill : Skill) :
    (run r settings lib setup skill).casts =
      (((Stage.initial setup settings skill).cast r lib skill.id).ticks r lib setup skill.id
        setup.ticks.toNat).casts :=
  rfl

theorem rejected_run (r : Registry) (settings : Settings) (lib : Library) (setup : Setup)
    (skill : Skill) :
    (run r settings lib setup skill).rejected =
      (((Stage.initial setup settings skill).cast r lib skill.id).ticks r lib setup skill.id
        setup.ticks.toNat).rejected :=
  rfl

theorem toNat_one_add {k : Nat} (small : k + 1 < 2 ^ 32) :
    (1 + UInt32.ofNat k).toNat = 1 + k := by
  have one : (1 : UInt32).toNat = 1 := rfl
  have within : k < 2 ^ 32 := Nat.lt_of_succ_lt small
  rw [UInt32.toNat_add, UInt32.toNat_ofNat_of_lt' within, one, Nat.mod_eq_of_lt (by omega)]

theorem run_started (first : firstAttempt r settings lib setup skill = .ok ())
    (room : setup.ticks.toNat + 1 < 2 ^ 32) :
    (run r settings lib setup skill).rejected = 0 ∧
      1 ≤ (run r settings lib setup skill).casts ∧
      (setup.again = false → (run r settings lib setup skill).casts = 1) := by
  have settled := Stage.settled_initial lib setup settings skill
  have untouched := Stage.untouched_initial setup settings skill
  obtain ⟨a, script, p, w', -, known, loaded, made, -⟩ := Caster.trySpell_started first
  obtain rfl : a = .ofSkill skill :=
    Option.some.inj (known.symm.trans (Stage.ability?_initial setup settings skill))
  obtain ⟨agent, w₁, starts, -⟩ := Cast.start_ok made
  -- a script that has started once starts whenever the gates let the skill in again
  obtain ⟨rejected, k, few, once, casts⟩ := (settled.cast (r := r) untouched.idle).ticks_start
    loaded ⟨_, _, _, _, agent, w₁, starts⟩ setup setup.ticks.toNat
  have started : ((Stage.initial setup settings skill).attempt r lib skill.id).1 = .ok () := first
  rw [← rejected_run, Stage.cast_eq, started] at rejected
  rw [← casts_run, Stage.cast_eq, started] at casts
  have counted : (run r settings lib setup skill).casts = 1 + UInt32.ofNat k := casts
  refine ⟨rejected, ?_, ?_⟩
  · rw [counted, UInt32.le_iff_toNat_le, toNat_one_add (by omega)]
    exact Nat.le_add_right 1 k
  · intro single
    rw [counted, once single]
    rfl

theorem run_refused {e : SkillError} (first : firstAttempt r settings lib setup skill = .error e)
    (gate : e.IsGate) :
    (run r settings lib setup skill).casts = 0 ∧
      (run r settings lib setup skill).rejected = 1 := by
  have untouched := Stage.untouched_initial setup settings skill
  have refused := (gates_of_firstAttempt first).1 gate
  obtain ⟨kept, casts, rejected⟩ := untouched.cast_refused r lib refused
  obtain ⟨casts', rejected'⟩ := kept.ticks_refused r lib refused setup setup.ticks.toNat
  exact ⟨casts'.trans casts, rejected'.trans rejected⟩

theorem run_failed {e : SkillError} (first : firstAttempt r settings lib setup skill = .error e)
    (late : ¬ e.IsGate) (fails : ∀ script, lib.find? skill.script = some script → script.Fails r)
    (room : setup.ticks.toNat + 1 < 2 ^ 32) :
    (run r settings lib setup skill).casts = 0 ∧
      (run r settings lib setup skill).rejected.toNat =
        if setup.again then 1 + setup.ticks.toNat else 1 := by
  have untouched := Stage.untouched_initial setup settings skill
  have passed := (gates_of_firstAttempt first).2 late
  obtain ⟨kept, casts, rejected⟩ := untouched.cast_fails (r := r) passed fails
  obtain ⟨casts', rejected'⟩ := kept.ticks_fail (r := r) passed fails setup setup.ticks.toNat
  rw [← rejected_run, rejected] at rejected'
  have counted : (run r settings lib setup skill).rejected =
      1 + UInt32.ofNat (if setup.again then setup.ticks.toNat else 0) := rejected'
  refine ⟨casts'.trans casts, ?_⟩
  rw [counted]
  split
  · exact toNat_one_add room
  · rfl

/-- A script that may start does, so an attempt behind the gates fails only if no script does. -/
theorem fails_of_firstAttempt {e : SkillError}
    (first : firstAttempt r settings lib setup skill = .error e) (late : ¬ e.IsGate)
    {script : Script} (loaded : lib.find? skill.script = some script)
    (decided : script.Starts r ∨ script.Fails r) : script.Fails r := by
  refine decided.resolve_left fun starts => ?_
  have settled := Stage.settled_initial lib setup settings skill
  have passed := (gates_of_firstAttempt first).2 late
  rw [← (Stage.untouched_initial setup settings skill).check_eq] at passed
  have started := settled.attempt_ok loaded starts passed
  cases first.symm.trans started

theorem run_casting (casting : (run r settings lib setup skill).casting = true) :
    ((run r settings lib setup skill).cooldownRemaining == 0) = true := by
  have settled := ((Stage.settled_initial lib setup settings skill).cast (r := r)
    (Stage.untouched_initial setup settings skill).idle).ticks (r := r) setup setup.ticks.toNat
  obtain ⟨a, known, spent⟩ := settled.remaining casting
  unfold run
  dsimp only
  rw [known]
  exact spent

end Run

end Simulation

open Simulation

/-- The report of a simulation follows from its first attempt, for all content that loads, every
skill in it and all options. If the attempt starts a cast, nothing is rejected, and the skill is
cast at least once, and just once unless it is to be cast again. If a gate refuses it, that is all
that is rejected, and nothing is cast. If it fails because the script is missing or does not start,
nothing is cast, and it is rejected once, or once more each tick if it is to be cast again. And if
the report has a cast still running, there is no cooldown left in it. -/
theorem first_attempt_decides_report (openFolder : String → FileTree) (o : Options)
    (content : Content) (skill : Skill)
    (loaded : (o.folder openFolder).load .standard = .ok content)
    (known : content.skill? o.skill = some skill) (room : o.setup.ticks.toNat + 1 < 2 ^ 32) :
    let first := firstAttempt .standard content.settings content.scripts o.setup skill
    ∃ report, simulate openFolder o = .ok report ∧
      (first = .ok () → report.rejected = 0 ∧ 1 ≤ report.casts ∧
        (o.setup.again = false → report.casts = 1)) ∧
      (∀ e, first = .error e → e.IsGate → report.casts = 0 ∧ report.rejected = 1) ∧
      (∀ e, first = .error e → ¬ e.IsGate → report.casts = 0 ∧
        report.rejected.toNat = if o.setup.again then 1 + o.setup.ticks.toNat else 1) ∧
      (report.casting = true → (report.cooldownRemaining == 0) = true) := by
  intro first
  refine ⟨run .standard content.settings content.scripts o.setup skill, ?_, ?_, ?_, ?_, ?_⟩
  · simp only [simulate, loaded, Except.mapError, bind, Except.bind, known]
    rfl
  · intro started
    exact run_started started room
  · intro e failed gate
    exact run_refused failed gate
  · intro e failed late
    refine run_failed failed late ?_ room
    intro script found
    exact fails_of_firstAttempt failed late found
      (ContentFolder.starts_or_fails_of_load loaded found)
  · exact run_casting

def wishFolder : FileTree :=
  .folder [
    ("skills.ron", .file "(skills:[(id:1,name:\"Wish\",script:\"wish\")])".toUTF8),
    ("scripts", .folder [
      ("wish.ron", .file "(tag:\"ConstCond\",attrs:[(\"Value\",\"true\")])".toUTF8)])]

def wishOptions : Options :=
  { dataDir := some "wishes", skill := "Wish", setup := { ticks := 2, again := true } }

def Simulation.Options.firstAttempt? (o : Options) (openFolder : String → FileTree) :
    Option (Except SkillError Unit) := do
  let content ← ((o.folder openFolder).load .standard).toOption
  let skill ← content.skill? o.skill
  return firstAttempt .standard content.settings content.scripts o.setup skill

theorem first_attempt_decides_report_of_wish :
    ∃ report, simulate (fun _ => wishFolder) wishOptions = .ok report ∧ report.casts = 0 ∧
      report.rejected.toNat = 3 := by
  have answer : wishOptions.firstAttempt? (fun _ => wishFolder) =
      some (.error (.agent (.rootNotBehavior "wish" "ConstCond"))) := by
    decide +kernel
  obtain ⟨content, loaded, answer⟩ := Option.bind_eq_some_iff.mp answer
  obtain ⟨skill, known, answer⟩ := Option.bind_eq_some_iff.mp answer
  have loaded : (wishOptions.folder fun _ => wishFolder).load .standard = .ok content := by
    revert loaded
    cases (wishOptions.folder fun _ => wishFolder).load .standard with
    | error e => nofun
    | ok c => exact fun same => congrArg Except.ok (Option.some.inj same)
  obtain ⟨report, simulated, -, -, failed, -⟩ := first_attempt_decides_report
    (fun _ => wishFolder) wishOptions content skill loaded known (by decide)
  exact ⟨report, simulated, failed _ (Option.some.inj answer) id⟩

end SkillScript
