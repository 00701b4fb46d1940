import SkillScript.Proofs.Casting.Cleanup
/-!
# Objects belong to running casts

Casters with different owners share one store of entities, and their calls and the
host's own changes come in any order. A cast gives its tag to the objects that it
spawns, all of them while it runs, and its end removes those and nothing else. So an
object with a tag is always one of a cast that runs, and a caster that runs no cast
owns nothing. Tags come again when the counter of casts has wrapped around, but never
while an object of the earlier cast is left.

Hooks are code of the host. When nodes come to life or end they do no more to the
entities than hosts do; while a behavior runs they may also spawn objects under the
tag of its cast.
-/
set_option autoImplicit false
namespace SkillScript

open Entities (Hosted Grown Unowned handedOut firstSpawned)

/-- What hooks may do while behaviors run. -/
def Scope.GrowsTo (s s' : Scope) : Prop :=
  s'.tag = s.tag ∧ Grown s.tag s.entities s'.entities

def Library.Mannered (lib : Library) : Prop :=
  lib.Obeys (fun s s' => Hosted s.entities s'.entities) Scope.GrowsTo

theorem Library.Mannered.keeps {lib : Library} (mannered : lib.Mannered) (es : Entities) :
    lib.Keeps (Hosted es) :=
  Obeys.keeps mannered fun _ _ hosted before => before.trans hosted

/-- While a tree runs, its store grows by objects of its cast only. -/
theorem survives_grown {hs : List Hooks} {still : Scope → Scope → Prop}
    (obey : ∀ h ∈ hs, h.Obey still Scope.GrowsTo) (tag : CastTag) (es : Entities) :
    Survives (fun s => s.tag = tag ∧ Grown tag es s.entities) hs where
  publish _ _ _ holds := holds
  listeners _ _ holds := holds
  vars _ _ holds := holds
  adjustHealth s id delta holds :=
    ⟨holds.1, holds.2.trans ((Hosted.adjustHealth s.entities id delta).grown tag)⟩
  spawn s kind holds := by
    obtain ⟨rfl, grown⟩ := holds
    exact ⟨rfl, grown.trans (.spawn s.entities s.owner kind s.tag)⟩
  onBegin h member hook present view s holds := by
    obtain ⟨rfl, grown⟩ := holds
    obtain ⟨same, more⟩ := (obey h member).onBegin hook present view s
    exact ⟨same, grown.trans more⟩
  onUpdate h member hook present step view s holds := by
    obtain ⟨rfl, grown⟩ := holds
    obtain ⟨same, more⟩ := (obey h member).onUpdate hook present step view s
    exact ⟨same, grown.trans more⟩

namespace Caster

variable {r : Registry} {lib : Library} {c : Caster} {p : Cast} {w : World} {a : Call}

/-! ## What one call does -/

/-- While a cast goes on, the store grows by its objects only. -/
theorem Sound.grown_wake (sound : c.Sound lib) (mannered : lib.Mannered)
    (running : c.current = some p) (w : World) (a : Call) :
    Grown p.tag w.entities (p.wake w a).entities := by
  have carries := sound.carries p running
  obtain ⟨s, ⟨-, grown⟩, same⟩ := carries.wake_keeps
    (fun name script loaded => survives_grown (mannered name script loaded) p.tag w.entities)
    ⟨carries.branded, .refl _ _⟩ a
  rwa [← same]

/-- What is left when the running cast is over: its objects are gone, no others were made, and no
cast runs or a new one. -/
structure MovesOn (c : Caster) (w : World) (after : Caster × World) : Prop where
  hosted : Hosted w.entities after.2.entities
  unowned : ∀ p, c.current = some p → after.2.entities.Unowned p.tag
  fresh : ∀ p, after.1.current = some p → after.1.casts ≠ c.casts

theorem Sound.movesOn_endCast (sound : c.Sound lib) (mannered : lib.Mannered) (w : World) :
    MovesOn c w (c.endCast w) where
  hosted := sound.endCast_keeps_of_hosted (mannered.keeps _)
    (fun _ _ hosted before => before.trans hosted) (.refl _)
  unowned p running := by
    obtain ⟨_, -, ending⟩ := sound.endCast_eq running w
    have after : Hosted (p.sweep w).entities (p.vacated w).entities :=
      (sound.carries p running).vacated_keeps (mannered.keeps _) (.refl _)
    rw [ending]
    exact after.unowned (p.unowned_sweep w)
  fresh p running := by
    rw [(sound.endCast_ended w).idle] at running
    cases running

/-- The start of a cast makes no objects. -/
theorem hosted_launch (r : Registry) (mannered : lib.Mannered) (skill : Skill) {script : Script}
    (spell : Spell) {name : String} (loaded : lib.find? name = some script) (c : Caster)
    (w : World) : Hosted w.entities (c.launch r skill script spell w).2.2.entities :=
  launch_keeps_of_hosted (mannered.keeps _ name script loaded)
    (fun _ _ hosted before => before.trans hosted) (.refl _)

theorem MovesOn.launch {after : Caster × World} (moves : MovesOn c w after)
    (casts : after.1.casts = c.casts) (mannered : lib.Mannered) {skill : Skill} {script : Script}
    {spell : Spell} {name : String} (loaded : lib.find? name = some script) :
    MovesOn c w (after.1.launch r skill script spell after.2).2 where
  hosted := moves.hosted.trans (hosted_launch r mannered skill spell loaded after.1 after.2)
  unowned p running :=
    (hosted_launch r mannered skill spell loaded after.1 after.2).unowned (moves.unowned p running)
  fresh p _ := by
    rcases launch_cases r skill script spell after.1 after.2 with
      ⟨e, w', -, launched⟩ | ⟨q, w', -, launched⟩
    · rw [launched, ← casts]
      exact succ_ne_self after.1.casts
    · rw [launched, ← casts]
      exact succ_ne_self after.1.casts

/-- A call lets the running cast go on, and the store grows by its objects only, or it moves on from
that cast. -/
theorem Sound.call_effect (sound : c.Sound lib) (mannered : lib.Mannered) (w : World) (a : Call) :
    (∃ p, c.current = some p ∧
      (c.call r lib w a).1 =
        { c with abilities := a.abilities c.abilities, current := some (p.after w a) } ∧
      Grown p.tag w.entities (c.call r lib w a).2.entities) ∨
    MovesOn c w (c.call r lib w a) := by
  have ended := sound.movesOn_endCast mannered w
  rcases sound.call_cases r w a with
    ⟨p, running, goesOn⟩ | ⟨idle, same⟩ | ending | ⟨skill, script, spell, name, loaded, launched⟩
  · left
    rw [goesOn]
    exact ⟨p, running, rfl, sound.grown_wake mannered running w a⟩
  · right
    rw [same]
    refine ⟨.refl _, ?_, ?_⟩
    · intro p running
      rw [idle] at running
      cases running
    · intro p running
      have running : c.current = some p := running
      rw [idle] at running
      cases running
  · right
    rwa [ending]
  · right
    rw [launched]
    exact ended.launch (sound.endCast_ended w).casts mannered loaded

end Caster

/-! ## Casters that share a store -/

/-- A caster with what it was given by the host, and the ids of all objects that were spawned in
its calls since its last cast was started. -/
structure Seat where
  registry : Registry
  library : Library
  caster : Caster
  made : List EntityId := []

structure Arena where
  entities : Entities := .empty
  seats : Table EntityId Seat := ∅

def Seat.call (seat : Seat) (w : World) (a : Caster.Call) : Seat :=
  let after := seat.caster.call seat.registry seat.library w a
  let made := if after.1.casts = seat.caster.casts then seat.made else []
  { seat with caster := after.1, made := made ++ handedOut w.entities after.2.entities }

structure Seat.Fits (owner : EntityId) (seat : Seat) : Prop where
  owner : seat.caster.owner = owner
  sound : seat.caster.Sound seat.library
  mannered : seat.library.Mannered

theorem Seat.fits_new (owner : EntityId) (registry : Registry) {library : Library}
    (mannered : library.Mannered) :
    Fits owner { registry := registry, library := library, caster := { owner := owner } } where
  owner := rfl
  sound := Caster.sound_new library owner
  mannered := mannered

theorem Seat.Fits.call {owner : EntityId} {seat : Seat} (fits : seat.Fits owner) (w : World)
    (a : Caster.Call) : (seat.call w a).Fits owner where
  owner := (fits.sound.owner_call seat.registry w a).trans fits.owner
  sound := fits.sound.call w a
  mannered := fits.mannered

namespace Arena

def called (arena : Arena) (owner : EntityId) (seat : Seat) (w : World) (a : Caster.Call) :
    Arena where
  entities := (seat.caster.call seat.registry seat.library w a).2.entities
  seats := arena.seats.insert owner (seat.call w a)

/-- One step of an arena: a caster joins for an owner that has none, the host changes the store, or
a caster is called in some world with that store. -/
inductive Step : Arena → Arena → Prop where
  | join (arena : Arena) (owner : EntityId) (registry : Registry) (library : Library)
      (free : arena.seats.find? owner = none) (mannered : library.Mannered) :
      Step arena { arena with
        seats := arena.seats.insert owner
          { registry := registry, library := library, caster := { owner := owner } } }
  | host (arena : Arena) (es : Entities) (hosted : Hosted arena.entities es) :
      Step arena { arena with entities := es }
  | call (arena : Arena) (owner : EntityId) (seat : Seat) (w : World) (a : Caster.Call)
      (seated : arena.seats.find? owner = some seat) (shared : w.entities = arena.entities) :
      Step arena (arena.called owner seat w a)

inductive Reachable : Arena → Prop where
  | start : Reachable {}
  | step {arena arena' : Arena} (reachable : Reachable arena) (step : Step arena arena') :
      Reachable arena'

/-- What a running cast has spawned: where one of its objects was, there is still the object or
nothing. -/
def Holds (es : Entities) (tag : CastTag) (made : List EntityId) : Prop :=
  ∀ id ∈ made, es.Spawned id ∧ ∀ e, es.find? id = some e → e.ownerTag = some tag

structure Tidy (arena : Arena) : Prop where
  fits : ∀ owner seat, arena.seats.find? owner = some seat → seat.Fits owner
  numbered : arena.entities.Numbered
  /-- An entity with a tag is an object that the running cast with this tag has spawned. -/
  owned : ∀ id e tag, arena.entities.find? id = some e → e.ownerTag = some tag →
    ∃ owner seat p, arena.seats.find? owner = some seat ∧ seat.caster.current = some p ∧
      p.tag = tag ∧ id ∈ seat.made
  holds : ∀ owner seat p, arena.seats.find? owner = some seat →
    seat.caster.current = some p → Holds arena.entities p.tag seat.made

theorem tidy_start : Tidy {} where
  fits _ _ seated := by cases seated
  numbered _ _ found := by cases found
  owned _ _ _ found := by cases found
  holds _ _ _ seated := by cases seated

variable {arena : Arena} {owner : EntityId} {seat seat' : Seat} {p : Cast} {es es' : Entities}
  {tag tag' : CastTag} {made : List EntityId}

/-- What hosts and casts do to the store leaves the objects of other casts alone. -/
theorem Holds.grown (before : Holds es tag made) (grown : Grown tag' es es')
    (room : es'.spawns + 10000 < 2 ^ 32) : Holds es' tag made := by
  intro id member
  obtain ⟨spawned, same⟩ := before id member
  refine ⟨spawned.mono grown.spawns, ?_⟩
  intro e found
  obtain ⟨e', found', kept⟩ := grown.kept room spawned found
  exact kept.trans (same e' found')

/-- A cast that spawns objects holds those as well. -/
theorem Holds.append (before : Holds es tag made) (numbered : es.Numbered)
    (grown : Grown tag es es') (room : es'.spawns + 10000 < 2 ^ 32) :
    Holds es' tag (made ++ handedOut es es') := by
  intro id member
  rcases List.mem_append.mp member with member | member
  · exact before.grown grown room id member
  · exact ⟨Entities.spawned_of_mem_handedOut member, fun e => grown.owned numbered room member⟩

theorem find?_insert (seats : Table EntityId Seat) (owner other : EntityId) (seat : Seat) :
    (seats.insert owner seat).find? other = if other = owner then some seat else seats.find? other :=
  Table.find?_insert seats owner other seat

theorem fits_insert {seats : Table EntityId Seat}
    (before : ∀ owner seat, seats.find? owner = some seat → seat.Fits owner)
    (fits : seat.Fits owner) :
    ∀ other seat', (seats.insert owner seat).find? other = some seat' → seat'.Fits other := by
  intro other seat' seated
  rw [find?_insert] at seated
  split at seated
  · rename_i here
    cases seated
    exact here ▸ fits
  · exact before other seat' seated

/-- One seat is taken, or what sits there changes, while the store grows. -/
theorem Tidy.reseat (tidy : arena.Tidy) (grown : Grown tag arena.entities es)
    (room : es.spawns + 10000 < 2 ^ 32) (fits : seat.Fits owner)
    (holds : ∀ p, seat.caster.current = some p → Holds es p.tag seat.made)
    (owned : ∀ id e tag, es.find? id = some e → e.ownerTag = some tag →
      (∃ p, seat.caster.current = some p ∧ p.tag = tag ∧ id ∈ seat.made) ∨
        ∃ other seat p, other ≠ owner ∧ arena.seats.find? other = some seat ∧
          seat.caster.current = some p ∧ p.tag = tag ∧ id ∈ seat.made) :
    Tidy { entities := es, seats := arena.seats.insert owner seat } := by
  refine ⟨fits_insert tidy.fits fits, tidy.numbered.grown grown, ?owned, ?holds⟩
  case owned =>
    intro id e tag found tagged
    rcases owned id e tag found tagged with
      ⟨p, running, rfl, member⟩ | ⟨other, seat', p, elsewhere, seated, running, rfl, member⟩
    · exact ⟨owner, seat, p, by rw [find?_insert, if_pos rfl], running, rfl, member⟩
    · exact ⟨other, seat', p, by rw [find?_insert, if_neg elsewhere, seated], running, rfl, member⟩
  case holds =>
    intro other seat' p seated running
    rw [find?_insert] at seated
    split at seated
    · cases seated
      exact holds p running
    · exact (tidy.holds other seat' p seated running).grown grown room

/-! ## Steps -/

theorem Tidy.join (tidy : arena.Tidy) (room : arena.entities.spawns + 10000 < 2 ^ 32)
    (registry : Registry) {library : Library} (free : arena.seats.find? owner = none)
    (mannered : library.Mannered) :
    Tidy { arena with
      seats := arena.seats.insert owner
        { registry := registry, library := library, caster := { owner := owner } } } := by
  refine tidy.reseat (.refl ⟨0⟩ _) room (Seat.fits_new owner registry mannered) ?holds ?owned
  case holds =>
    intro p running
    cases running
  case owned =>
    intro id e tag found owned
    obtain ⟨other, seat, p, seated, rest⟩ := tidy.owned id e tag found owned
    refine Or.inr ⟨other, seat, p, ?_, seated, rest⟩
    rintro rfl
    rw [free] at seated
    cases seated

theorem Tidy.host (tidy : arena.Tidy) (hosted : Hosted arena.entities es)
    (room : es.spawns + 10000 < 2 ^ 32) : Tidy { arena with entities := es } where
  fits := tidy.fits
  numbered := tidy.numbered.grown (hosted.grown ⟨0⟩)
  owned id e tag found owned := by
    obtain ⟨e', found', owned'⟩ := hosted.tagged found owned
    exact tidy.owned id e' tag found' owned'
  holds owner seat p seated running :=
    (tidy.holds owner seat p seated running).grown (hosted.grown ⟨0⟩) room

/-- A call in which the running cast goes on. -/
theorem Tidy.called_of_running (tidy : arena.Tidy) (seated : arena.seats.find? owner = some seat)
    {w : World} (shared : w.entities = arena.entities) (a : Caster.Call)
    (room : (arena.called owner seat w a).entities.spawns + 10000 < 2 ^ 32)
    (running : seat.caster.current = some p)
    (goesOn : (seat.caster.call seat.registry seat.library w a).1 =
      { seat.caster with
        abilities := a.abilities seat.caster.abilities, current := some (p.after w a) })
    (grown : Grown p.tag w.entities
      (seat.caster.call seat.registry seat.library w a).2.entities) :
    Tidy (arena.called owner seat w a) := by
  have made : (seat.call w a).made = seat.made ++ handedOut w.entities
      (seat.caster.call seat.registry seat.library w a).2.entities := by
    simp only [Seat.call, goesOn, if_true]
  have current : (seat.call w a).caster.current = some (p.after w a) := by
    simp only [Seat.call, goesOn]
  rw [shared] at grown made
  refine tidy.reseat grown room ((tidy.fits owner seat seated).call w a) ?holds ?owned
  case holds =>
    intro q running'
    obtain rfl := Option.some.inj (current.symm.trans running')
    rw [made, p.tag_after]
    exact (tidy.holds owner seat p seated running).append tidy.numbered grown room
  case owned =>
    intro id e tag found owned
    rw [made]
    rcases grown.known id e found with (⟨untagged, -⟩ | ⟨e', found', same⟩) | ⟨same, member⟩
    · rw [untagged] at owned
      cases owned
    · obtain ⟨other, seat', q, seated', running', tag, member⟩ :=
        tidy.owned id e' tag found' (same.symm.trans owned)
      by_cases here : other = owner
      · subst here
        rw [seated] at seated'
        cases seated'
        rw [running] at running'
        cases running'
        exact Or.inl ⟨_, current, (p.tag_after w a).trans tag, List.mem_append_left _ member⟩
      · exact Or.inr ⟨other, seat', q, here, seated', running', tag, member⟩
    · rw [same, Option.some.injEq] at owned
      exact Or.inl ⟨_, current, (p.tag_after w a).trans owned, List.mem_append_right _ member⟩

/-- A call after which the cast that ran before, if any, is over. -/
theorem Tidy.called_of_movesOn (tidy : arena.Tidy) (seated : arena.seats.find? owner = some seat)
    {w : World} (shared : w.entities = arena.entities) (a : Caster.Call)
    (room : (arena.called owner seat w a).entities.spawns + 10000 < 2 ^ 32)
    (moves : seat.caster.MovesOn w (seat.caster.call seat.registry seat.library w a)) :
    Tidy (arena.called owner seat w a) := by
  have hosted := moves.hosted
  rw [shared] at hosted
  refine tidy.reseat (hosted.grown ⟨0⟩) room ((tidy.fits owner seat seated).call w a) ?holds ?owned
  case holds =>
    intro p running
    have none : (seat.call w a).made = [] := by
      simp only [Seat.call, if_neg (moves.fresh p running),
        Entities.handedOut_eq_nil moves.hosted.spawns, List.append_nil]
    rw [none]
    exact fun id member => absurd member List.not_mem_nil
  case owned =>
    intro id e tag found owned
    obtain ⟨e', found', owned'⟩ := hosted.tagged found owned
    obtain ⟨other, seat', q, seated', running, rfl, member⟩ := tidy.owned id e' tag found' owned'
    refine Or.inr ⟨other, seat', q, ?_, seated', running, rfl, member⟩
    rintro rfl
    rw [seated] at seated'
    cases seated'
    exact moves.unowned q running id e found owned

theorem Tidy.called (tidy : arena.Tidy) (seated : arena.seats.find? owner = some seat)
    {w : World} (shared : w.entities = arena.entities) (a : Caster.Call)
    (room : (arena.called owner seat w a).entities.spawns + 10000 < 2 ^ 32) :
    Tidy (arena.called owner seat w a) := by
  have fits := tidy.fits owner seat seated
  rcases fits.sound.call_effect fits.mannered w a with ⟨p, running, goesOn, grown⟩ | moves
  · exact tidy.called_of_running seated shared a room running goesOn grown
  · exact tidy.called_of_movesOn seated shared a room moves

/-! ## Runs -/

theorem Reachable.fits (reachable : arena.Reachable) :
    ∀ owner seat, arena.seats.find? owner = some seat → seat.Fits owner := by
  induction reachable with
  | start =>
    intro owner seat seated
    cases seated
  | step _ step ih =>
    cases step with
    | join owner registry library _ mannered =>
      exact fits_insert ih (Seat.fits_new owner registry mannered)
    | host => exact ih
    | call owner seat w a seated _ => exact fits_insert ih ((ih owner seat seated).call w a)

/-- Numbers of objects are never taken back. -/
theorem Step.spawns_le {arena' : Arena} (reachable : arena.Reachable) (step : Step arena arena') :
    arena.entities.spawns ≤ arena'.entities.spawns := by
  cases step with
  | join => exact Nat.le_refl _
  | host es hosted => exact Nat.le_of_eq hosted.spawns.symm
  | call owner seat w a seated shared =>
    have fits := reachable.fits owner seat seated
    rw [← shared]
    rcases fits.sound.call_effect fits.mannered w a (r := seat.registry) with
      ⟨p, -, -, grown⟩ | moves
    · exact grown.spawns
    · exact Nat.le_of_eq moves.hosted.spawns.symm

theorem Reachable.tidy (reachable : arena.Reachable)
    (room : arena.entities.spawns + 10000 < 2 ^ 32) : arena.Tidy := by
  induction reachable with
  | start => exact tidy_start
  | step before step ih =>
    have less := step.spawns_le before
    have tidy := ih (by omega)
    cases step with
    | join owner registry library free mannered => exact tidy.join room registry free mannered
    | host es hosted => exact tidy.host hosted room
    | call owner seat w a seated shared => exact tidy.called seated shared a room

/-! ## The end of a cast -/

/-- The objects of a running cast are what it has spawned, as far as that is still there. -/
theorem Tidy.tag_iff_made (tidy : arena.Tidy) (seated : arena.seats.find? owner = some seat)
    (running : seat.caster.current = some p) {id : EntityId} {e : Entity}
    (found : arena.entities.find? id = some e) :
    e.ownerTag = some p.tag ↔ id ∈ seat.made := by
  constructor
  · intro owned
    obtain ⟨other, seat', q, seated', running', same, member⟩ := tidy.owned id e _ found owned
    have fits := tidy.fits owner seat seated
    have fits' := tidy.fits other seat' seated'
    rw [(fits.sound.carries p running).tag, (fits'.sound.carries q running').tag,
      CastTag.forCast_inj, fits.owner, fits'.owner] at same
    obtain ⟨rfl, -⟩ := same
    rw [seated] at seated'
    cases seated'
    exact member
  · intro member
    exact (tidy.holds owner seat p seated running id member).2 e found

theorem Tidy.exists?_sweep (tidy : arena.Tidy) (seated : arena.seats.find? owner = some seat)
    (running : seat.caster.current = some p) {w : World} (shared : w.entities = arena.entities)
    (id : EntityId) :
    (p.sweep w).entities.exists? id = (arena.entities.exists? id && id ∉ seat.made) := by
  rw [p.exists?_sweep, Entities.exists?, shared]
  cases found : arena.entities.find? id with
  | none => rfl
  | some e =>
    have tag := tidy.tag_iff_made seated running found
    by_cases member : id ∈ seat.made
    · have owned : Entities.isOwnedBy p.tag e = true := by simp [Entities.isOwnedBy, tag, member]
      simp [owned, member]
    · have other : Entities.isOwnedBy p.tag e = false := by simp [Entities.isOwnedBy, tag, member]
      simp [other, member]

/-- Objects never leak, and no other cast releases them. Casters with different owners share a
store; their calls, the host's changes, and other casters that join come in any order, and fewer
objects are spawned than there are ids for them. Then every entity with a tag is an object of a
running cast with this tag; a caster that runs no cast owns nothing, whatever tags it has used. When
a cast ends, what it has spawned and what is still there of that is gone, and nothing else: before
its agent is disposed of, and afterwards as well, unless hooks do as hosts do. -/
theorem objects_belong_to_running_casts (arena : Arena) (reachable : arena.Reachable)
    (room : arena.entities.spawns + 10000 < 2 ^ 32) :
    (∀ id e tag, arena.entities.find? id = some e → e.ownerTag = some tag →
      ∃ owner seat p, arena.seats.find? owner = some seat ∧ seat.caster.current = some p ∧
        p.tag = tag ∧ tag = .forCast owner seat.caster.casts) ∧
    (∀ owner seat, arena.seats.find? owner = some seat → seat.caster.isCasting = false →
      ∀ n, arena.entities.Unowned (.forCast owner n)) ∧
    ∀ owner seat p w, arena.seats.find? owner = some seat → seat.caster.current = some p →
      w.entities = arena.entities →
      (∀ id, (p.sweep w).entities.exists? id =
        (arena.entities.exists? id && id ∉ seat.made)) ∧
      (∀ id, id ∉ seat.made → id ≠ owner →
        (p.sweep w).entities.find? id = arena.entities.find? id) ∧
      (seat.caster.endCast w).2 = p.vacated w ∧
      Hosted (p.sweep w).entities (p.vacated w).entities ∧
      ((seat.library.Keeps fun es => es = (p.sweep w).entities) →
        (p.vacated w).entities = (p.sweep w).entities) := by
  have tidy := reachable.tidy room
  have runs : ∀ id e tag, arena.entities.find? id = some e → e.ownerTag = some tag →
      ∃ owner seat p, arena.seats.find? owner = some seat ∧ seat.caster.current = some p ∧
        p.tag = tag ∧ tag = .forCast owner seat.caster.casts := by
    intro id e tag found owned
    obtain ⟨owner, seat, p, seated, running, rfl, -⟩ := tidy.owned id e tag found owned
    have fits := tidy.fits owner seat seated
    exact ⟨owner, seat, p, seated, running, rfl, by
      rw [(fits.sound.carries p running).tag, fits.owner]⟩
  refine ⟨runs, ?idle, ?ends⟩
  case idle =>
    intro owner seat seated idle n id e found owned
    obtain ⟨other, seat', p, seated', running, -, same⟩ := runs id e _ found owned
    obtain ⟨rfl, -⟩ := CastTag.forCast_inj.mp same
    rw [seated] at seated'
    cases seated'
    rw [Caster.isCasting, running] at idle
    cases idle
  case ends =>
    intro owner seat p w seated running shared
    have fits := tidy.fits owner seat seated
    have carries := fits.sound.carries p running
    refine ⟨tidy.exists?_sweep seated running shared, ?others, ?_, ?_, ?_⟩
    case others =>
      intro id away other
      have other : id ≠ p.owner := by rwa [carries.owner, fits.owner]
      rw [p.find?_sweep w other, shared]
      cases found : arena.entities.find? id with
      | none => rfl
      | some e =>
        have tag := tidy.tag_iff_made seated running found
        simp [Entities.isOwnedBy, tag, away]
    · obtain ⟨_, -, ending⟩ := fits.sound.endCast_eq running w
      rw [ending]
      rfl
    · exact carries.vacated_keeps (fits.mannered.keeps _) (.refl _)
    · exact fun kept => carries.vacated_keeps kept rfl

def act (arena : Arena) (owner : EntityId) (a : Caster.Call) : Arena :=
  match arena.seats.find? owner with
  | none => arena
  | some seat => arena.called owner seat { entities := arena.entities } a

theorem Reachable.act (reachable : arena.Reachable) (owner : EntityId) (a : Caster.Call) :
    (arena.act owner a).Reachable := by
  rw [Arena.act]
  split
  · exact reachable
  · rename_i seat seated
    exact .step reachable (.call arena owner seat _ a seated rfl)

def orbScript : Script :=
  ⟨"orb", Build.behavior .spawnOwned (.deed (.spawnOwned "orb" none))⟩

def orbRegistry : Registry :=
  (Registry.empty.registerType (.behavior .spawnOwned)).2

def orb : Skill :=
  { id := ⟨5⟩, name := "orb", script := "orb" }

def orbLibrary : Library :=
  Table.ofList [("orb", orbScript)]

def orbStart : Arena where
  entities := (Entities.empty.insert ⟨1⟩ (.actor 100 .origin)).insert ⟨2⟩ (.actor 100 .origin)
  seats := ((∅ : Table EntityId Seat).insert ⟨1⟩
    { registry := orbRegistry, library := orbLibrary, caster := { owner := ⟨1⟩ } }).insert ⟨2⟩
    { registry := orbRegistry, library := orbLibrary, caster := { owner := ⟨2⟩ } }

def orbArena : Arena :=
  ((orbStart.act ⟨1⟩ (.learn orb)).act ⟨1⟩ (.trySpell ⟨5⟩ {})).act ⟨1⟩ (.update 1)

theorem orbLibrary_mannered : orbLibrary.Mannered :=
  Library.obeys_of_single "orb" rfl _ _

theorem orbStart_reachable : orbStart.Reachable := by
  have host (arena : Arena) (reachable : arena.Reachable) (id : EntityId)
      (below : id.index < firstSpawned) :
      Reachable { arena with entities := arena.entities.insert id (.actor 100 .origin) } :=
    .step reachable (.host arena _ (.insert _ rfl below))
  have first := host _ (host _ .start ⟨1⟩ (by decide)) ⟨2⟩ (by decide)
  have joined := Reachable.step first (.join _ ⟨1⟩ orbRegistry orbLibrary rfl orbLibrary_mannered)
  exact .step joined (.join _ ⟨2⟩ orbRegistry orbLibrary rfl orbLibrary_mannered)

theorem orbArena_reachable : orbArena.Reachable :=
  ((orbStart_reachable.act _ _).act _ _).act _ _

theorem objects_belong_to_running_casts_of_orb :
    ∃ seat p, orbArena.seats.find? ⟨1⟩ = some seat ∧ seat.caster.current = some p ∧
      seat.made = [⟨10000⟩] ∧ orbArena.entities.exists? ⟨10000⟩ = true ∧
      (∀ n, orbArena.entities.Unowned (.forCast ⟨2⟩ n)) ∧
      (p.sweep { entities := orbArena.entities }).entities.exists? ⟨10000⟩ = false ∧
      (p.sweep { entities := orbArena.entities }).entities.exists? ⟨1⟩ = true := by
  obtain ⟨-, idle, ends⟩ := objects_belong_to_running_casts orbArena orbArena_reachable
    (by decide +kernel)
  have swept := (ends ⟨1⟩ _ _ { entities := orbArena.entities } rfl rfl rfl).1
  refine ⟨_, _, rfl, rfl, rfl, rfl, ?_, ?_, ?_⟩
  · exact idle ⟨2⟩ _ rfl rfl
  · rw [swept]
    decide +kernel
  · rw [swept]
    decide +kernel

end Arena

end SkillScript
