import SkillScript.Proofs.Casting.Agents
import SkillScript.Proofs.Events.Attendance
import SkillScript.Script.Build
/-!
# Subscriptions follow activity

Any number of agents share one bus with a host that subscribes and gives its receivers
back as it likes. At every moment the receivers of a name are those of the host and
one for each active sensor of an agent that listens to the name. So once all agents
are disposed of, in the middle of whatever they were doing, only the host is left.
-/
set_option autoImplicit false
namespace SkillScript

def SameGuests (s s' : Scope) : Prop :=
  s'.bus.guests = s.bus.guests

def Hooks.Aloof (h : Hooks) : Prop :=
  h.Obey SameGuests SameGuests

def Script.Discreet (s : Script) : Prop :=
  ∀ h ∈ s.root.hooks, h.Discreet

def Script.Aloof (s : Script) : Prop :=
  ∀ h ∈ s.root.hooks, h.Aloof

theorem Hooks.Aloof.keep {h : Hooks} (aloof : h.Aloof) (s : Scope) : h.Keep (SameGuests s) where
  onInitialize hook present view s' same := (aloof.onInitialize hook present view s').trans same
  onDestroy hook present view s' same := (aloof.onDestroy hook present view s').trans same

theorem survives_guests {hs : List Hooks} (aloof : ∀ h ∈ hs, h.Aloof) (s : Scope) :
    Survives (SameGuests s) hs where
  publish _ _ _ same := same
  vars _ _ same := same
  adjustHealth _ _ _ same := same
  spawn _ _ same := same
  listeners _ _ same := same
  onBegin h member hook present view s' same :=
    ((aloof h member).onBegin hook present view s').trans same
  onUpdate h member hook present step view s' same :=
    ((aloof h member).onUpdate hook present step view s').trans same

theorem Context.guests_eq_of_mute {ctx ctx' : Context} (same : ctx.mute = ctx'.mute) :
    ctx.bus.guests = ctx'.bus.guests := by
  have parts : ctx.mute.bus.guests = ctx'.mute.bus.guests := by rw [same]
  exact parts

namespace Agent

instance hearing : Hearing Agent where
  Attuned a := ∀ t ∈ a.tree, Attuned t.root
  heard name a := a.tree.elim 0 fun t => heard name t.root

/-- Next to some others, the nodes that listen to the bus are the active sensors of the agent. -/
structure Tuned (others : String → Nat) (p : Agent × World) : Prop where
  attuned : Attuned p.1
  counted : ∀ name, p.2.bus.listeners.count name = others name + heard name p.1

variable {r : Registry} {script : Script} {owner : EntityId} {tag : CastTag} {vars : Vars}
  {w w' : World} {a : Agent} {e : AgentError} {others : String → Nat}

/-- An agent with a tree is in tune if its root attends to the bus. -/
theorem Tuned.of_root {height : Nat} {b : Behavior height} {ctx : Context} {p : Agent × World}
    (attends : Attends others (b, ctx)) (planted : p.1.tree = some ⟨height, b⟩)
    (there : p.2 = ctx.toWorld) : Tuned others p := by
  refine ⟨?_, fun name => ?_⟩
  · intro t tree
    rw [planted] at tree
    cases tree
    exact attends.attuned
  · simp only [heard, planted, there]
    exact attends.counted name

theorem created_listeners (r : Registry) (discreet : script.Discreet) (owner : EntityId)
    (tag : CastTag) (vars : Vars) (w : World) :
    (created r script owner tag vars w).2.bus.listeners = w.bus.listeners :=
  (created_confined r script owner tag vars w).keeps _
    (fun h member => (discreet h member).keep _) rfl

theorem init_tuned (discreet : script.Discreet)
    (started : init r script owner tag vars w = (.ok a, w')) :
    Tuned w.bus.listeners.count (a, w') := by
  obtain ⟨b, ctx, made, settled⟩ := init_ok started
  have same := created_listeners r discreet owner tag vars w
  have hooked := (created_confined r script owner tag vars w).made
  have begun := fit_begun (behavior_fresh true) (create_begun true r script.root.height
    ((blank script owner tag vars).context w) script.root)
  have made' : created r script owner tag vars w = (some b, ctx) := made
  rw [made'] at same hooked
  rw [made] at begun
  obtain ⟨resting, orderly⟩ := begun.fresh b rfl
  have silent : Silent b := by
    refine Behaves.Heeding.silent orderly resting fun h member => discreet h (hooked ?_)
    simpa using member
  have entered := Behaves.heeds_enter b _ ctx (silent.attends ctx)
  rw [same] at entered
  rw [settled]
  exact .of_root entered rfl rfl

/-- An agent that does not start leaves no receiver behind. -/
theorem init_error_listeners (discreet : script.Discreet)
    (failed : init r script owner tag vars w = (.error e, w')) :
    w'.bus.listeners = w.bus.listeners := by
  rcases init_error failed with ⟨-, rfl⟩ | ⟨-, rfl⟩
  · rfl
  · exact created_listeners r discreet owner tag vars w

theorem Tuned.call (tuned : Tuned others (a, w)) (c : Call) : Tuned others (a.call w c) := by
  cases tree : a.tree with
  | none =>
    have idle : a.call w c = (a, w) := by
      cases c <;> simp [Agent.call, trigger, update, dispose, tree]
    rw [idle]
    exact tuned
  | some t =>
    have attends : Attends others (t.root, a.context w) := by
      refine ⟨tuned.attuned t tree, fun name => ?_⟩
      have counted := tuned.counted name
      simp only [heard, tree] at counted
      exact counted
    cases c with
    | trigger tag payload =>
      have triggered : Attends others (Behaves.onTrigger tag t.root, a.context w) :=
        attends.alike (Behaves.Heeding.hearsAlike_onTrigger tag t.root) rfl
      simp only [Agent.call, trigger, tree]
      exact .of_root triggered rfl rfl
    | update step =>
      simp only [Agent.call, update, tree]
      exact .of_root (Behaves.Heeding.heeds_update step t.root others _ attends) rfl rfl
    | dispose =>
      have rested := Behaves.Heeding.heeds_deactivate t.root others _ attends
      simp only [Agent.call, dispose, tree]
      exact ⟨fun t held => absurd held (Option.not_mem_none t),
        Behaves.Heeding.clears_release _ others _ rested⟩

theorem init_guests (r : Registry) (aloof : script.Aloof) (owner : EntityId) (tag : CastTag)
    (vars : Vars) (w : World) :
    (init r script owner tag vars w).2.bus.guests = w.bus.guests := by
  have same := (created_confined r script owner tag vars w).keeps _
    (fun h member => (aloof h member).keep _) rfl
  rcases result : init r script owner tag vars w with ⟨_ | a, w'⟩
  · rcases init_error result with ⟨-, rfl⟩ | ⟨-, rfl⟩
    · rfl
    · exact same
  · obtain ⟨b, ctx, made, settled⟩ := init_ok result
    have made' : created r script owner tag vars w = (some b, ctx) := made
    rw [made'] at same
    obtain ⟨-, rfl⟩ := Prod.mk.inj settled
    exact (Context.guests_eq_of_mute (Behaves.mute_enter ctx b)).trans same

theorem call_guests (aloof : ∀ h ∈ a.hooks, h.Aloof) (w : World) (c : Call) :
    (a.call w c).2.bus.guests = w.bus.guests := by
  cases tree : a.tree with
  | none => cases c <;> simp [call, trigger, update, dispose, tree]
  | some t =>
    simp only [hooks, tree] at aloof
    cases c with
    | trigger tag payload => simp [call, trigger, tree]
    | update step =>
      simp only [call, update, tree]
      exact Effective.update_keeps step (a.context w) t.root
        (survives_guests aloof (a.context w).toScope) rfl
    | dispose =>
      have rested := Context.guests_eq_of_mute
        (Behaves.Quiet.mute_deactivate (a.context w) t.root)
      have same := Holding.hooks_congr (Lasting.pristine_deactivate (a.context w) t.root)
      simp only [call, dispose, tree]
      refine Holding.release_keeps (I := SameGuests (a.context w).toScope) _ _ ⟨?_, ?_⟩ rested
      · intro h member
        rw [same] at member
        exact (aloof h member).keep _
      · intro receiver _ scope guests
        exact guests

end Agent

section Lists

variable {α : Type} [Hearing α] {l : List α} {i : Nat} {a : α}

theorem heard_eraseIdx (found : l[i]? = some a) (name : String) :
    heard name l = heard name a + heard name (l.eraseIdx i) := by
  induction l generalizing i with
  | nil => cases found
  | cons b rest ih =>
    cases i with
    | zero =>
      cases found
      rfl
    | succ i =>
      have counted := ih found
      rw [List.eraseIdx_cons_succ, heard_cons, heard_cons]
      omega

theorem heard_set (found : l[i]? = some a) (b : α) (name : String) :
    heard name (l.set i b) = heard name b + heard name (l.eraseIdx i) := by
  have placed : (l.set i b)[i]? = some b := by
    rw [List.getElem?_set_self (List.getElem?_eq_some_iff.mp found).1]
  rw [heard_eraseIdx placed, List.eraseIdx_set_eq]

end Lists

theorem Bus.name_receive (bus : Bus) (receiver : Receiver) :
    (bus.receive receiver).2.name = receiver.name := by
  simp only [receive]
  split
  · split <;> rfl
  · rfl

/-- A world with the agents that run in it and the receivers that the host has asked for. -/
structure Stage where
  world : World
  agents : List Agent := []
  held : List Receiver := []

namespace Stage

inductive Act where
  | init (r : Registry) (script : Script) (owner : EntityId) (tag : CastTag) (vars : Vars)
  | call (position : Nat) (call : Agent.Call)
  | subscribe (name : String)
  | unsubscribe (position : Nat)
  | receive (position : Nat)
  | publish (event : Event)
  /-- The host changes the entities or the settings. -/
  | change (entities : Entities) (settings : Settings)

def Act.Discreet : Act → Prop
  | init _ script _ _ _ => script.Discreet
  | _ => True

def Act.Aloof : Act → Prop
  | init _ script _ _ _ => script.Aloof
  | _ => True

def init (s : Stage) (r : Registry) (script : Script) (owner : EntityId) (tag : CastTag)
    (vars : Vars) : Stage :=
  match Agent.init r script owner tag vars s.world with
  | (.ok a, w) => { s with world := w, agents := a :: s.agents }
  | (.error _, w) => { s with world := w }

def call (s : Stage) (position : Nat) (c : Agent.Call) : Stage :=
  match s.agents[position]? with
  | none => s
  | some a =>
    let (a, w) := a.call s.world c
    { s with world := w, agents := s.agents.set position a }

def setBus (s : Stage) (bus : Bus) : Stage :=
  { s with world.bus := bus }

def subscribe (s : Stage) (name : String) : Stage :=
  let (receiver, bus) := s.world.bus.welcome name
  { s.setBus bus with held := receiver :: s.held }

def unsubscribe (s : Stage) (position : Nat) : Stage :=
  match s.held[position]? with
  | none => s
  | some receiver =>
    { s.setBus (s.world.bus.dismiss receiver) with held := s.held.eraseIdx position }

def receive (s : Stage) (position : Nat) : Stage :=
  { s with held := s.held.modify position fun receiver => (s.world.bus.receive receiver).2 }

def act (s : Stage) : Act → Stage
  | .init r script owner tag vars => s.init r script owner tag vars
  | .call position c => s.call position c
  | .subscribe name => s.subscribe name
  | .unsubscribe position => s.unsubscribe position
  | .receive position => s.receive position
  | .publish event => s.setBus (s.world.bus.send event).2
  | .change entities settings =>
    { s with world := { s.world with entities := entities, settings := settings } }

def run (s : Stage) : List Act → Stage
  | [] => s
  | a :: rest => (s.act a).run rest

/-- How many live receivers of a name are the host's, those included that its hooks have asked
for. -/
def hosted (s : Stage) (name : String) : Nat :=
  s.world.bus.guests.count name

def heard (s : Stage) (name : String) : Nat :=
  SkillScript.heard name s.agents

structure Balanced (s : Stage) : Prop where
  attuned : Attuned s.agents
  counted : ∀ name, s.world.bus.listeners.count name = s.heard name

namespace Balanced

variable {s : Stage}

theorem init (balanced : s.Balanced) (r : Registry) {script : Script}
    (discreet : script.Discreet) (owner : EntityId) (tag : CastTag) (vars : Vars) :
    (s.init r script owner tag vars).Balanced := by
  unfold Stage.init
  split
  · rename_i a w started
    have tuned := Agent.init_tuned discreet started
    refine ⟨List.forall_mem_cons.mpr ⟨tuned.attuned, balanced.attuned⟩, fun name => ?_⟩
    have before := balanced.counted name
    have after := tuned.counted name
    simp only [heard, heard_cons] at before after ⊢
    omega
  · rename_i e w failed
    refine ⟨balanced.attuned, fun name => ?_⟩
    have same := Agent.init_error_listeners discreet failed
    exact (congrArg (List.count name) same).trans (balanced.counted name)

theorem call (balanced : s.Balanced) (position : Nat) (c : Agent.Call) :
    (s.call position c).Balanced := by
  unfold Stage.call
  split
  · exact balanced
  · rename_i a found
    have others : Agent.Tuned
        (fun name => SkillScript.heard name (s.agents.eraseIdx position)) (a, s.world) := by
      refine ⟨balanced.attuned a (List.mem_of_getElem? found), fun name => ?_⟩
      rw [Nat.add_comm, ← heard_eraseIdx found]
      exact balanced.counted name
    have called := others.call c
    refine ⟨?_, fun name => ?_⟩
    · intro b member
      rcases List.mem_or_eq_of_mem_set member with old | rfl
      · exact balanced.attuned b old
      · exact called.attuned
    · rw [heard, heard_set found, Nat.add_comm]
      exact called.counted name

theorem unsubscribe (balanced : s.Balanced) (position : Nat) :
    (s.unsubscribe position).Balanced := by
  unfold Stage.unsubscribe
  split
  · exact balanced
  · exact ⟨balanced.attuned, balanced.counted⟩

theorem act (balanced : s.Balanced) (a : Act) (discreet : a.Discreet) : (s.act a).Balanced := by
  cases a with
  | init r script owner tag vars => exact balanced.init r discreet owner tag vars
  | call position c => exact balanced.call position c
  | unsubscribe position => exact balanced.unsubscribe position
  | _ => exact ⟨balanced.attuned, balanced.counted⟩

theorem run (balanced : s.Balanced) {acts : List Act} (discreet : ∀ a ∈ acts, a.Discreet) :
    (s.run acts).Balanced := by
  induction acts generalizing s with
  | nil => exact balanced
  | cons a rest ih =>
    obtain ⟨first, later⟩ := List.forall_mem_cons.mp discreet
    exact ih (balanced.act a first) later

end Balanced

/-- No hook has to do with the receivers of the host, which are those that it holds. -/
structure Homely (s : Stage) : Prop where
  aloof : ∀ a ∈ s.agents, ∀ h ∈ a.hooks, h.Aloof
  held : s.world.bus.guests.Perm (s.held.map (·.name))

namespace Homely

variable {s : Stage}

theorem init (homely : s.Homely) (r : Registry) {script : Script} (aloof : script.Aloof)
    (owner : EntityId) (tag : CastTag) (vars : Vars) :
    (s.init r script owner tag vars).Homely := by
  have same := Agent.init_guests r aloof owner tag vars s.world
  unfold Stage.init
  split
  · rename_i a w started
    rw [started] at same
    refine ⟨List.forall_mem_cons.mpr ⟨?_, homely.aloof⟩, same ▸ homely.held⟩
    exact fun h member => aloof h (Agent.hooks_init started member)
  · rename_i e w failed
    rw [failed] at same
    exact ⟨homely.aloof, same ▸ homely.held⟩

theorem call (homely : s.Homely) (position : Nat) (c : Agent.Call) :
    (s.call position c).Homely := by
  unfold Stage.call
  split
  · exact homely
  · rename_i a found
    have aloof := homely.aloof a (List.mem_of_getElem? found)
    have same := Agent.call_guests aloof s.world c
    refine ⟨?_, same ▸ homely.held⟩
    intro b member
    rcases List.mem_or_eq_of_mem_set member with old | rfl
    · exact homely.aloof b old
    · exact fun h inside => aloof h (Agent.hooks_call s.world a c inside)

theorem unsubscribe (homely : s.Homely) (position : Nat) : (s.unsubscribe position).Homely := by
  unfold Stage.unsubscribe
  split
  · exact homely
  · rename_i receiver found
    refine ⟨homely.aloof, ?_⟩
    obtain ⟨bound, there⟩ := List.getElem?_eq_some_iff.mp found
    have apart := homely.held.trans
      ((List.getElem_cons_eraseIdx_perm bound).symm.map (·.name))
    rw [there] at apart
    have dropped := apart.erase receiver.name
    rwa [List.map_cons, List.erase_cons_head] at dropped

theorem receive (homely : s.Homely) (position : Nat) : (s.receive position).Homely := by
  refine ⟨homely.aloof, ?_⟩
  have same : (s.receive position).held.map (·.name) = s.held.map (·.name) :=
    map_modify (fun receiver => Bus.name_receive ..) position s.held
  rw [same]
  exact homely.held

theorem act (homely : s.Homely) (a : Act) (aloof : a.Aloof) : (s.act a).Homely := by
  cases a with
  | init r script owner tag vars => exact homely.init r aloof owner tag vars
  | call position c => exact homely.call position c
  | subscribe name => exact ⟨homely.aloof, homely.held.cons name⟩
  | unsubscribe position => exact homely.unsubscribe position
  | receive position => exact homely.receive position
  | publish event => exact ⟨homely.aloof, homely.held⟩
  | change entities settings => exact ⟨homely.aloof, homely.held⟩

theorem run (homely : s.Homely) {acts : List Act} (aloof : ∀ a ∈ acts, a.Aloof) :
    (s.run acts).Homely := by
  induction acts generalizing s with
  | nil => exact homely
  | cons a rest ih =>
    obtain ⟨first, later⟩ := List.forall_mem_cons.mp aloof
    exact ih (homely.act a first) later

end Homely

/-- Agents that are disposed of do not listen. -/
theorem heard_of_disposed {s : Stage} (disposed : ∀ a ∈ s.agents, a.isDisposed = true)
    (name : String) : s.heard name = 0 := by
  have silent : Silent s.agents := Silent.list fun a member => by
    have gone : a.tree = none := by simpa [Agent.isDisposed] using disposed a member
    refine ⟨fun t tree => ?_, fun name => ?_⟩
    · rw [gone] at tree
      cases tree
    · simp only [SkillScript.heard, gone]
      rfl
  exact silent.unheard name

end Stage

/-- Whatever agents and host do on one bus, at every moment the receivers of a name are those of
the host and one for each active sensor of an agent that listens to the name, and a publication
reaches exactly these. Once every agent is disposed of, whatever it was doing, only the receivers
of the host are left. Hooks cannot get at the receivers of nodes; if they do not subscribe for the
host either, its receivers are those that it holds. -/
theorem subscriptions_follow_activity (w : World) (acts : List Stage.Act)
    (unused : w.bus.listeners = [] ∧ w.bus.guests = []) (discreet : ∀ a ∈ acts, a.Discreet) :
    let s := Stage.run { world := w } acts
    (∀ name, s.world.bus.receivers name = s.hosted name + s.heard name) ∧
    (∀ event, (s.world.bus.send event).1 = s.hosted event.name + s.heard event.name) ∧
    ((∀ a ∈ s.agents, a.isDisposed = true) →
      ∀ name, s.world.bus.receivers name = s.hosted name) ∧
    ((∀ a ∈ acts, a.Aloof) → s.world.bus.guests.Perm (s.held.map (·.name))) := by
  obtain ⟨noListeners, noGuests⟩ := unused
  have beginning : Stage.Balanced { world := w } := by
    refine ⟨nofun, fun name => ?_⟩
    rw [noListeners]
    rfl
  have balanced := beginning.run discreet
  have counted (name : String) : (Stage.run { world := w } acts).world.bus.receivers name =
      (Stage.run { world := w } acts).hosted name + (Stage.run { world := w } acts).heard name := by
    rw [Bus.receivers, balanced.counted, Nat.add_comm]
    rfl
  refine ⟨counted, fun event => counted event.name, fun disposed name => ?_, fun aloof => ?_⟩
  · rw [counted, Stage.heard_of_disposed disposed, Nat.add_zero]
  · have home : Stage.Homely { world := w } := by
      refine ⟨nofun, ?_⟩
      rw [noGuests]
      exact .nil
    exact (home.run aloof).held

def watchScript : Script :=
  let alarm := Build.transition { condition := some (Build.event "alarm"), onTrue := some "watch" }
  ⟨"watch", Build.fsm "watch" [{ id := "watch", transitions := [alarm] }]⟩

def watchRegistry : Registry :=
  let types : List NodeType := [.behavior .fsm, .state, .transition, .condition .event]
  types.foldl (fun r type => (r.registerType type).2) .empty

def watchActs : List Stage.Act :=
  [.subscribe "alarm", .init watchRegistry watchScript ⟨0⟩ ⟨0⟩ ∅]

theorem subscriptions_follow_activity_of_watch :
    (∀ a ∈ watchActs, a.Discreet) ∧
    (Stage.run { world := {} } watchActs).world.bus.receivers "alarm" = 2 ∧
    (Stage.run { world := {} } (watchActs ++ [.call 0 .dispose])).world.bus.receivers "alarm" =
      1 := by
  have discreet : ∀ a ∈ watchActs ++ [.call 0 .dispose], a.Discreet := by
    have still : watchScript.Discreet := nofun
    simp [watchActs, Stage.Act.Discreet, still]
  have begun : ∀ a ∈ watchActs, a.Discreet :=
    fun a member => discreet a (List.mem_append_left _ member)
  have watching := subscriptions_follow_activity {} watchActs ⟨rfl, rfl⟩ begun
  have disposed := subscriptions_follow_activity {} (watchActs ++ [.call 0 .dispose]) ⟨rfl, rfl⟩
    discreet
  have gone : (Stage.run { world := {} } (watchActs ++ [.call 0 .dispose])).agents.all
      (·.isDisposed) = true := rfl
  exact ⟨begun, (watching.1 "alarm").trans rfl,
    (disposed.2.2.1 (List.all_eq_true.mp gone) "alarm").trans rfl⟩

end SkillScript
