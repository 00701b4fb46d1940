import Mathlib.Data.List.Perm.Basic
import SkillScript.Proofs.Census.Calls
import SkillScript.Proofs.Census.Create
import SkillScript.Script.Build
/-!
# The ledger of a host

A host creates nodes of any sort from any configurations, calls them while they
live, lets its world change, and releases them. At every moment the count of live
nodes is that of the trees it holds, no release found the account empty, and the
numbers of the behaviors that have ended and of those in the trees it holds are all
numbers given out, each of them once. Agents are hosts with one tree.
-/
set_option autoImplicit false
namespace SkillScript

open Census (Grows numbers)

namespace Handle

theorem create?_grows (r : Registry) (ctx : Context) (slot : Option Slot) (c : Config) :
    Grows ctx.toCensus (create? r ctx slot c).2.toCensus
      ((create? r ctx slot c).1.toList.flatMap labels) := by
  unfold create?
  refine fit_grows (fun n h fits => ?_) (create_grows r c.height .root ctx c)
  split at fits
  · cases fits
    rfl
  · cases fits

theorem toCensus_release (ctx : Context) (height : Nat) (n : AnyNode (Behavior height)) :
    (release ctx (live height n)).toCensus = ctx.toCensus.settle (live height n).labels := by
  have settled := n.toCensus_release .root ctx
  cases n <;> exact settled

@[simp]
theorem isLive_live (height : Nat) (n : AnyNode (Behavior height)) :
    (live height n).status.isLive = true := by
  unfold status
  dsimp only
  split <;> rfl

theorem live_of_isLive {h : Handle} (alive : h.status.isLive = true) :
    ∃ height n, h = live height n := by
  cases h with
  | live height n => exact ⟨height, n, rfl⟩
  | _ => cases alive

theorem create?_isLive (r : Registry) (ctx : Context) (slot : Option Slot) (c : Config) :
    ∀ h ∈ (create? r ctx slot c).1, h.status.isLive = true := by
  intro h made
  simp only [create?] at made
  cases created : create r c.height ctx c with
  | mk node after =>
    cases node with
    | none => simp [created, AnyNode.fit] at made
    | some n =>
      by_cases fits : slot.all (· = n.type.slot)
      · simp only [created, AnyNode.fit, fits, if_true, Option.mem_some_iff] at made
        subst made
        exact isLive_live ..
      · simp [created, AnyNode.fit, fits] at made

/-- A node that lives goes on living whatever is asked of it. -/
theorem isLive_call (ctx : Context) {h : Handle} (alive : h.status.isLive = true) (c : Call) :
    (h.call ctx c).1.status.isLive = true := by
  obtain ⟨height, n, rfl⟩ := live_of_isLive alive
  cases c with
  | update step => cases n <;> exact isLive_live ..
  | check step => cases n <;> exact isLive_live ..
  | _ => exact isLive_live ..

end Handle

/-- A host with the nodes that it holds. -/
structure Host where
  ctx : Context
  held : List Handle := []

namespace Host

inductive Act where
  | create (r : Registry) (slot : Option Slot) (config : Config)
  | call (position : Nat) (call : Handle.Call)
  | release (position : Nat)
  | change (scope : Scope)

def labels (h : Host) : List Label :=
  h.held.flatMap Handle.labels

def create (h : Host) (r : Registry) (slot : Option Slot) (config : Config) : Host :=
  let (made, ctx) := Handle.create? r h.ctx slot config
  { ctx := ctx, held := made.toList ++ h.held }

def call (h : Host) (position : Nat) (c : Handle.Call) : Host :=
  match h.held[position]? with
  | none => h
  | some x =>
    let (x, ctx) := x.call h.ctx c
    { ctx := ctx, held := h.held.set position x }

def release (h : Host) (position : Nat) : Host :=
  match h.held[position]? with
  | none => h
  | some x => { ctx := x.release h.ctx, held := h.held.eraseIdx position }

def act (h : Host) : Act → Host
  | .create r slot config => h.create r slot config
  | .call position c => h.call position c
  | .release position => h.release position
  | .change scope => { h with ctx.toScope := scope }

def run (h : Host) : List Act → Host
  | [] => h
  | a :: rest => (h.act a).run rest

/-- What holds of a host at every moment: it holds live nodes only, and since the beginning the
census has grown by exactly these. -/
structure Accounted (before : Census) (h : Host) : Prop where
  alive : ∀ x ∈ h.held, x.status.isLive = true
  grown : Grows before h.ctx.toCensus h.labels

namespace Accounted

variable {before : Census} {h : Host}

theorem create (accounted : Accounted before h) (r : Registry) (slot : Option Slot)
    (config : Config) : Accounted before (h.create r slot config) where
  alive := by
    intro x member
    rcases List.mem_append.mp member with made | held
    · exact Handle.create?_isLive r h.ctx slot config x (Option.mem_toList.mp made)
    · exact accounted.alive x held
  grown := by
    have made := Handle.create?_grows r h.ctx slot config
    simp only [labels, Host.create, List.flatMap_append]
    exact (accounted.grown.trans made).perm List.perm_append_comm

theorem call (accounted : Accounted before h) (position : Nat) (c : Handle.Call) :
    Accounted before (h.call position c) := by
  unfold Host.call
  split
  · exact accounted
  · rename_i x found
    have held := List.mem_of_getElem? found
    refine ⟨?_, ?_⟩
    · intro y member
      rcases List.mem_or_eq_of_mem_set member with old | rfl
      · exact accounted.alive y old
      · exact x.isLive_call h.ctx (accounted.alive x held) c
    · have grown := accounted.grown
      have kept := map_set_of_eq found (x.labels_call h.ctx c)
      rw [labels, List.flatMap_def, ← kept, ← List.flatMap_def] at grown
      rw [← x.toCensus_call h.ctx c] at grown
      exact grown

theorem release (accounted : Accounted before h) (position : Nat) :
    Accounted before (h.release position) := by
  unfold Host.release
  split
  · exact accounted
  · rename_i x found
    have held := List.mem_of_getElem? found
    obtain ⟨height, n, rfl⟩ := Handle.live_of_isLive (accounted.alive x held)
    refine ⟨?_, ?_⟩
    · intro y member
      exact accounted.alive y (List.mem_of_mem_eraseIdx member)
    · obtain ⟨bound, there⟩ := List.getElem?_eq_some_iff.mp found
      have apart := (List.getElem_cons_eraseIdx_perm bound).symm.flatMap_right Handle.labels
      rw [List.flatMap_cons, there] at apart
      have grown := (accounted.grown.perm apart).settle
      rw [← Handle.toCensus_release] at grown
      exact grown

theorem act (accounted : Accounted before h) (a : Act) : Accounted before (h.act a) := by
  cases a with
  | create r slot config => exact accounted.create r slot config
  | call position c => exact accounted.call position c
  | release position => exact accounted.release position
  | change scope => exact ⟨accounted.alive, accounted.grown⟩

theorem run (accounted : Accounted before h) (acts : List Act) :
    Accounted before (h.run acts) := by
  induction acts generalizing h with
  | nil => exact accounted
  | cons a rest ih => exact ih (accounted.act a)

end Accounted

end Host

namespace Agent

def labels (a : Agent) : List Label :=
  match a.tree with
  | none => []
  | some t => (outline .root t.root).labels

theorem init_grows {r : Registry} {script : Script} {owner : EntityId} {tag : CastTag}
    {vars : Vars} {w w' : World} {a : Agent}
    (started : init r script owner tag vars w = (.ok a, w')) : Grows {} a.toCensus a.labels := by
  obtain ⟨b, ctx, created, settled⟩ := init_ok started
  have grown := fit_grows (behavior_kept .root) (create_grows r script.root.height .root
    ((blank script owner tag vars).context w) script.root)
  rw [created] at grown
  simp only [Option.toList_some, List.flatMap_singleton] at grown
  obtain ⟨rfl, rfl⟩ := Prod.mk.inj settled
  show Grows {} (Behaves.enter ctx b).2.toCensus (outline .root (Behaves.enter ctx b).1).labels
  rw [Behaves.toCensus_enter, Outlined.outline_congr .root (Behaves.pristine_enter ctx b)]
  exact grown

theorem call_grows (w : World) {a : Agent} (grown : Grows {} a.toCensus a.labels) (c : Call) :
    Grows {} (a.call w c).1.toCensus (a.call w c).1.labels := by
  cases tree : a.tree with
  | none =>
    have idle : (a.call w c).1 = a := by
      cases c <;> simp [call, trigger, update, dispose, tree]
    rw [idle]
    exact grown
  | some t =>
    simp only [labels, tree] at grown
    cases c with
    | trigger tag payload =>
      have same := Outlined.outline_congr .root (Lasting.pristine_onTrigger tag t.root)
      simp only [call, trigger, tree, labels, same]
      exact grown
    | update step =>
      have same := Outlined.outline_congr .root
        (Lasting.pristine_update step (a.context w) t.root)
      simp only [call, update, tree, settle, labels, same, Behaves.Still.toCensus_update]
      exact grown
    | dispose =>
      have same := Outlined.outline_congr .root
        (Lasting.pristine_deactivate (a.context w) t.root)
      simp only [call, dispose, tree, settle, labels,
        Behaves.Settles.toCensus_release .root, same, Behaves.toCensus_deactivate]
      exact grown.settled

theorem run_grows {a : Agent} (grown : Grows {} a.toCensus a.labels)
    (calls : List (World × Call)) : Grows {} (a.run calls).toCensus (a.run calls).labels := by
  induction calls generalizing a with
  | nil => exact grown
  | cons c rest ih => exact ih (call_grows c.1 grown c.2)

end Agent

namespace Agent

theorem labels_dispose (a : Agent) (w : World) : (a.dispose w).1.labels = [] := by
  cases tree : a.tree <;> simp [dispose, labels, settle, tree]

/-- A disposed agent leaves nothing alive, and all that the host has run for it has ended. -/
theorem dispose_settles {a : Agent} (grown : Grows {} a.toCensus a.labels) (w : World) :
    (a.dispose w).1.live = 0 ∧ (a.dispose w).1.overdrawn = 0 ∧
      (a.dispose w).1.ended.Perm (List.range (a.dispose w).1.started) := by
  have disposed : Grows {} (a.dispose w).1.toCensus (a.dispose w).1.labels :=
    call_grows w grown .dispose
  rw [labels_dispose] at disposed
  obtain ⟨ended, same, numbered⟩ := disposed.ended
  refine ⟨disposed.live, disposed.overdrawn, ?_⟩
  rw [List.append_nil] at same
  rw [numbers, List.filterMap_nil, List.append_nil, ← same] at numbered
  rw [List.range_eq_range']
  exact numbered

end Agent

/-- Accounts balance. Every creation, of whatever sort and however it fails, adds exactly the nodes
of the tree that it returns; no call on a node adds or removes any; whatever a host does, the census
has grown by the nodes that it holds. An agent that is disposed of, after any history, leaves
nothing alive, and every behavior that the host has run for it has ended once. -/
theorem accounts_balance :
    (∀ (r : Registry) (ctx : Context) (slot : Option Slot) (c : Config),
      Grows ctx.toCensus (Handle.create? r ctx slot c).2.toCensus
        ((Handle.create? r ctx slot c).1.toList.flatMap Handle.labels)) ∧
    (∀ (ctx : Context) (h : Handle) (c : Handle.Call),
      (h.call ctx c).2.toCensus = ctx.toCensus ∧ (h.call ctx c).1.labels = h.labels) ∧
    (∀ (ctx : Context) (acts : List Host.Act),
      Host.Accounted ctx.toCensus (Host.run { ctx := ctx } acts)) ∧
    (∀ (r : Registry) (script : Script) (owner : EntityId) (tag : CastTag) (vars : Vars)
        (w w' w'' : World) (a : Agent) (calls : List (World × Agent.Call)),
      Agent.init r script owner tag vars w = (.ok a, w') →
        Grows {} (a.run calls).toCensus (a.run calls).labels ∧
        let disposed := ((a.run calls).dispose w'').1
        disposed.live = 0 ∧ disposed.overdrawn = 0 ∧
          disposed.ended.Perm (List.range disposed.started)) := by
  refine ⟨Handle.create?_grows, ?calls, ?hosts, ?agents⟩
  case calls =>
    intro ctx h c
    exact ⟨h.toCensus_call ctx c, h.labels_call ctx c⟩
  case hosts =>
    intro ctx acts
    have beginning : Host.Accounted ctx.toCensus { ctx := ctx } := ⟨by simp, Grows.refl _⟩
    exact beginning.run acts
  case agents =>
    intro r script owner tag vars w w' w'' a calls started
    have grown := Agent.run_grows (Agent.init_grows started) calls
    exact ⟨grown, Agent.dispose_settles grown w''⟩

def guardScript : Script :=
  let guard : Config := ⟨"Guard", .behavior, .delegate [] {}⟩
  ⟨"guard", Build.parallel [
    Build.sequence [Build.wait 1, guard],
    Build.fsm "calm" [
      { id := "calm"
        transitions := [
          Build.transition { condition := some (Build.trigger "alarm"), onTrue := some "alert" }] },
      { id := "alert", behavior := some guard }]]⟩

def guardRegistry : Registry :=
  (Registry.standard.registerDelegate "Guard" {}).2

def guardCalls : List (World × Agent.Call) :=
  [({}, .update 0.5), ({}, .trigger "alarm" ∅), ({}, .update 1)]

theorem accounts_balance_of_guard :
    ∃ a w, Agent.init guardRegistry guardScript ⟨0⟩ ⟨0⟩ ∅ {} = (.ok a, w) ∧ a.live = 10 ∧
      (a.run guardCalls).live = 10 ∧
      let disposed := ((a.run guardCalls).dispose {}).1
      disposed.started = 2 ∧ disposed.live = 0 ∧ disposed.overdrawn = 0 ∧
        disposed.ended.Perm (List.range disposed.started) := by
  refine ⟨_, _, rfl, rfl, by decide +kernel, by decide +kernel, ?_⟩
  exact (accounts_balance.2.2.2 guardRegistry guardScript ⟨0⟩ ⟨0⟩ ∅ {} _ {} _ guardCalls rfl).2

end SkillScript
