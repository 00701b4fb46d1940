import SkillScript.Proofs.Events.Delivery
import SkillScript.Proofs.History
import SkillScript.Proofs.Pausing.Nodes
import SkillScript.Proofs.Reentry.Replay
/-!
# Pauses are transparent

A behavior that rests is reset and woken, and from then on goes through calls of all
kinds but resets. Whenever it is awake, it may be put to rest and woken again, at once
or after a long time: it is then what it was before, in all its nodes. Only sensors for
events have new receivers, which have missed what was published before; what they have
seen they remember. Without such sensors nothing at all is different, in the behavior
or around it.
-/
set_option autoImplicit false
namespace SkillScript

namespace Handle

def types : Handle → List NodeType
  | live _ (.behavior n) => (Outlined.outline .root n).labels.map (·.type)
  | _ => []

variable {height : Nat} {n₀ : Node (Behavior height)} {h : Handle}

def KeepsPace (n₀ : Node (Behavior height)) (h : Handle) : Prop :=
  ∃ n : Node (Behavior height), h = live height (.behavior n) ∧
    Ordered.Orderly true n ∧ Lasting.pristine n = Lasting.pristine n₀

/-- A behavior at rest is in strict order once it is entered. -/
theorem KeepsForm.enter (kept : KeepsForm n₀ h) (ready : h.status = .ready) (ctx : Context) :
    KeepsPace n₀ (h.enter ctx).1 := by
  obtain ⟨n, rfl, orderly, form⟩ := kept
  have resting : n.active = false := by
    by_contra active
    rw [Bool.not_eq_false] at active
    simp [status, AnyNode.isActive, active] at ready
  have strict := Behaves.Resuming.strict_of_resting orderly resting
  exact ⟨_, rfl, Behaves.orderly_enter ctx strict fun _ => resting,
    (Behaves.pristine_enter ctx n).trans form⟩

open Behaves.Disciplined in
theorem KeepsPace.call (kept : KeepsPace n₀ h) (ctx : Context) {c : Call}
    (continues : c.restarts = false) : KeepsPace n₀ (h.call ctx c).1 := by
  obtain ⟨n, rfl, orderly, form⟩ := kept
  cases c with
  | activate =>
    exact ⟨_, rfl, orderly_activate ctx orderly, (Lasting.pristine_activate ctx n).trans form⟩
  | deactivate =>
    exact ⟨_, rfl, orderly_deactivate ctx orderly, (Lasting.pristine_deactivate ctx n).trans form⟩
  | reset => cases continues
  | enter => cases continues
  | leave => exact ⟨n, rfl, orderly, form⟩
  | update step =>
    exact ⟨_, rfl, orderly_update step ctx orderly, (Lasting.pristine_update step ctx n).trans form⟩
  | check step => exact ⟨n, rfl, orderly, form⟩
  | trigger tag =>
    exact ⟨_, rfl, orderly_onTrigger tag orderly, (Lasting.pristine_onTrigger tag n).trans form⟩

theorem KeepsPace.run (kept : KeepsPace n₀ h) {calls : List (Context × Call)}
    (continues : ∀ p ∈ calls, p.2.restarts = false) : KeepsPace n₀ (h.run calls) := by
  induction calls generalizing h with
  | nil => exact kept
  | cons p rest ih =>
    obtain ⟨first, others⟩ := List.forall_mem_cons.mp continues
    exact ih (kept.call p.1 first) others

end Handle

/-- A behavior that is created from any configuration, reset and woken while it rests, and then
lives through any calls but resets is paused while it is awake. Then all its nodes are what they
were, except that the receivers of its sensors for events are given back and new ones are taken,
for which nothing is waiting. If no node is a condition for events, the pause changes nothing. -/
theorem pauses_are_transparent (r : Registry) (c : Config) (born entry now later : Context)
    (h : Handle) (before after : List (Context × Handle.Call))
    (created : (Handle.create? r born (some .behavior) c).1 = some h)
    (ready : (h.run before).status = .ready)
    (continues : ∀ p ∈ after, p.2.restarts = false)
    (active : (((h.run before).enter entry).1.run after).status = .active) :
    let running := ((h.run before).enter entry).1.run after
    let paused := running.deactivate now
    let resumed := paused.1.activate later
    (∃ n : Node (Behavior c.height), running = .live c.height (.behavior n) ∧
      let fresh := renewed later.bus.journal.size n
      paused.2 = now.unsubscribeAll (Holding.receivers n) ∧
      resumed = (.live c.height (.behavior fresh),
        later.subscribeAll (Holding.receivers fresh)) ∧
      ∀ receiver ∈ Holding.receivers fresh, resumed.2.bus.pending receiver = []) ∧
    (.condition .event ∉ h.types → paused.2 = now ∧ resumed = (running, later)) := by
  obtain ⟨n₀, made, rfl⟩ := Handle.create?_behavior created
  have begun := (create_begun false r c.height born c).fresh _ made
  have form := Handle.KeepsForm.run ⟨n₀, rfl, begun.2, rfl⟩ before
  obtain ⟨n, ran, orderly, same⟩ := (form.enter ready entry).run continues
  have awake : n.active = true := by
    by_contra resting
    rw [Bool.not_eq_true] at resting
    rw [ran] at active
    simp [Handle.status, AnyNode.isActive, resting] at active
  obtain ⟨rested, woken⟩ := Behaves.Resuming.resumes orderly awake
  have resumed : ((Handle.live c.height (.behavior n)).deactivate now).1.activate later =
      (.live c.height (.behavior (renewed later.bus.journal.size n)),
        later.subscribeAll (Holding.receivers (renewed later.bus.journal.size n))) :=
    congrArg (fun p => (Handle.live c.height (.behavior p.1), p.2)) (woken now later)
  simp only [ran, resumed]
  refine ⟨⟨n, rfl, rested now, rfl, ?_⟩, ?_⟩
  · intro receiver member
    refine Bus.pending_of_atEnd _ ?_
    rw [Context.journal_subscribeAll]
    exact Behaves.Resuming.catchesUp _ n receiver member
  · intro absent
    have eventless : (Outlined.outline .root n).Eventless := by
      rw [Outlined.outline_congr .root same]
      intro label labelled isEvent
      exact absent (List.mem_map.mpr ⟨label, labelled, isEvent⟩)
    have deaf : Holding.receivers n = [] := Behaves.Resuming.receivers_of_eventless eventless
    have still : renewed later.bus.journal.size n = n := Behaves.Resuming.stays _ n deaf
    rw [still, deaf]
    exact ⟨(rested now).trans (by rw [deaf]; rfl), rfl⟩

def restlessConfig : Config :=
  Build.parallel [Build.setVar "mark" (.bool true), Build.wait 60]

theorem pauses_are_transparent_of_restless :
    ∃ h, (Handle.create? .standard emptyStage (some .behavior) restlessConfig).1 = some h ∧
      let running := ((h.run []).enter emptyStage).1.run [(emptyStage, .update 1)]
      (h.run []).status = .ready ∧ running.status = .active ∧
      (running.deactivate emptyStage).1.activate emptyStage = (running, emptyStage) := by
  obtain ⟨-, still⟩ := pauses_are_transparent .standard restlessConfig emptyStage emptyStage
    emptyStage emptyStage _ [] [(emptyStage, .update 1)] rfl rfl
    (by simp [Handle.Call.restarts]) (by decide +kernel)
  refine ⟨_, rfl, rfl, by decide +kernel, (still ?_).2⟩
  show NodeType.condition .event ∉
    [NodeType.behavior .parallel, .behavior .setVar, .behavior .finiteTime]
  decide

end SkillScript
