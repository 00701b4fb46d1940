import SkillScript.Proofs.Pausing.Receivers
/-!
# Every node takes up its work again

Put to rest, a sequence puts its current child to rest, a parallel all its children, a
machine its current state, and a state its behavior and its transitions. Woken again,
each of them wakes exactly what it has put to rest, provided that it has started: then
nothing is entered, and everything below goes on where it was.
-/
set_option autoImplicit false
namespace SkillScript

/-- Behaviors that are after a rest what they were before, but for their receivers. -/
class Behaves.Resuming (β : Type) [Behaves β] [Lasting β] [Ordered β] [Holding β] [Outlined β]
    [Sensing β] : Prop where
  stays : Stays (Holding.receivers : β → List Receiver)
  catchesUp : CatchesUp (Holding.receivers : β → List Receiver)
  deactivate_of_resting {b : β} (resting : isActive b = false) (ctx : Context) :
    deactivate ctx b = (b, ctx)
  resumes {b : β} (orderly : Ordered.Orderly true b) (active : isActive b = true) :
    Resumes deactivate activate Holding.receivers b
  strict_of_resting {b : β} (orderly : Ordered.Orderly false b) (resting : isActive b = false) :
    Ordered.Orderly true b
  receivers_of_eventless {part : Part} {b : β} (eventless : (outline part b).Eventless) :
    Holding.receivers b = []

instance : Behaves.Resuming Empty where
  stays _ b := nomatch b
  catchesUp _ b := nomatch b
  deactivate_of_resting {b} := nomatch b
  resumes {b} := nomatch b
  strict_of_resting {b} := nomatch b
  receivers_of_eventless {_ b} := nomatch b

open Behaves.Resuming

variable {β : Type} [Behaves β] [Lasting β] [Ordered β] [Holding β] [Outlined β] [Sensing β]
  [Behaves.Resuming β]

namespace State

variable {s : State β}

theorem stays : Stays (receivers : State β → List Receiver) := by
  intro moment s deaf
  simp only [receivers, List.append_eq_nil_iff] at deaf
  obtain ⟨⟨behavior, exit⟩, transitions⟩ := deaf
  have place := (Behaves.Resuming.stays (β := β)).option moment
  show { s with
    behavior := renewed moment s.behavior
    exit := renewed moment s.exit
    transitions := renewed moment s.transitions } = s
  rw [place _ behavior, place _ exit, Transition.stays.list moment _ transitions]

theorem catchesUp : CatchesUp (receivers : State β → List Receiver) := by
  intro moment s r member
  rcases List.mem_append.mp member with early | transitions
  · rcases List.mem_append.mp early with behavior | exit
    · exact Behaves.Resuming.catchesUp.option moment s.behavior r behavior
    · exact Behaves.Resuming.catchesUp.option moment s.exit r exit
  · exact Transition.catchesUp.list moment s.transitions r transitions

theorem resumes (orderly : s.Orderly true) (active : s.active = true) :
    Resumes deactivate activate receivers s := by
  obtain ⟨awake, id, endEvent, behavior, exit, transitions, ended⟩ := s
  cases active
  have first : Resumes (actOn Behaves.deactivate) (actOn Behaves.activate)
      (fun o => o.toList.flatMap Holding.receivers) behavior :=
    .actOn fun b member => Behaves.Resuming.resumes (orderly.behavior b member).2
      (orderly.behavior b member).1
  have second : Resumes (actAll Transition.deactivate) (actAll Transition.activate)
      (fun ts => ts.flatMap Transition.receivers) transitions :=
    .actAll fun t member => Transition.resumes (orderly.transitions t member).2
      (orderly.transitions t member).1
  -- The exit behavior rests anyway.
  have deaf : exit.toList.flatMap Holding.receivers = [] := by
    refine List.flatMap_eq_nil_iff.mpr fun b member => ?_
    obtain ⟨resting, order⟩ := orderly.exit b (Option.mem_toList.mp member)
    exact Holding.receivers_resting order resting
  have still (moment : Nat) : renewed moment exit = exit :=
    Behaves.Resuming.stays.option moment exit deaf
  constructor
  · intro now
    obtain ⟨rested, -, -⟩ := first.both second now now
    refine rested.trans (congrArg now.unsubscribeAll ?_)
    rw [receivers, deaf, List.append_nil]
  · intro now later
    obtain ⟨-, head, tail⟩ := first.both second now later
    rw [head] at tail
    simp only [deactivate, activate, if_true, Bool.false_eq_true, if_false, head, tail]
    refine Prod.ext ?_ (congrArg later.subscribeAll ?_)
    · exact congrArg (fun e => State.mk true id endEvent _ e _ ended) (still _).symm
    · show _ = _ ++ (renewed later.bus.journal.size exit).toList.flatMap _ ++ _
      rw [still, deaf, List.append_nil]
      rfl

theorem strict_of_resting (orderly : s.Orderly false) (resting : s.active = false) :
    s.Orderly true where
  behavior b member := by
    obtain ⟨runs, order⟩ := orderly.behavior b member
    exact ⟨runs, Behaves.Resuming.strict_of_resting order (runs.trans resting)⟩
  exit b member := by
    obtain ⟨runs, order⟩ := orderly.exit b member
    exact ⟨runs, Behaves.Resuming.strict_of_resting order runs⟩
  transitions := orderly.transitions

theorem receivers_of_eventless {part : Part} (eventless : (s.outline part).Eventless) :
    s.receivers = [] := by
  have behavior : s.behavior.toList.flatMap Holding.receivers = [] := by
    refine List.flatMap_eq_nil_iff.mpr fun b member => ?_
    have below : (Outlined.outline .behavior b).Eventless := eventless.below
      (List.mem_append_left _ (List.mem_append_left _ (List.mem_map_of_mem member)))
    exact Behaves.Resuming.receivers_of_eventless below
  have exit : s.exit.toList.flatMap Holding.receivers = [] := by
    refine List.flatMap_eq_nil_iff.mpr fun b member => ?_
    have below : (Outlined.outline .exit b).Eventless := eventless.below
      (List.mem_append_left _ (List.mem_append_right _ (List.mem_map_of_mem member)))
    exact Behaves.Resuming.receivers_of_eventless below
  have transitions : s.transitions.flatMap Transition.receivers = [] := by
    refine List.flatMap_eq_nil_iff.mpr fun t member => ?_
    have below : (t.outline .transition).Eventless := eventless.below
      (List.mem_append_right _ (List.mem_map_of_mem member))
    exact Transition.receivers_of_eventless below
  rw [receivers, behavior, exit, transitions]
  rfl

end State

namespace Lane

variable {l : Lane β}

theorem stays : Stays fun l : Lane β => Holding.receivers l.child := fun moment l deaf =>
  congrArg (fun child => { l with child := child }) (Behaves.Resuming.stays moment l.child deaf)

theorem catchesUp : CatchesUp fun l : Lane β => Holding.receivers l.child :=
  fun moment l => Behaves.Resuming.catchesUp moment l.child

theorem resumes (runs : Behaves.isActive l.child = !l.finished)
    (orderly : Ordered.Orderly true l.child) :
    Resumes (act Behaves.deactivate) (actIfRunning Behaves.activate)
      (fun l => Holding.receivers l.child) l := by
  obtain ⟨child, finished⟩ := l
  cases finished with
  | true =>
    refine .untouched stays (fun ctx => ?_) (fun ctx => rfl)
      (Holding.receivers_resting orderly runs)
    simp only [act, Behaves.Resuming.deactivate_of_resting runs]
  | false =>
    have part := Behaves.Resuming.resumes orderly runs
    refine part.within (Lane.mk · false) (Lane.mk · false) ?_ ?_ ?_ ?_ <;> intros <;> rfl

end Lane

namespace Logic

theorem stays : Stays (receivers : Logic β → List Receiver) := by
  intro moment l deaf
  cases l with
  | task t => rfl
  | sequence s =>
    exact congrArg (fun children => sequence { s with children := children })
      (Stays.list Behaves.Resuming.stays moment s.children deaf)
  | parallel p =>
    exact congrArg (fun lanes => parallel { p with lanes := lanes })
      (Stays.list Lane.stays moment p.lanes deaf)
  | machine m =>
    exact congrArg (fun states => machine { m with states := states })
      (Stays.list State.stays moment m.states deaf)

theorem catchesUp : CatchesUp (receivers : Logic β → List Receiver) := by
  intro moment l
  cases l with
  | task t => nofun
  | sequence s => exact Behaves.Resuming.catchesUp.list moment s.children
  | parallel p => exact Lane.catchesUp.list moment p.lanes
  | machine m => exact State.catchesUp.list moment m.states

theorem resumes {l : Logic β} (orderly : l.Orderly true true) :
    Resumes onDeactivate onActivate receivers l := by
  cases l with
  | task t => exact ⟨fun _ => rfl, fun _ _ => rfl⟩
  | sequence s =>
    have started := Sequence.Orderly.started orderly rfl rfl
    obtain ⟨children, index, started⟩ := s
    cases started
    have part : Resumes (fun ctx => actAt Behaves.deactivate ctx index)
        (fun ctx => actAt Behaves.activate ctx index) (fun l => l.flatMap Holding.receivers)
        children := by
      refine .actAt Behaves.Resuming.stays (fun c found => ?_) fun i c found other => ?_
      · obtain ⟨runs, order⟩ := Sequence.Orderly.children orderly index c found
        exact Behaves.Resuming.resumes order (by simpa using runs)
      · obtain ⟨runs, order⟩ := Sequence.Orderly.children orderly i c found
        exact Holding.receivers_resting order (runs.trans (by simp [other]))
    refine part.within (fun children => sequence ⟨children, index, true⟩)
      (fun children => sequence ⟨children, index, true⟩) ?_ ?_ ?_ ?_ <;> intros <;> rfl
  | parallel p =>
    have started := Parallel.Orderly.started orderly rfl rfl
    obtain ⟨lanes, started⟩ := p
    cases started
    have part : Resumes (actAll (Lane.act Behaves.deactivate))
        (actAll (Lane.actIfRunning Behaves.activate))
        (fun l => l.flatMap fun l => Holding.receivers l.child) lanes := by
      refine .actAll fun l member => ?_
      obtain ⟨runs, order⟩ := Parallel.Orderly.lanes orderly l member
      exact Lane.resumes runs order
    refine part.within (fun lanes => parallel ⟨lanes, true⟩) (fun lanes => parallel ⟨lanes, true⟩)
      ?_ ?_ ?_ ?_ <;> intros <;> rfl
  | machine m =>
    obtain ⟨i, current⟩ := Option.isSome_iff_exists.mp (Machine.Orderly.running orderly rfl rfl)
    obtain ⟨states, index, initial, current, switches⟩ := m
    cases current
    have part : Resumes (fun ctx => actAt State.deactivate ctx i)
        (fun ctx => actAt State.activate ctx i) (fun l => l.flatMap State.receivers) states := by
      refine .actAt State.stays (fun s found => ?_) fun j s found other => ?_
      · obtain ⟨runs, order⟩ := Machine.Orderly.states orderly i s found
        exact State.resumes order (by simpa using runs)
      · obtain ⟨runs, order⟩ := Machine.Orderly.states orderly j s found
        exact State.receivers_resting order (runs.trans (by simp [other.symm]))
    refine part.within (fun states => machine ⟨states, index, initial, some i, switches⟩)
      (fun states => machine ⟨states, index, initial, some i, switches⟩) ?_ ?_ ?_ ?_ <;>
      intros <;> rfl

theorem strict_of_resting {l : Logic β} (orderly : l.Orderly false false) :
    l.Orderly true false := by
  cases l with
  | task t => trivial
  | sequence s =>
    refine ⟨fun i c found => ?_, nofun⟩
    obtain ⟨runs, order⟩ := Sequence.Orderly.children orderly i c found
    exact ⟨runs, Behaves.Resuming.strict_of_resting order runs⟩
  | parallel p =>
    refine ⟨fun l member => ?_, nofun⟩
    obtain ⟨runs, order⟩ := Parallel.Orderly.lanes orderly l member
    exact ⟨runs, Behaves.Resuming.strict_of_resting order runs⟩
  | machine m =>
    obtain ⟨index, initial, current, states, -⟩ := orderly
    refine ⟨index, initial, current, fun i s found => ?_, nofun⟩
    obtain ⟨runs, order⟩ := states i s found
    exact ⟨runs, State.strict_of_resting order runs⟩

theorem receivers_of_eventless {l : Logic β} (eventless : ∀ o ∈ l.parts, o.Eventless) :
    l.receivers = [] := by
  cases l with
  | task t => rfl
  | sequence s =>
    refine List.flatMap_eq_nil_iff.mpr fun c member => ?_
    exact Behaves.Resuming.receivers_of_eventless (eventless _ (List.mem_map_of_mem member))
  | parallel p =>
    refine List.flatMap_eq_nil_iff.mpr fun lane member => ?_
    exact Behaves.Resuming.receivers_of_eventless
      (eventless _ (List.mem_map.mpr ⟨lane, member, rfl⟩))
  | machine m =>
    refine List.flatMap_eq_nil_iff.mpr fun s member => ?_
    exact State.receivers_of_eventless (eventless _ (List.mem_map_of_mem member))

end Logic

instance Node.resuming : Behaves.Resuming (Node β) where
  stays moment n deaf :=
    congrArg (fun logic => { n with logic := logic }) (Logic.stays moment n.logic deaf)
  catchesUp moment n := Logic.catchesUp moment n.logic
  deactivate_of_resting resting ctx := Node.reserved.deactivate_of_resting ctx resting
  resumes {n} orderly active := by
    obtain ⟨awake, begun, logic⟩ := n
    cases active
    have part := Logic.resumes orderly
    refine part.within (Node.mk false begun) (Node.mk true begun) ?_ ?_ ?_ ?_ <;> intros <;> rfl
  strict_of_resting {n} orderly resting := by
    obtain ⟨awake, begun, logic⟩ := n
    cases resting
    exact Logic.strict_of_resting orderly
  receivers_of_eventless {_ n} eventless :=
    Logic.receivers_of_eventless fun _ member => eventless.below member

instance Behavior.resuming : (height : Nat) → Behaves.Resuming (Behavior height)
  | 0 => inferInstanceAs (Behaves.Resuming Empty)
  | height + 1 =>
    have := resuming height
    inferInstanceAs (Behaves.Resuming (Node (Behavior height)))

end SkillScript
