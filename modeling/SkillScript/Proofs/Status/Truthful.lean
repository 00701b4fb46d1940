import SkillScript.Proofs.Status.Finished
import SkillScript.Proofs.Tree.Newborn
/-!
# States end only when their behavior has finished

A tree is truthful if the behavior of every state in it that has ended has finished.
Trees are created so and stay so: a state ends in an update after which its behavior
can stop, its behavior is active because the state is, and an active behavior that
can stop after an update has finished.
-/
set_option autoImplicit false
namespace SkillScript

open Behaves.Disciplined Behaves.Conclusive

/-- Behaviors for which it is settled what it means that all ends in them are true. -/
class Honest (β : Type) where
  Truthful : β → Prop

instance : Honest Empty where
  Truthful b := nomatch b

variable {β : Type}

structure State.Truthful [Behaves β] [Finishing β] [Honest β] (s : State β) : Prop where
  runs : ∀ b ∈ s.behavior, Behaves.isActive b = s.active
  behavior : ∀ b ∈ s.behavior, Honest.Truthful b
  exit : ∀ b ∈ s.exit, Honest.Truthful b
  ended : s.ended = true → ∀ b ∈ s.behavior, Finishing.Finished b

def Logic.Truthful [Behaves β] [Finishing β] [Honest β] : Logic β → Prop
  | task _ => True
  | sequence s => ∀ c ∈ s.children, Honest.Truthful c
  | parallel p => ∀ l ∈ p.lanes, Honest.Truthful l.child
  | machine m => ∀ s ∈ m.states, s.Truthful

instance Node.honest [Behaves β] [Finishing β] [Honest β] : Honest (Node β) where
  Truthful n := n.logic.Truthful

instance Behavior.honest : (height : Nat) → Honest (Behavior height)
  | 0 => inferInstanceAs (Honest Empty)
  | height + 1 =>
    let _ := honest height
    inferInstanceAs (Honest (Node (Behavior height)))

/-- Behaviors that stay truthful, and that have finished when they can stop after an update. -/
class Behaves.Faithful (β : Type) [Behaves β] [Finishing β] [Honest β] : Prop where
  truthful_activate (ctx : Context) {b : β} (truthful : Honest.Truthful b) :
    Honest.Truthful (activate ctx b).1
  truthful_deactivate (ctx : Context) {b : β} (truthful : Honest.Truthful b) :
    Honest.Truthful (deactivate ctx b).1
  truthful_reset (ctx : Context) {b : β} (truthful : Honest.Truthful b) :
    Honest.Truthful (reset ctx b).1
  truthful_update (step : Float32) (ctx : Context) {b : β} (truthful : Honest.Truthful b) :
    Honest.Truthful (update step ctx b).2.1
  truthful_onTrigger (tag : String) {b : β} (truthful : Honest.Truthful b) :
    Honest.Truthful (onTrigger tag b)
  finished_of_update (step : Float32) (ctx : Context) {b : β} (truthful : Honest.Truthful b)
    (active : isActive b = true) (stops : canStop (update step ctx b).2.1 = true) :
    Finishing.Finished (update step ctx b).2.1

instance : Behaves.Faithful Empty where
  truthful_activate _ b := nomatch b
  truthful_deactivate _ b := nomatch b
  truthful_reset _ b := nomatch b
  truthful_update _ _ b := nomatch b
  truthful_onTrigger _ b := nomatch b
  finished_of_update _ _ b := nomatch b

open Behaves.Faithful

section

variable [Behaves β] [Finishing β] [Honest β] [Behaves.Faithful β]

theorem Behaves.truthful_enter (ctx : Context) {b : β} (truthful : Honest.Truthful b) :
    Honest.Truthful (enter ctx b).1 :=
  truthful_activate _ (truthful_reset ctx truthful)

theorem State.truthful_complete (ctx : Context) {b : β} (truthful : Honest.Truthful b) :
    Honest.Truthful (complete ctx b).1 :=
  truthful_deactivate _ (truthful_update _ _ (Behaves.truthful_enter ctx truthful))

end

/-! ## States -/

namespace State.Truthful

variable [Behaves β] [Finishing β] [Honest β] [Ordered β] [Behaves.Disciplined β]
  [Behaves.Conclusive β] [Behaves.Faithful β] {s : State β}

theorem activate (truthful : s.Truthful) (ctx : Context) : (s.activate ctx).1.Truthful := by
  unfold State.activate
  split
  · exact truthful
  · exact
      { runs := by
          intro b member
          obtain ⟨b', inside, rfl⟩ := mem_actOn member
          exact isActive_activate ctx b'
        behavior := forall_mem_actOn (fun ctx _ => truthful_activate ctx) ctx truthful.behavior
        exit := truthful.exit
        ended := fun ended =>
          forall_mem_actOn (fun ctx _ => finished_activate ctx) ctx (truthful.ended ended) }

theorem deactivate (truthful : s.Truthful) (ctx : Context) : (s.deactivate ctx).1.Truthful := by
  unfold State.deactivate
  split
  · exact
      { runs := by
          intro b member
          obtain ⟨b', inside, rfl⟩ := mem_actOn member
          exact isActive_deactivate ctx b'
        behavior := forall_mem_actOn (fun ctx _ => truthful_deactivate ctx) ctx truthful.behavior
        exit := truthful.exit
        ended := fun ended =>
          forall_mem_actOn (fun ctx _ => finished_deactivate ctx) ctx (truthful.ended ended) }
  · exact truthful

omit [Behaves.Conclusive β] in
theorem reset (truthful : s.Truthful) (ctx : Context) : (s.reset ctx).1.Truthful where
  runs := by
    intro b member
    obtain ⟨b', inside, rfl⟩ := mem_actOn member
    exact (isActive_reset ctx b').trans (truthful.runs b' inside)
  behavior := forall_mem_actOn (fun ctx _ => truthful_reset ctx) ctx truthful.behavior
  exit := truthful.exit
  ended := nofun

theorem enter (truthful : s.Truthful) (ctx : Context) : (s.enter ctx).1.Truthful :=
  (truthful.reset ctx).activate _

/-- Whatever ends in an update has finished. -/
theorem update (truthful : s.Truthful) (step : Float32) (ctx : Context) :
    (s.update step ctx).1.Truthful := by
  by_cases active : s.active = true
  · have runs : ∀ b ∈ (runBehavior step ctx s.behavior).2.1, Behaves.isActive b = s.active := by
      cases placed : s.behavior with
      | none => nofun
      | some b =>
        intro b' made
        cases made
        exact (isActive_update step ctx b).trans (truthful.runs b placed)
    have behavior : ∀ b ∈ (runBehavior step ctx s.behavior).2.1, Honest.Truthful b := by
      cases placed : s.behavior with
      | none => nofun
      | some b =>
        intro b' made
        cases made
        exact truthful_update step ctx (truthful.behavior b placed)
    have finished : (runBehavior step ctx s.behavior).1 = true →
        ∀ b ∈ (runBehavior step ctx s.behavior).2.1, Finishing.Finished b := by
      cases placed : s.behavior with
      | none => nofun
      | some b =>
        intro stops b' made
        cases made
        exact finished_of_update step ctx (truthful.behavior b placed)
          ((truthful.runs b placed).trans active) stops
    simp only [State.update, if_pos active]
    split
    · rename_i ends
      exact ⟨runs, behavior, truthful.exit, fun _ => finished (Bool.and_eq_true_iff.mp ends).1⟩
    · exact ⟨runs, behavior, truthful.exit,
        fun ended => finished_runBehavior step ctx (truthful.ended ended)⟩
  · rw [State.update, if_neg active]
    exact truthful

omit [Ordered β] [Behaves.Disciplined β] [Behaves.Conclusive β] [Behaves.Faithful β] in
theorem checkTransitions (truthful : s.Truthful) (step : Float32) (ctx : Context) :
    (s.checkTransitions step ctx).2.1.Truthful := by
  unfold State.checkTransitions
  split <;> exact ⟨truthful.runs, truthful.behavior, truthful.exit, truthful.ended⟩

theorem leave (truthful : s.Truthful) (ctx : Context) : (s.leave ctx).1.Truthful := by
  have rested := truthful.deactivate ctx
  have completed : ∀ b ∈ (actOn complete (s.deactivate ctx).2 (s.deactivate ctx).1.exit).1,
      Honest.Truthful b :=
    forall_mem_actOn (fun ctx _ => truthful_complete ctx) _ rested.exit
  exact ⟨rested.runs, rested.behavior, completed, rested.ended⟩

theorem onTrigger (truthful : s.Truthful) (tag : String) : (s.onTrigger tag).Truthful := by
  unfold State.onTrigger
  split
  · exact
      { runs := by
          intro b member
          obtain ⟨b', inside, rfl⟩ := Option.map_eq_some_iff.mp member
          exact (isActive_onTrigger tag b').trans (truthful.runs b' inside)
        behavior := by
          intro b member
          obtain ⟨b', inside, rfl⟩ := Option.map_eq_some_iff.mp member
          exact truthful_onTrigger tag (truthful.behavior b' inside)
        exit := truthful.exit
        ended := by
          intro ended b member
          obtain ⟨b', inside, rfl⟩ := Option.map_eq_some_iff.mp member
          exact finished_onTrigger tag (truthful.ended ended b' inside) }
  · exact truthful

end State.Truthful

/-! ## Sequences, parallels and machines -/

section

variable [Behaves β] [Finishing β] [Honest β] [Behaves.Faithful β]

theorem Sequence.truthful_run (started : Bool) (step : Float32) (ctx : Context) {l : List β}
    (truthful : ∀ c ∈ l, Honest.Truthful c) :
    ∀ c ∈ (run started step ctx l).2.2.1, Honest.Truthful c := by
  induction l generalizing started step ctx with
  | nil => exact truthful
  | cons c rest ih =>
    obtain ⟨first, others⟩ := List.forall_mem_cons.mp truthful
    have readied : Honest.Truthful (ready started ctx c).1 := by
      unfold ready
      split
      · exact first
      · exact Behaves.truthful_enter ctx first
    have updated := truthful_update step (ready started ctx c).2 readied
    rw [run_cons]
    dsimp only
    split
    · exact List.forall_mem_cons.mpr ⟨truthful_deactivate _ updated, ih _ _ _ others⟩
    · exact List.forall_mem_cons.mpr ⟨updated, others⟩

theorem Parallel.truthful_run (step least : Float32) (ctx : Context) {lanes : List (Lane β)}
    (truthful : ∀ l ∈ lanes, Honest.Truthful l.child) :
    ∀ l ∈ (run step least ctx lanes).2.1, Honest.Truthful l.child := by
  induction lanes generalizing least ctx with
  | nil => exact truthful
  | cons l rest ih =>
    obtain ⟨first, others⟩ := List.forall_mem_cons.mp truthful
    have updated := truthful_update step ctx first
    rw [run_cons]
    split
    · exact List.forall_mem_cons.mpr ⟨first, ih _ _ others⟩
    · dsimp only
      split
      · exact List.forall_mem_cons.mpr ⟨truthful_deactivate _ updated, ih _ _ others⟩
      · exact List.forall_mem_cons.mpr ⟨updated, ih _ _ others⟩

theorem Parallel.truthful_start (ctx : Context) {p : Parallel β}
    (truthful : ∀ l ∈ p.lanes, Honest.Truthful l.child) :
    ∀ l ∈ (p.start ctx).1.lanes, Honest.Truthful l.child := by
  refine forall_mem_actAll (fun ctx l => Behaves.truthful_enter ctx) ctx ?_
  intro l member
  obtain ⟨l', inside, rfl⟩ := List.mem_map.mp member
  exact truthful l' inside

end

namespace Machine

variable [Behaves β] [Finishing β] [Honest β] [Ordered β] [Behaves.Disciplined β]
  [Behaves.Conclusive β] [Behaves.Faithful β] {m : Machine β}

theorem truthful_enterAt (ctx : Context) (i : Nat) (truthful : ∀ s ∈ m.states, s.Truthful) :
    ∀ s ∈ (m.enterAt ctx i).1.states, s.Truthful :=
  forall_mem_actOnCurrent (fun ctx _ truthful => truthful.enter ctx) ctx truthful

theorem truthful_enterInitial (ctx : Context) (truthful : ∀ s ∈ m.states, s.Truthful) :
    ∀ s ∈ (m.enterInitial ctx).1.states, s.Truthful := by
  unfold enterInitial
  split
  · exact truthful
  · exact truthful_enterAt ctx _ truthful

theorem truthful_switchTo (ctx : Context) (target : String)
    (truthful : ∀ s ∈ m.states, s.Truthful) :
    ∀ s ∈ (m.switchTo ctx target).1.states, s.Truthful := by
  unfold switchTo
  split
  · exact truthful
  · exact truthful_enterAt _ _
      (forall_mem_actOnCurrent (fun ctx _ truthful => truthful.leave ctx) ctx truthful)

theorem truthful_onUpdate (step : Float32) (ctx : Context)
    (truthful : ∀ s ∈ m.states, s.Truthful) :
    ∀ s ∈ (m.onUpdate step ctx).2.1.states, s.Truthful := by
  have readied : ∀ s ∈ (m.ready ctx).1.states, s.Truthful := by
    unfold ready
    split
    · exact truthful
    · exact truthful_enterInitial ctx truthful
  unfold onUpdate
  dsimp only
  split
  · exact readied
  · rename_i i _
    split
    · exact readied
    · rename_i s found
      have ticked : (tick step (m.ready ctx).2 s).2.1.Truthful :=
        ((readied s (List.mem_of_getElem? found)).update step _).checkTransitions step _
      have kept : ∀ s' ∈ (m.ready ctx).1.states.set i (tick step (m.ready ctx).2 s).2.1,
          s'.Truthful := by
        intro s' member
        rcases List.mem_or_eq_of_mem_set member with old | rfl
        · exact readied s' old
        · exact ticked
      unfold advance
      dsimp only
      split
      · exact kept
      · exact truthful_switchTo _ _ kept

end Machine

/-! ## Behaviors -/

namespace Logic

variable [Behaves β] [Finishing β] [Honest β] [Ordered β] [Behaves.Disciplined β]
  [Behaves.Conclusive β] [Behaves.Faithful β] {l : Logic β}

theorem truthful_onActivate (ctx : Context) (truthful : l.Truthful) :
    (l.onActivate ctx).1.Truthful := by
  cases l with
  | task t => trivial
  | sequence s =>
    simp only [onActivate, Sequence.onActivate]
    split
    · exact forall_mem_actAt (fun ctx _ => truthful_activate ctx) ctx _ truthful
    · exact forall_mem_actAt (fun ctx _ => Behaves.truthful_enter ctx) ctx _ truthful
  | parallel p =>
    simp only [onActivate, Parallel.onActivate]
    split
    · refine forall_mem_actAll (fun ctx lane honest => ?_) ctx truthful
      unfold Lane.actIfRunning
      split
      · exact honest
      · exact truthful_activate ctx honest
    · exact Parallel.truthful_start ctx truthful
  | machine m =>
    simp only [onActivate, Machine.onActivate]
    split
    · exact Machine.forall_mem_actOnCurrent (fun ctx _ truthful => truthful.activate ctx) ctx
        truthful
    · exact Machine.truthful_enterInitial ctx truthful

theorem truthful_onDeactivate (ctx : Context) (truthful : l.Truthful) :
    (l.onDeactivate ctx).1.Truthful := by
  cases l with
  | task t => trivial
  | sequence s => exact forall_mem_actAt (fun ctx _ => truthful_deactivate ctx) ctx _ truthful
  | parallel p => exact forall_mem_actAll (fun ctx _ => truthful_deactivate ctx) ctx truthful
  | machine m =>
    exact Machine.forall_mem_actOnCurrent (fun ctx _ truthful => truthful.deactivate ctx) ctx
      truthful

theorem truthful_onReset (ctx : Context) (truthful : l.Truthful) :
    (l.onReset ctx).1.Truthful := by
  cases l with
  | task t => trivial
  | sequence s =>
    simp only [onReset, Sequence.onReset]
    split
    · exact forall_mem_actAt (fun ctx _ => truthful_deactivate ctx) ctx _ truthful
    · exact truthful
  | parallel p =>
    intro lane member
    obtain ⟨lane', inside, rfl⟩ := List.mem_map.mp member
    exact forall_mem_actAll (fun ctx _ => truthful_deactivate ctx) ctx truthful lane' inside
  | machine m =>
    exact Machine.forall_mem_actOnCurrent (fun ctx _ truthful => truthful.deactivate ctx) ctx
      truthful

theorem truthful_onUpdate (step : Float32) (ctx : Context) (truthful : l.Truthful) :
    (l.onUpdate step ctx).2.1.Truthful := by
  cases l with
  | task t => trivial
  | sequence s =>
    intro c member
    rcases List.mem_append.mp member with before | ran
    · exact truthful c (List.mem_of_mem_take before)
    · exact Sequence.truthful_run s.started step ctx
        (fun c inside => truthful c (List.mem_of_mem_drop inside)) c ran
  | parallel p =>
    have readied : ∀ lane ∈ (p.ready ctx).1.lanes, Honest.Truthful lane.child := by
      unfold Parallel.ready
      split
      · exact truthful
      · exact Parallel.truthful_start ctx truthful
    exact Parallel.truthful_run step step (p.ready ctx).2 readied
  | machine m => exact Machine.truthful_onUpdate step ctx truthful

theorem truthful_onTrigger (tag : String) (truthful : l.Truthful) :
    (l.onTrigger tag).Truthful := by
  cases l with
  | task t => trivial
  | sequence s =>
    exact forall_mem_modify (P := Honest.Truthful)
      (fun _ => Behaves.Faithful.truthful_onTrigger tag) _ truthful
  | parallel p =>
    intro lane member
    obtain ⟨lane', inside, rfl⟩ := List.mem_map.mp member
    split
    · exact truthful lane' inside
    · exact Behaves.Faithful.truthful_onTrigger tag (truthful lane' inside)
  | machine m =>
    simp only [onTrigger, Machine.onTrigger]
    split
    · exact truthful
    · exact forall_mem_modify (fun _ truthful => truthful.onTrigger tag) _ truthful

/-- What can stop after an update has finished, if what has ended in it is true. -/
theorem finished_of_onUpdate (step : Float32) (ctx : Context) (truthful : l.Truthful)
    (stops : (l.onUpdate step ctx).2.1.canStop = true) :
    (l.onUpdate step ctx).2.1.Finished := by
  cases l with
  | task t => exact stops
  | sequence s => exact ⟨rfl, of_decide_eq_true stops⟩
  | parallel p =>
    refine ⟨?_, List.all_eq_true.mp stops⟩
    show (p.ready ctx).1.started = true
    unfold Parallel.ready
    split
    · assumption
    · rfl
  | machine m =>
    have updated := Machine.truthful_onUpdate step ctx truthful
    simp only [onUpdate, canStop, Machine.canStop] at stops
    cases current : (m.onUpdate step ctx).2.1.currentState? with
    | none =>
      rw [current] at stops
      cases stops
    | some s =>
      rw [current, Option.any_some] at stops
      obtain ⟨ended, last⟩ := Bool.and_eq_true_iff.mp stops
      obtain ⟨i, -, found⟩ := Option.bind_eq_some_iff.mp current
      exact ⟨s, current, ended, List.isEmpty_iff.mp last,
        (updated s (List.mem_of_getElem? found)).ended ended⟩

end Logic

namespace Node

variable [Behaves β] [Finishing β] [Honest β] [Ordered β] [Behaves.Disciplined β]
  [Behaves.Conclusive β] [Behaves.Faithful β]

omit [Ordered β] [Behaves.Disciplined β] [Behaves.Conclusive β] [Behaves.Faithful β] in
theorem truthful_begin (ctx : Context) {n : Node β} (truthful : n.logic.Truthful) :
    (n.begin ctx).1.logic.Truthful := by
  unfold begin
  split
  · exact truthful
  · cases placed : n.logic with
    | task t => trivial
    | _ =>
      rw [placed] at truthful
      exact truthful

omit [Behaves β] [Finishing β] [Honest β] [Ordered β] [Behaves.Disciplined β]
  [Behaves.Conclusive β] [Behaves.Faithful β] in
theorem begun_begin (ctx : Context) (n : Node β) : (n.begin ctx).1.begun = true := by
  unfold begin
  split
  · assumption
  · rfl

instance faithful : Behaves.Faithful (Node β) where
  truthful_activate ctx n truthful := by
    show (n.activate ctx).1.logic.Truthful
    unfold activate
    split
    · exact truthful
    · exact Logic.truthful_onActivate ctx truthful
  truthful_deactivate ctx n truthful := by
    show (n.deactivate ctx).1.logic.Truthful
    unfold deactivate
    split
    · exact Logic.truthful_onDeactivate ctx truthful
    · exact truthful
  truthful_reset ctx n truthful := Logic.truthful_onReset ctx truthful
  truthful_update step ctx n truthful := by
    show (n.update step ctx).2.1.logic.Truthful
    unfold update
    split
    · exact Logic.truthful_onUpdate _ _ (truthful_begin ctx truthful)
    · exact truthful
  truthful_onTrigger tag n truthful := by
    show (n.onTrigger tag).logic.Truthful
    unfold onTrigger
    split
    · exact Logic.truthful_onTrigger tag truthful
    · exact truthful
  finished_of_update step ctx n truthful active stops := by
    have active : n.active = true := active
    have stops : (n.update step ctx).2.1.canStop = true := stops
    show (n.update step ctx).2.1.Finished
    rw [update, if_pos active] at stops ⊢
    exact ⟨begun_begin ctx n,
      Logic.finished_of_onUpdate _ _ (truthful_begin ctx truthful) stops⟩

end Node

instance Behavior.faithful : (height : Nat) → Behaves.Faithful (Behavior height)
  | 0 => inferInstanceAs (Behaves.Faithful Empty)
  | height + 1 =>
    have := faithful height
    inferInstanceAs (Behaves.Faithful (Node (Behavior height)))

/-! ## Creation -/

class Behaves.Innocent (β : Type) [Behaves β] [Nascent β] [Honest β] : Prop where
  isActive_of_newborn {b : β} (newborn : Nascent.Newborn b) : isActive b = false
  truthful_of_newborn {b : β} (newborn : Nascent.Newborn b) : Honest.Truthful b

instance : Behaves.Innocent Empty where
  isActive_of_newborn {b} := nomatch b
  truthful_of_newborn {b} := nomatch b

open Behaves.Innocent

section

variable [Behaves β] [Nascent β] [Finishing β] [Honest β] [Behaves.Innocent β]

theorem State.Newborn.truthful {s : State β} (newborn : s.Newborn) : s.Truthful where
  runs b member := (isActive_of_newborn (newborn.behavior b member)).trans newborn.active.symm
  behavior b member := truthful_of_newborn (newborn.behavior b member)
  exit b member := truthful_of_newborn (newborn.exit b member)
  ended := by
    rw [newborn.ended]
    nofun

instance Node.innocent : Behaves.Innocent (Node β) where
  isActive_of_newborn {n} newborn := Node.Newborn.active newborn
  truthful_of_newborn {n} newborn := by
    show n.logic.Truthful
    have logic : n.logic.Newborn := Node.Newborn.logic newborn
    cases placed : n.logic with
    | task t => trivial
    | sequence s =>
      rw [placed] at logic
      exact fun c member => truthful_of_newborn (logic.children c member)
    | parallel p =>
      rw [placed] at logic
      exact fun l member => truthful_of_newborn (logic.lanes l member).1
    | machine m =>
      rw [placed] at logic
      exact fun s member => (logic.states s member).truthful

end

instance Behavior.innocent : (height : Nat) → Behaves.Innocent (Behavior height)
  | 0 => inferInstanceAs (Behaves.Innocent Empty)
  | height + 1 =>
    have := innocent height
    inferInstanceAs (Behaves.Innocent (Node (Behavior height)))

end SkillScript
