import SkillScript.Proofs.History
import SkillScript.Proofs.Tree.Each
/-!
# What holds of everything below a node

A node has behaviors below it: the children of a sequence, those in the lanes of a
parallel, and the behaviors and exit behaviors of the states of a machine. What each
of these keeps, whatever is asked of it, holds of all of them after every call on the
node if it did before.
-/
set_option autoImplicit false
namespace SkillScript

variable {β : Type} [Behaves β]

structure Behaves.Keeps (P : β → Prop) : Prop where
  activate (ctx : Context) {b : β} (holds : P b) : P (activate ctx b).1
  deactivate (ctx : Context) {b : β} (holds : P b) : P (deactivate ctx b).1
  reset (ctx : Context) {b : β} (holds : P b) : P (reset ctx b).1
  update (step : Float32) (ctx : Context) {b : β} (holds : P b) : P (update step ctx b).2.1
  onTrigger (tag : String) {b : β} (holds : P b) : P (onTrigger tag b)

theorem Behaves.Keeps.enter {P : β → Prop} (keeps : Keeps P) (ctx : Context) {b : β}
    (holds : P b) : P (Behaves.enter ctx b).1 :=
  keeps.activate _ (keeps.reset ctx holds)

/-! ## States -/

namespace State

structure Below (P : β → Prop) (s : State β) : Prop where
  behavior : ∀ b ∈ s.behavior, P b
  exit : ∀ b ∈ s.exit, P b

namespace Below

variable {P : β → Prop} {s : State β}

theorem activate (below : s.Below P) (keeps : Behaves.Keeps P) (ctx : Context) :
    (s.activate ctx).1.Below P := by
  unfold State.activate
  split
  · exact below
  · exact ⟨forall_mem_actOn (fun ctx _ => keeps.activate ctx) ctx below.behavior, below.exit⟩

theorem deactivate (below : s.Below P) (keeps : Behaves.Keeps P) (ctx : Context) :
    (s.deactivate ctx).1.Below P := by
  unfold State.deactivate
  split
  · exact ⟨forall_mem_actOn (fun ctx _ => keeps.deactivate ctx) ctx below.behavior, below.exit⟩
  · exact below

theorem reset (below : s.Below P) (keeps : Behaves.Keeps P) (ctx : Context) :
    (s.reset ctx).1.Below P :=
  ⟨forall_mem_actOn (fun ctx _ => keeps.reset ctx) ctx below.behavior, below.exit⟩

theorem enter (below : s.Below P) (keeps : Behaves.Keeps P) (ctx : Context) :
    (s.enter ctx).1.Below P :=
  (below.reset keeps ctx).activate keeps _

theorem update (below : s.Below P) (keeps : Behaves.Keeps P) (step : Float32) (ctx : Context) :
    (s.update step ctx).1.Below P := by
  have ran : ∀ b ∈ (runBehavior step ctx s.behavior).2.1, P b := by
    cases placed : s.behavior with
    | none => nofun
    | some b =>
      intro b' made
      cases made
      exact keeps.update step ctx (below.behavior b placed)
  unfold State.update
  split
  · dsimp only
    split <;> exact ⟨ran, below.exit⟩
  · exact below

omit [Behaves β] in
theorem checkTransitions (below : s.Below P) (step : Float32) (ctx : Context) :
    (s.checkTransitions step ctx).2.1.Below P := by
  unfold State.checkTransitions
  split <;> exact ⟨below.behavior, below.exit⟩

theorem leave (below : s.Below P) (keeps : Behaves.Keeps P) (ctx : Context) :
    (s.leave ctx).1.Below P := by
  have rested := below.deactivate keeps ctx
  have completed (ctx : Context) (b : β) (holds : P b) : P (complete ctx b).1 :=
    keeps.deactivate _ (keeps.update _ _ (keeps.enter ctx holds))
  exact ⟨rested.behavior, forall_mem_actOn completed _ rested.exit⟩

theorem onTrigger (below : s.Below P) (keeps : Behaves.Keeps P) (tag : String) :
    (s.onTrigger tag).Below P := by
  unfold State.onTrigger
  split
  · refine ⟨?_, below.exit⟩
    intro b member
    obtain ⟨b', inside, rfl⟩ := Option.map_eq_some_iff.mp member
    exact keeps.onTrigger tag (below.behavior b' inside)
  · exact below

end Below

end State

/-! ## Sequences and parallels -/

section Composites

variable {P : β → Prop}

theorem Sequence.below_ready (keeps : Behaves.Keeps P) (started : Bool) (ctx : Context) {c : β}
    (holds : P c) : P (ready started ctx c).1 := by
  cases started with
  | true => exact holds
  | false => exact keeps.enter ctx holds

theorem Sequence.below_run (keeps : Behaves.Keeps P) (started : Bool) (step : Float32)
    (ctx : Context) {l : List β} (below : ∀ c ∈ l, P c) :
    ∀ c ∈ (run started step ctx l).2.2.1, P c := by
  induction l generalizing started step ctx with
  | nil => exact below
  | cons c rest ih =>
    obtain ⟨first, others⟩ := List.forall_mem_cons.mp below
    have updated := keeps.update step (ready started ctx c).2 (below_ready keeps started ctx first)
    rw [run_cons]
    dsimp only
    split
    · exact List.forall_mem_cons.mpr ⟨keeps.deactivate _ updated, ih _ _ _ others⟩
    · exact List.forall_mem_cons.mpr ⟨updated, others⟩

theorem Parallel.below_start (keeps : Behaves.Keeps P) (ctx : Context) {p : Parallel β}
    (below : ∀ l ∈ p.lanes, P l.child) : ∀ l ∈ (p.start ctx).1.lanes, P l.child := by
  refine forall_mem_actAll (fun ctx l => keeps.enter ctx) ctx ?_
  intro l member
  obtain ⟨l', inside, rfl⟩ := List.mem_map.mp member
  exact below l' inside

theorem Parallel.below_run (keeps : Behaves.Keeps P) (step least : Float32) (ctx : Context)
    {lanes : List (Lane β)} (below : ∀ l ∈ lanes, P l.child) :
    ∀ l ∈ (run step least ctx lanes).2.1, P l.child := by
  induction lanes generalizing least ctx with
  | nil => exact below
  | cons l rest ih =>
    obtain ⟨first, others⟩ := List.forall_mem_cons.mp below
    have updated := keeps.update step ctx first
    rw [run_cons]
    split
    · exact List.forall_mem_cons.mpr ⟨first, ih _ _ others⟩
    · dsimp only
      split
      · exact List.forall_mem_cons.mpr ⟨keeps.deactivate _ updated, ih _ _ others⟩
      · exact List.forall_mem_cons.mpr ⟨updated, ih _ _ others⟩

end Composites

/-! ## Machines -/

namespace Machine

variable {P : β → Prop} {m : Machine β}

theorem below_enterInitial (keeps : Behaves.Keeps P) (ctx : Context)
    (below : ∀ s ∈ m.states, s.Below P) : ∀ s ∈ (m.enterInitial ctx).1.states, s.Below P := by
  unfold enterInitial
  split
  · exact below
  · exact forall_mem_actOnCurrent (fun ctx _ below => below.enter keeps ctx) ctx below

theorem below_switchTo (keeps : Behaves.Keeps P) (ctx : Context) (target : String)
    (below : ∀ s ∈ m.states, s.Below P) :
    ∀ s ∈ (m.switchTo ctx target).1.states, s.Below P := by
  unfold switchTo
  split
  · exact below
  · exact forall_mem_actOnCurrent (fun ctx _ below => below.enter keeps ctx) _
      (forall_mem_actOnCurrent (fun ctx _ below => below.leave keeps ctx) ctx below)

theorem below_ready (keeps : Behaves.Keeps P) (ctx : Context)
    (below : ∀ s ∈ m.states, s.Below P) : ∀ s ∈ (m.ready ctx).1.states, s.Below P := by
  unfold ready
  split
  · exact below
  · exact below_enterInitial keeps ctx below

theorem below_onUpdate (keeps : Behaves.Keeps P) (step : Float32) (ctx : Context)
    (below : ∀ s ∈ m.states, s.Below P) : ∀ s ∈ (m.onUpdate step ctx).2.1.states, s.Below P := by
  have readied := below_ready keeps ctx below
  unfold onUpdate
  dsimp only
  split
  · exact readied
  · rename_i i _
    split
    · exact readied
    · rename_i s found
      have ticked : (tick step (m.ready ctx).2 s).2.1.Below P :=
        ((readied s (List.mem_of_getElem? found)).update keeps step _).checkTransitions step _
      have kept : ∀ s' ∈ (m.ready ctx).1.states.set i (tick step (m.ready ctx).2 s).2.1,
          s'.Below P := by
        intro s' member
        rcases List.mem_or_eq_of_mem_set member with old | rfl
        · exact readied s' old
        · exact ticked
      unfold advance
      dsimp only
      split
      · exact kept
      · exact below_switchTo keeps _ _ kept

end Machine

/-! ## Nodes -/

namespace Logic

def Below (P : β → Prop) : Logic β → Prop
  | task _ => True
  | sequence s => ∀ c ∈ s.children, P c
  | parallel p => ∀ l ∈ p.lanes, P l.child
  | machine m => ∀ s ∈ m.states, s.Below P

namespace Below

variable {P : β → Prop} {l : Logic β}

theorem onActivate (below : l.Below P) (keeps : Behaves.Keeps P) (ctx : Context) :
    (l.onActivate ctx).1.Below P := by
  cases l with
  | task t => trivial
  | sequence s =>
    simp only [Logic.onActivate, Sequence.onActivate]
    split
    · exact forall_mem_actAt (fun ctx _ => keeps.activate ctx) ctx _ below
    · exact forall_mem_actAt (fun ctx _ => keeps.enter ctx) ctx _ below
  | parallel p =>
    simp only [Logic.onActivate, Parallel.onActivate]
    split
    · refine forall_mem_actAll (fun ctx lane holds => ?_) ctx below
      unfold Lane.actIfRunning
      split
      · exact holds
      · exact keeps.activate ctx holds
    · exact Parallel.below_start keeps ctx below
  | machine m =>
    simp only [Logic.onActivate, Machine.onActivate]
    split
    · exact Machine.forall_mem_actOnCurrent (fun ctx _ below => below.activate keeps ctx) ctx below
    · exact Machine.below_enterInitial keeps ctx below

theorem onDeactivate (below : l.Below P) (keeps : Behaves.Keeps P) (ctx : Context) :
    (l.onDeactivate ctx).1.Below P := by
  cases l with
  | task t => trivial
  | sequence s => exact forall_mem_actAt (fun ctx _ => keeps.deactivate ctx) ctx _ below
  | parallel p => exact forall_mem_actAll (fun ctx _ => keeps.deactivate ctx) ctx below
  | machine m =>
    exact Machine.forall_mem_actOnCurrent (fun ctx _ below => below.deactivate keeps ctx) ctx below

theorem onReset (below : l.Below P) (keeps : Behaves.Keeps P) (ctx : Context) :
    (l.onReset ctx).1.Below P := by
  cases l with
  | task t => trivial
  | sequence s =>
    simp only [Logic.onReset, Sequence.onReset]
    split
    · exact forall_mem_actAt (fun ctx _ => keeps.deactivate ctx) ctx _ below
    · exact below
  | parallel p =>
    intro lane member
    obtain ⟨lane', inside, rfl⟩ := List.mem_map.mp member
    exact forall_mem_actAll (fun ctx _ => keeps.deactivate ctx) ctx below lane' inside
  | machine m =>
    exact Machine.forall_mem_actOnCurrent (fun ctx _ below => below.deactivate keeps ctx) ctx below

omit [Behaves β] in
theorem onBegin (below : l.Below P) (ctx : Context) : (l.onBegin ctx).1.Below P := by
  cases l with
  | task t => trivial
  | _ => exact below

theorem onUpdate (below : l.Below P) (keeps : Behaves.Keeps P) (step : Float32) (ctx : Context) :
    (l.onUpdate step ctx).2.1.Below P := by
  cases l with
  | task t => trivial
  | sequence s =>
    intro c member
    rcases List.mem_append.mp member with before | ran
    · exact below c (List.mem_of_mem_take before)
    · exact Sequence.below_run keeps s.started step ctx
        (fun c inside => below c (List.mem_of_mem_drop inside)) c ran
  | parallel p =>
    have readied : ∀ lane ∈ (p.ready ctx).1.lanes, P lane.child := by
      unfold Parallel.ready
      split
      · exact below
      · exact Parallel.below_start keeps ctx below
    exact Parallel.below_run keeps step step (p.ready ctx).2 readied
  | machine m => exact Machine.below_onUpdate keeps step ctx below

theorem onTrigger (below : l.Below P) (keeps : Behaves.Keeps P) (tag : String) :
    (l.onTrigger tag).Below P := by
  cases l with
  | task t => trivial
  | sequence s => exact forall_mem_modify (P := P) (fun _ => keeps.onTrigger tag) _ below
  | parallel p =>
    intro lane member
    obtain ⟨lane', inside, rfl⟩ := List.mem_map.mp member
    split
    · exact below lane' inside
    · exact keeps.onTrigger tag (below lane' inside)
  | machine m =>
    simp only [Logic.onTrigger, Machine.onTrigger]
    split
    · exact below
    · exact forall_mem_modify (fun _ below => below.onTrigger keeps tag) _ below

end Below

end Logic

/-! ## Histories -/

namespace Handle

variable {height : Nat} {P : Node (Behavior height) → Prop} {n : Node (Behavior height)}

/-- What a behavior keeps holds of it after every call of its owner. -/
theorem exists_call (keeps : Behaves.Keeps P) (holds : P n) (ctx : Context) (c : Call) :
    ∃ n', ((live height (.behavior n)).call ctx c).1 = live height (.behavior n') ∧ P n' := by
  cases c with
  | activate => exact ⟨_, rfl, keeps.activate ctx holds⟩
  | deactivate => exact ⟨_, rfl, keeps.deactivate ctx holds⟩
  | reset => exact ⟨_, rfl, keeps.reset ctx holds⟩
  | enter => exact ⟨_, rfl, keeps.enter ctx holds⟩
  | leave => exact ⟨n, rfl, holds⟩
  | update step => exact ⟨_, rfl, keeps.update step ctx holds⟩
  | check step => exact ⟨n, rfl, holds⟩
  | trigger tag => exact ⟨_, rfl, keeps.onTrigger tag holds⟩

theorem exists_run (keeps : Behaves.Keeps P) (holds : P n) (calls : List (Context × Call)) :
    ∃ n', (live height (.behavior n)).run calls = live height (.behavior n') ∧ P n' := by
  induction calls generalizing n with
  | nil => exact ⟨n, rfl, holds⟩
  | cons c rest ih =>
    obtain ⟨n', called, holds'⟩ := exists_call keeps holds c.1 c.2
    obtain ⟨last, ran, holds''⟩ := ih holds'
    refine ⟨last, ?_, holds''⟩
    rw [run, called]
    exact ran

end Handle

end SkillScript
