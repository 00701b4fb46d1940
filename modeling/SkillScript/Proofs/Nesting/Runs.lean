import SkillScript.Proofs.Status.Composite
import SkillScript.Proofs.Status.Node
import SkillScript.Proofs.Timing.Forward
import SkillScript.Proofs.Tree.Traces
/-!
# Runs of sequences within sequences

A run over two lists after one another is a run over the first one, which goes on over
the second one with what is left of the step if all children of the first got through.
A sequence that stands among the children of a sequence runs its own children in its
turn: a run over it is a run over them, which goes on behind it when they are through.
-/
set_option autoImplicit false
namespace SkillScript

variable {β : Type} [Behaves β]

namespace Sequence

theorem onUpdate_of_run {s : Sequence β} {step left : Float32} {ctx after : Context} {through : Nat}
    {l : List β}
    (ran : run s.started step ctx (s.children.drop s.index) = (left, through, l, after)) :
    s.onUpdate step ctx = (left, ⟨s.children.take s.index ++ l, s.index + through, true⟩, after) := by
  rw [onUpdate_eq, ran]

/-! ## Runs over two lists -/

theorem through_run_le (started : Bool) (step : Float32) (ctx : Context) (l : List β) :
    (run started step ctx l).2.1 ≤ l.length := by
  induction l generalizing started step ctx with
  | nil => exact Nat.le_refl 0
  | cons c rest ih =>
    rw [run_cons]
    dsimp only
    split
    · exact Nat.succ_le_succ (ih _ _ _)
    · exact Nat.zero_le _

theorem run_append (started : Bool) (step : Float32) (ctx : Context) (l l' : List β) :
    run started step ctx (l ++ l') =
      let first := run started step ctx l
      if first.2.1 = l.length then
        let later := run (started && l.isEmpty) first.1 first.2.2.2 l'
        (later.1, l.length + later.2.1, first.2.2.1 ++ later.2.2.1, later.2.2.2)
      else (0, first.2.1, first.2.2.1 ++ l', first.2.2.2) := by
  induction l generalizing started step ctx with
  | nil => simp [run]
  | cons c rest ih =>
    simp only [List.cons_append, run_cons, ih]
    split
    · simp only [Bool.false_and, List.isEmpty_cons, Bool.and_false, List.length_cons,
        Nat.add_right_cancel_iff]
      split
      · refine Prod.ext rfl (Prod.ext ?_ rfl)
        show rest.length + _ + 1 = rest.length + 1 + _
        omega
      · rfl
    · rfl

theorem traceRun_append [Tracing β] (started : Bool) (step : Float32) (ctx : Context)
    (l l' : List β) :
    traceRun started step ctx (l ++ l') =
      let first := run started step ctx l
      traceRun started step ctx l ++
        if first.2.1 = l.length then
          traceRun (started && l.isEmpty) first.1 first.2.2.2 l'
        else [] := by
  induction l generalizing started step ctx with
  | nil => simp [run, traceRun]
  | cons c rest ih =>
    simp only [List.cons_append, traceRun, run_cons, ih, List.append_assoc]
    congr 1
    split
    · simp
    · simp

/-- A child that is entered first has been started. -/
theorem run_enter (step : Float32) (ctx : Context) (l : List β) :
    run true step (actAt Behaves.enter ctx 0 l).2 (actAt Behaves.enter ctx 0 l).1 =
      run false step ctx l := by
  cases l <;> rfl

theorem traceRun_enter [Tracing β] (step : Float32) (ctx : Context) (l : List β) :
    traceRun true step (actAt Behaves.enter ctx 0 l).2 (actAt Behaves.enter ctx 0 l).1 =
      traceRun false step ctx l := by
  cases l <;> rfl

end Sequence

/-! ## Runs over a sequence -/

def Node.ofSequence (active begun : Bool) (s : Sequence β) : Node β :=
  ⟨active, begun, .sequence s⟩

namespace Sequence

def resume (started : Bool) (s : Sequence β) : Nat :=
  if started then s.index else 0

/-- A sequence that has its turn. Either it was started and is active, or it is yet to be entered
and all its children rest. -/
structure Due (started active : Bool) (s : Sequence β) : Prop where
  status : active = started
  running : started = true → s.started = true
  within : started = true → s.index ≤ s.children.length
  resting : started = false → ∀ c ∈ s.children, Behaves.isActive c = false

variable {started active begun : Bool} {s : Sequence β} {step : Float32}

theorem Due.resume_le (due : s.Due started active) : s.resume started ≤ s.children.length := by
  cases started with
  | true => exact due.within rfl
  | false => exact Nat.zero_le _

theorem activate_ofSequence (running : s.started = true) (ctx : Context) :
    let ran := actAt Behaves.activate ctx s.index s.children
    Behaves.activate ctx (Node.ofSequence false begun s) =
      (Node.ofSequence true begun { s with children := ran.1 }, ran.2) := by
  obtain ⟨l, k, started⟩ := s
  cases running
  rfl

theorem deactivate_ofSequence (ctx : Context) (s : Sequence β) :
    let ran := actAt Behaves.deactivate ctx s.index s.children
    Behaves.deactivate ctx (Node.ofSequence true begun s) =
      (Node.ofSequence false begun { s with children := ran.1 }, ran.2) :=
  rfl

theorem actAt_deactivate_of_resting [Behaves.Reserved β] (ctx : Context) (k : Nat) {l : List β}
    (resting : ∀ c ∈ l, Behaves.isActive c = false) :
    actAt Behaves.deactivate ctx k l = (l, ctx) :=
  actAt_of_fixed (fun c member => Behaves.Reserved.deactivate_of_resting ctx (resting c member)) k

/-- Entering a sequence starts it at its first child. -/
theorem enter_ofSequence [Behaves.Reserved β] (ctx : Context)
    (resting : ∀ c ∈ s.children, Behaves.isActive c = false) :
    Behaves.enter ctx (Node.ofSequence false begun s) =
      (Node.ofSequence true false ⟨(actAt Behaves.enter ctx 0 s.children).1, 0, true⟩,
        (actAt Behaves.enter ctx 0 s.children).2) := by
  have still := actAt_deactivate_of_resting ctx s.index resting
  have reset : s.onReset ctx = (⟨s.children, 0, false⟩, ctx) := by
    cases started : s.started with
    | true => simp only [onReset, started, if_true, still]
    | false => simp [onReset, started]
  show Node.activate ((Node.ofSequence false begun s).reset ctx).2
    ((Node.ofSequence false begun s).reset ctx).1 = _
  simp only [Node.reset, Node.ofSequence, Logic.onReset, reset]
  rfl

theorem update_ofSequence (forward : ¬ step < 0) (ctx : Context) (l : List β) (k : Nat) :
    Behaves.update step ctx (Node.ofSequence true begun ⟨l, k, true⟩) =
      let ran := run true step ctx (l.drop k)
      (ran.1, Node.ofSequence true true ⟨l.take k ++ ran.2.2.1, k + ran.2.1, true⟩,
        ran.2.2.2) := by
  show Node.update step ctx _ = _
  cases begun <;> simp only [Node.update, Node.begin, Node.ofSequence, if_neg forward] <;> rfl

/-! A sequence that is made ready has its first child entered, or was entered before. -/

def readied (started : Bool) (ctx : Context) (s : Sequence β) : List β × Context :=
  if started then (s.children, ctx) else actAt Behaves.enter ctx 0 s.children

theorem take_readied (started : Bool) (ctx : Context) (s : Sequence β) :
    (s.readied started ctx).1.take (s.resume started) =
      s.children.take (s.resume started) := by
  cases started <;> rfl

theorem run_readied (started : Bool) (step : Float32) (ctx : Context) (s : Sequence β) :
    run true step (s.readied started ctx).2
        ((s.readied started ctx).1.drop (s.resume started)) =
      run started step ctx (s.children.drop (s.resume started)) := by
  cases started with
  | true => rfl
  | false => exact run_enter step ctx s.children

theorem traceRun_readied [Tracing β] (started : Bool) (step : Float32) (ctx : Context)
    (s : Sequence β) :
    traceRun true step (s.readied started ctx).2
        ((s.readied started ctx).1.drop (s.resume started)) =
      traceRun started step ctx (s.children.drop (s.resume started)) := by
  cases started with
  | true => rfl
  | false => exact traceRun_enter step ctx s.children

theorem Due.ready_ofSequence [Behaves.Reserved β] (due : s.Due started active) (ctx : Context) :
    ready started ctx (Node.ofSequence active begun s) =
      (Node.ofSequence true (started && begun)
          ⟨(s.readied started ctx).1, s.resume started, true⟩,
        (s.readied started ctx).2) := by
  obtain rfl := due.status
  cases active with
  | true =>
    have running := due.running rfl
    obtain ⟨l, k, t⟩ := s
    cases running
    rfl
  | false => exact enter_ofSequence ctx (due.resting rfl)

def turned (started : Bool) (step : Float32) (ctx : Context) (s : Sequence β) : Node β :=
  let k := s.resume started
  let ran := run started step ctx (s.children.drop k)
  Node.ofSequence true true ⟨s.children.take k ++ ran.2.2.1, k + ran.2.1, true⟩

def passed (started : Bool) (step : Float32) (ctx : Context) (s : Sequence β) : Sequence β :=
  let k := s.resume started
  ⟨s.children.take k ++ (run started step ctx (s.children.drop k)).2.2.1, s.children.length, true⟩

theorem Due.update_ready [Behaves.Reserved β] (due : s.Due started active)
    (forward : ¬ step < 0) (ctx : Context) :
    let c := ready started ctx (Node.ofSequence active begun s)
    let ran := run started step ctx (s.children.drop (s.resume started))
    Behaves.update step c.2 c.1 = (ran.1, s.turned started step ctx, ran.2.2.2) := by
  dsimp only
  rw [due.ready_ofSequence, update_ofSequence forward, run_readied, take_readied]
  rfl

theorem Due.length_passed (due : s.Due started active) (step : Float32) (ctx : Context) :
    (s.passed started step ctx).children.length = s.children.length := by
  have within := due.resume_le
  simp only [passed, List.length_append, length_run, List.length_take, List.length_drop]
  omega

/-- After its turn a sequence can stop if all its children got through. -/
theorem Due.canStop_turned (due : s.Due started active) (step : Float32) (ctx : Context) :
    Behaves.canStop (s.turned started step ctx) =
      decide ((run started step ctx (s.children.drop (s.resume started))).2.1 =
        (s.children.drop (s.resume started)).length) := by
  have within := due.resume_le
  have bound := through_run_le started step ctx (s.children.drop (s.resume started))
  have total := due.length_passed step ctx
  show decide ((s.passed started step ctx).children.length ≤ s.resume started + _) = _
  rw [decide_eq_decide, total]
  rw [List.length_drop] at bound ⊢
  omega

theorem Due.deactivate_turned (due : s.Due started active) (step : Float32) (ctx : Context)
    (all : (run started step ctx (s.children.drop (s.resume started))).2.1 =
      (s.children.drop (s.resume started)).length) (after : Context) :
    Behaves.deactivate after (s.turned started step ctx) =
      (Node.ofSequence false true (s.passed started step ctx), after) := by
  have within := due.resume_le
  have last : s.resume started +
      (run started step ctx (s.children.drop (s.resume started))).2.1 = s.children.length := by
    rw [all, List.length_drop]
    omega
  have total : (s.passed started step ctx).children.length ≤ (s.passed started step ctx).index :=
    (due.length_passed step ctx).le
  -- Nothing is active behind the last child, so nothing else is put to rest.
  have still : actAt Behaves.deactivate after (s.passed started step ctx).index
      (s.passed started step ctx).children = ((s.passed started step ctx).children, after) := by
    rw [actAt_eq, List.getElem?_eq_none total]
  have same : s.turned started step ctx = Node.ofSequence true true (s.passed started step ctx) := by
    simp only [turned, last]
    rfl
  rw [same, deactivate_ofSequence]
  simp only [still]

/-- What a sequence does in its turn. -/
theorem Due.run_ofSequence [Behaves.Reserved β] (due : s.Due started active)
    (forward : ¬ step < 0) (ctx : Context) (rest : List (Node β)) :
    run started step ctx (Node.ofSequence active begun s :: rest) =
      let l := s.children.drop (s.resume started)
      let ran := run started step ctx l
      if ran.2.1 = l.length then
        let later := run false ran.1 ran.2.2.2 rest
        (later.1, later.2.1 + 1,
          Node.ofSequence false true (s.passed started step ctx) :: later.2.2.1, later.2.2.2)
      else (0, 0, s.turned started step ctx :: rest, ran.2.2.2) := by
  have stops := due.canStop_turned step ctx
  rw [run_cons]
  dsimp only
  rw [due.update_ready forward ctx]
  by_cases all : (run started step ctx (s.children.drop (s.resume started))).2.1 =
      (s.children.drop (s.resume started)).length
  · rw [decide_eq_true all] at stops
    rw [if_pos all, if_pos stops, due.deactivate_turned step ctx all]
  · rw [decide_eq_false all] at stops
    rw [if_neg all, if_neg (by rw [stops]; exact Bool.false_ne_true)]

theorem Due.traceRun_ofSequence [Behaves.Reserved β] [Tracing β] (due : s.Due started active)
    (forward : ¬ step < 0) (ctx : Context) (rest : List (Node β)) :
    traceRun started step ctx (Node.ofSequence active begun s :: rest) =
      let l := s.children.drop (s.resume started)
      let ran := run started step ctx l
      traceRun started step ctx l ++
        if ran.2.1 = l.length then traceRun false ran.1 ran.2.2.2 rest else [] := by
  have stops := due.canStop_turned step ctx
  have traced (b : Bool) (ctx : Context) (l : List β) (k : Nat) :
      trace step ctx (Node.ofSequence true b ⟨l, k, true⟩) = traceRun true step ctx (l.drop k) := by
    show Node.traceUpdate step ctx _ = _
    cases b <;> simp [Node.traceUpdate, Node.begin, Node.ofSequence, if_neg forward,
      Logic.traceBegin, Logic.onBegin, Logic.traceUpdate]
  rw [traceRun]
  dsimp only
  rw [due.update_ready forward ctx, due.ready_ofSequence, traced, traceRun_readied]
  congr 1
  by_cases all : (run started step ctx (s.children.drop (s.resume started))).2.1 =
      (s.children.drop (s.resume started)).length
  · rw [decide_eq_true all] at stops
    rw [if_pos all, if_pos stops, due.deactivate_turned step ctx all]
  · rw [decide_eq_false all] at stops
    rw [if_neg all, if_neg (by rw [stops]; exact Bool.false_ne_true)]

end Sequence

end SkillScript
