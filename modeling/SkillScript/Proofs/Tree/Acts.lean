import SkillScript.Proofs.Tree.Quiet
import SkillScript.Proofs.Tree.Traces
/-!
# Traces tell it all

Nothing that an update does to its scope is missing from its trace, and nothing in it is
made up. Each scope of the trace comes from the one before by one act: a task begins or
is updated, or an event is published. Between two acts nodes are entered or put to rest,
which changes only who listens to the bus.
-/
set_option autoImplicit false
namespace SkillScript

namespace Scope

def mute (s : Scope) : Scope :=
  { s with bus.listeners := [] }

/-- One act, from the scope that it finds to the one that it leaves. -/
inductive Act : Scope → Scope → Prop where
  | begin (t : Task) (s : Scope) : Act s (t.begin s).2
  | update (t : Task) (step : Float32) (s : Scope) : Act s (t.update step s).2.2
  | publish (event : String) (s : Scope) : Act s (s.publish event ∅)

/-- Scopes that lead from one to another, each the work of one act. -/
inductive Leads : List Scope → Scope → Scope → Prop where
  | nil {s s' : Scope} (same : s'.mute = s.mute) : Leads [] s s'
  | cons {s before after s' : Scope} {l : List Scope} (same : before.mute = s.mute)
      (act : Act before after) (rest : Leads l after s') : Leads (after :: l) s s'

end Scope

def Leads (l : List Scope) (before after : Context) : Prop :=
  Scope.Leads l before.toScope after.toScope

namespace Leads

variable {l l' : List Scope} {a b c : Context}

theorem silent (same : b.mute = a.mute) : Leads [] a b :=
  .nil (congrArg Context.toScope same)

theorem pardoned (same : b.pardon = a.pardon) : Leads [] a b :=
  .nil (congrArg Scope.mute (Context.toScope_eq_of_pardon same))

theorem of_act {s : Scope} (act : Scope.Act a.toScope s) (after : b.toScope = s) :
    Leads [s] a b := by
  subst after
  exact .cons rfl act (.nil rfl)

/-- What happens before only to the listeners leaves no trace. -/
theorem after_muted (leads : Leads l b c) (same : b.mute = a.mute) : Leads l a c := by
  have known : b.toScope.mute = a.toScope.mute := congrArg Context.toScope same
  unfold Leads at leads ⊢
  cases leads with
  | nil later => exact .nil (later.trans known)
  | cons later act rest => exact .cons (later.trans known) act rest

theorem append (first : Leads l a b) (second : Leads l' b c) : Leads (l ++ l') a c := by
  unfold Leads at first second ⊢
  generalize a.toScope = s at first
  generalize b.toScope = s₁ at first second
  induction first with
  | nil same =>
    cases second with
    | nil later => exact .nil (later.trans same)
    | cons later act rest => exact .cons (later.trans same) act rest
  | cons same act rest ih => exact .cons same act (ih second)

/-- What happens behind it only to the listeners leaves no trace. -/
theorem muted (leads : Leads l a b) (same : c.mute = b.mute) : Leads l a c := by
  have all := leads.append (silent same)
  rwa [List.append_nil] at all

end Leads

variable {β : Type}

class Behaves.Traced (β : Type) [Behaves β] [Tracing β] : Prop where
  leads (step : Float32) (ctx : Context) (b : β) :
    Leads (trace step ctx b) ctx (update step ctx b).2.2

instance : Behaves.Traced Empty where
  leads _ _ b := nomatch b

section Ends

open Behaves.Traced

variable [Behaves β] [Behaves.Quiet β] [Tracing β] [Behaves.Traced β] (step : Float32)
  (ctx : Context)

theorem Sequence.leads_run (started : Bool) (l : List β) :
    Leads (traceRun started step ctx l) ctx (run started step ctx l).2.2.2 := by
  induction l generalizing started step ctx with
  | nil => exact Leads.silent rfl
  | cons b rest ih =>
    have readied : (ready started ctx b).2.mute = ctx.mute := by
      cases started with
      | true => rfl
      | false => exact Behaves.mute_enter ctx b
    rw [traceRun, run_cons]
    dsimp only
    have first := (leads step (ready started ctx b).2 (ready started ctx b).1).after_muted readied
    split
    · exact (first.muted (Behaves.Quiet.mute_deactivate _ _)).append (ih _ _ false)
    · rw [List.append_nil]
      exact first

theorem Parallel.leads_run (least : Float32) (l : List (Lane β)) :
    Leads (traceRun step ctx l) ctx (run step least ctx l).2.2 := by
  induction l generalizing least ctx with
  | nil => exact Leads.silent rfl
  | cons lane rest ih =>
    rw [traceRun, run_cons]
    dsimp only
    split
    · exact ih ctx least
    · have first := leads step ctx lane.child
      split
      · exact (first.muted (Behaves.Quiet.mute_deactivate _ _)).append (ih _ _)
      · exact first.append (ih _ _)

namespace State

omit [Behaves.Quiet β] in
theorem leads_update (s : State β) :
    Leads (s.traceUpdate step ctx) ctx (s.update step ctx).2 := by
  cases active : s.active with
  | false =>
    simp only [traceUpdate, update, active]
    exact Leads.pardoned rfl
  | true =>
    have ran : Leads (s.behavior.elim [] (trace step ctx)) ctx
        (runBehavior step ctx s.behavior).2.2 := by
      cases s.behavior with
      | none => exact .silent rfl
      | some b => exact leads step ctx b
    simp only [traceUpdate, active, if_true]
    cases ends : (runBehavior step ctx s.behavior).1 && !s.ended with
    | true =>
      have ended : (s.update step ctx).1.ended = true := by simp [update, active, ends]
      have running : s.ended = false := by simpa using (Bool.and_eq_true_iff.mp ends).2
      rw [ended, running, if_pos (by decide)]
      refine ran.append ?_
      cases event : s.endEvent with
      | none =>
        have same : (s.update step ctx).2 = (runBehavior step ctx s.behavior).2.2 := by
          simp [update, active, ends, event]
        rw [same]
        exact .silent rfl
      | some name =>
        have same : (s.update step ctx).2 =
            (runBehavior step ctx s.behavior).2.2.publish name ∅ := by
          simp [update, active, ends, event]
        rw [same]
        exact .of_act (.publish name _) rfl
    | false =>
      have kept : (s.update step ctx).1.ended = s.ended := by simp [update, active, ends]
      have same : (s.update step ctx).2 = (runBehavior step ctx s.behavior).2.2 := by
        simp [update, active, ends]
      rw [kept, same, Bool.and_not_self, if_neg Bool.false_ne_true, List.append_nil]
      exact ran

omit [Behaves β] [Behaves.Quiet β] [Tracing β] [Behaves.Traced β] in
theorem leads_checkTransitions (s : State β) :
    Leads [] ctx (s.checkTransitions step ctx).2.2 := by
  unfold checkTransitions
  split
  · exact .pardoned (Transition.pardon_checkFirst step ctx s.transitions)
  · exact .silent rfl

theorem leads_complete (b : β) : Leads (traceComplete ctx b) ctx (complete ctx b).2 :=
  ((leads _ _ _).after_muted (Behaves.mute_enter ctx b)).muted
    (Behaves.Quiet.mute_deactivate _ _)

theorem leads_leave (s : State β) : Leads (s.traceLeave ctx) ctx (s.leave ctx).2 := by
  have rested := s.mute_deactivate ctx
  have same : (s.deactivate ctx).1.exit = s.exit := by
    unfold deactivate
    split <;> rfl
  simp only [traceLeave, leave, same]
  cases s.exit with
  | none => exact Leads.silent rested
  | some b => exact (leads_complete _ b).after_muted rested

end State

namespace Machine

omit [Behaves β] [Behaves.Quiet β] [Tracing β] [Behaves.Traced β] in
theorem actOnCurrent_set (f : Context → State β → State β × Context) {m : Machine β} {i : Nat}
    (current : m.current = some i) (within : i < m.states.length) (s : State β) :
    (({ m with states := m.states.set i s } : Machine β).actOnCurrent f ctx).2 = (f ctx s).2 := by
  simp [actOnCurrent, current, actAt_eq, within]

theorem leads_switchTo {m : Machine β} {i : Nat} (current : m.current = some i)
    (within : i < m.states.length) (s : State β) (target : String) :
    Leads (match m.index.find? target with | none => [] | some _ => s.traceLeave ctx) ctx
      (({ m with states := m.states.set i s } : Machine β).switchTo ctx target).2 := by
  unfold switchTo
  dsimp only
  cases m.index.find? target with
  | none => exact .silent rfl
  | some next =>
    dsimp only
    have left := actOnCurrent_set ctx State.leave current within s
    refine Leads.muted ?_ (mute_enterAt _ _ next)
    rw [left]
    exact s.leads_leave ctx

theorem leads_advance {m : Machine β} {i : Nat} {s : State β} (current : m.current = some i)
    (found : m.states[i]? = some s) :
    Leads (m.traceTick step ctx s) ctx (m.advance step ctx i s).2 := by
  have within : i < m.states.length := (List.getElem?_eq_some_iff.mp found).1
  have ticked := (s.leads_update step ctx).append
    (State.leads_checkTransitions step (s.update step ctx).2 (s.update step ctx).1)
  rw [List.append_nil] at ticked
  unfold traceTick advance
  dsimp only
  refine ticked.append ?_
  cases (tick step ctx s).1 with
  | none => exact .silent rfl
  | some target => exact leads_switchTo _ current within _ target

theorem leads_onUpdate (m : Machine β) :
    Leads (m.traceUpdate step ctx) ctx (m.onUpdate step ctx).2.2 := by
  have readied : (m.ready ctx).2.mute = ctx.mute := by
    unfold ready
    split
    · rfl
    · exact m.mute_enterInitial ctx
  unfold traceUpdate onUpdate
  dsimp only
  cases current : (m.ready ctx).1.current with
  | none =>
    simp only [currentState?, current, Option.bind_none, Option.elim_none]
    exact .silent readied
  | some i =>
    simp only [currentState?, current, Option.bind_some]
    cases found : (m.ready ctx).1.states[i]? with
    | none => exact .silent readied
    | some s => exact (leads_advance step _ current found).after_muted readied

end Machine

theorem Logic.leads_onUpdate (l : Logic β) :
    Leads (l.traceUpdate step ctx) ctx (l.onUpdate step ctx).2.2 := by
  cases l with
  | task t => exact .of_act (.update t step ctx.toScope) rfl
  | sequence s => exact Sequence.leads_run step ctx s.started _
  | parallel p =>
    have readied : (p.ready ctx).2.mute = ctx.mute := by
      unfold Parallel.ready
      split
      · rfl
      · exact p.mute_start ctx
    exact (Parallel.leads_run step _ step _).after_muted readied
  | machine m => exact m.leads_onUpdate step ctx

end Ends

instance Node.traced [Behaves β] [Behaves.Quiet β] [Tracing β] [Behaves.Traced β] :
    Behaves.Traced (Node β) where
  leads step ctx n := by
    show Leads (n.traceUpdate step ctx) ctx (n.update step ctx).2.2
    unfold traceUpdate update
    split
    · have begun : Leads (if n.begun then [] else n.logic.traceBegin ctx) ctx (n.begin ctx).2 := by
        unfold begin
        split
        · exact .silent rfl
        · cases n.logic with
          | task t => exact .of_act (.begin t ctx.toScope) rfl
          | _ => exact .silent rfl
      exact begun.append (Logic.leads_onUpdate _ _ _)
    · exact .pardoned rfl

instance Behavior.traced : (height : Nat) → Behaves.Traced (Behavior height)
  | 0 => inferInstanceAs (Behaves.Traced Empty)
  | height + 1 =>
    have := traced height
    inferInstanceAs (Behaves.Traced (Node (Behavior height)))

end SkillScript
