import SkillScript.Proofs.History
import SkillScript.Proofs.Tree.Acts
/-!
# Behaviors that look alike

Two behaviors look alike if nobody who makes the same calls on both of them, in the same
contexts, can ever tell one from the other: by what an update leaves over, by whether
they can stop, by what becomes of the context, or by the way it becomes that. They may
have different shapes and different heights inside.
-/
set_option autoImplicit false
namespace SkillScript

variable {β γ δ : Type} [Behaves β] [Behaves γ] [Behaves δ] [Tracing β] [Tracing γ] [Tracing δ]

/-- What goes together answers every call alike, and goes together again after it. -/
structure Behaves.Matches (R : β → γ → Prop) : Prop where
  isActive {b : β} {c : γ} (related : R b c) : isActive b = isActive c
  canStop {b : β} {c : γ} (related : R b c) : canStop b = canStop c
  activate (ctx : Context) {b : β} {c : γ} (related : R b c) :
    R (activate ctx b).1 (activate ctx c).1 ∧ (activate ctx b).2 = (activate ctx c).2
  deactivate (ctx : Context) {b : β} {c : γ} (related : R b c) :
    R (deactivate ctx b).1 (deactivate ctx c).1 ∧ (deactivate ctx b).2 = (deactivate ctx c).2
  reset (ctx : Context) {b : β} {c : γ} (related : R b c) :
    R (reset ctx b).1 (reset ctx c).1 ∧ (reset ctx b).2 = (reset ctx c).2
  update (step : Float32) (ctx : Context) {b : β} {c : γ} (related : R b c) :
    (update step ctx b).1 = (update step ctx c).1 ∧
      R (update step ctx b).2.1 (update step ctx c).2.1 ∧
      (update step ctx b).2.2 = (update step ctx c).2.2
  onTrigger (tag : String) {b : β} {c : γ} (related : R b c) : R (onTrigger tag b) (onTrigger tag c)
  trace (step : Float32) (ctx : Context) {b : β} {c : γ} (related : R b c) :
    trace step ctx b = trace step ctx c

theorem Behaves.Matches.enter {R : β → γ → Prop} (paired : Matches R) (ctx : Context) {b : β}
    {c : γ} (related : R b c) :
    R (enter ctx b).1 (enter ctx c).1 ∧ (enter ctx b).2 = (enter ctx c).2 := by
  obtain ⟨first, effects⟩ := paired.reset ctx related
  have after := paired.activate (Behaves.reset ctx b).2 first
  simp only [Behaves.enter]
  rw [← effects]
  exact after

def Behaves.LooksLike (b : β) (c : γ) : Prop :=
  ∃ R : β → γ → Prop, Matches R ∧ R b c

namespace Behaves.LooksLike

theorem refl (b : β) : LooksLike b b := by
  refine ⟨Eq, ?_, rfl⟩
  constructor <;> (intros; subst_vars) <;> simp

/-- What a map makes of a behavior looks like it, if the map respects all calls. -/
theorem of_respects {f : β → γ} (respects : Respects f) (retraces : Retraces f) (b : β) :
    LooksLike b (f b) := by
  refine ⟨fun b c => c = f b, ?_, rfl⟩
  constructor
  · rintro b c rfl
    exact (respects.isActive b).symm
  · rintro b c rfl
    exact (respects.canStop b).symm
  · rintro ctx b c rfl
    simp [respects.activate]
  · rintro ctx b c rfl
    simp [respects.deactivate]
  · rintro ctx b c rfl
    simp [respects.reset]
  · rintro step ctx b c rfl
    simp [respects.update]
  · rintro tag b c rfl
    exact respects.onTrigger tag b
  · rintro step ctx b c rfl
    exact (retraces step ctx b).symm

theorem trans {b : β} {c : γ} {d : δ} (first : LooksLike b c) (second : LooksLike c d) :
    LooksLike b d := by
  obtain ⟨R, matches₁, related₁⟩ := first
  obtain ⟨S, matches₂, related₂⟩ := second
  refine ⟨fun b d => ∃ c, R b c ∧ S c d, ?_, c, related₁, related₂⟩
  constructor
  · rintro b d ⟨c, r, s⟩
    exact (matches₁.isActive r).trans (matches₂.isActive s)
  · rintro b d ⟨c, r, s⟩
    exact (matches₁.canStop r).trans (matches₂.canStop s)
  · rintro ctx b d ⟨c, r, s⟩
    obtain ⟨r, left⟩ := matches₁.activate ctx r
    obtain ⟨s, right⟩ := matches₂.activate ctx s
    exact ⟨⟨_, r, s⟩, left.trans right⟩
  · rintro ctx b d ⟨c, r, s⟩
    obtain ⟨r, left⟩ := matches₁.deactivate ctx r
    obtain ⟨s, right⟩ := matches₂.deactivate ctx s
    exact ⟨⟨_, r, s⟩, left.trans right⟩
  · rintro ctx b d ⟨c, r, s⟩
    obtain ⟨r, left⟩ := matches₁.reset ctx r
    obtain ⟨s, right⟩ := matches₂.reset ctx s
    exact ⟨⟨_, r, s⟩, left.trans right⟩
  · rintro step ctx b d ⟨c, r, s⟩
    obtain ⟨over₁, r, left⟩ := matches₁.update step ctx r
    obtain ⟨over₂, s, right⟩ := matches₂.update step ctx s
    exact ⟨over₁.trans over₂, ⟨_, r, s⟩, left.trans right⟩
  · rintro tag b d ⟨c, r, s⟩
    exact ⟨_, matches₁.onTrigger tag r, matches₂.onTrigger tag s⟩
  · rintro step ctx b d ⟨c, r, s⟩
    exact (matches₁.trace step ctx r).trans (matches₂.trace step ctx s)

end Behaves.LooksLike

/-! ## In the hands of an owner -/

namespace Handle

def trace (step : Float32) (ctx : Context) : Handle → List Scope
  | live _ (.behavior n) => Tracing.trace step ctx n
  | _ => []

/-- The trace of an update is all that it does, act by act. -/
theorem leads_trace {height : Nat} (n : Node (Behavior height)) (step : Float32) (ctx : Context) :
    Leads ((live height (.behavior n)).trace step ctx) ctx
      ((live height (.behavior n)).call ctx (.update step)).2 :=
  Behaves.Traced.leads step ctx n

/-- All that can be seen of two nodes by making a call on both of them. -/
structure LooksLike (h h' : Handle) : Prop where
  status : h.status = h'.status
  canStop : h.canStop? = h'.canStop?
  left (step : Float32) (ctx : Context) : (h.update step ctx).1 = (h'.update step ctx).1
  effects (ctx : Context) (c : Call) : (h.call ctx c).2 = (h'.call ctx c).2
  trace (step : Float32) (ctx : Context) : h.trace step ctx = h'.trace step ctx

variable {height height' : Nat} {n : Node (Behavior height)} {n' : Node (Behavior height')}

theorem looksLike_call (same : Behaves.LooksLike n n') (ctx : Context) (c : Call) :
    ∃ m m', ((live height (.behavior n)).call ctx c).1 = live height (.behavior m) ∧
      ((live height' (.behavior n')).call ctx c).1 = live height' (.behavior m') ∧
      Behaves.LooksLike m m' ∧
      ((live height (.behavior n)).call ctx c).2 = ((live height' (.behavior n')).call ctx c).2 := by
  obtain ⟨R, paired, related⟩ := same
  cases c with
  | activate =>
    obtain ⟨after, effects⟩ := paired.activate ctx related
    exact ⟨_, _, rfl, rfl, ⟨R, paired, after⟩, effects⟩
  | deactivate =>
    obtain ⟨after, effects⟩ := paired.deactivate ctx related
    exact ⟨_, _, rfl, rfl, ⟨R, paired, after⟩, effects⟩
  | reset =>
    obtain ⟨after, effects⟩ := paired.reset ctx related
    exact ⟨_, _, rfl, rfl, ⟨R, paired, after⟩, effects⟩
  | enter =>
    obtain ⟨after, effects⟩ := paired.enter ctx related
    exact ⟨(Behaves.enter ctx n).1, (Behaves.enter ctx n').1, rfl, rfl, ⟨R, paired, after⟩, effects⟩
  | leave => exact ⟨n, n', rfl, rfl, ⟨R, paired, related⟩, rfl⟩
  | update step =>
    obtain ⟨-, after, effects⟩ := paired.update step ctx related
    exact ⟨_, _, rfl, rfl, ⟨R, paired, after⟩, effects⟩
  | check step => exact ⟨n, n', rfl, rfl, ⟨R, paired, related⟩, rfl⟩
  | trigger tag => exact ⟨_, _, rfl, rfl, ⟨R, paired, paired.onTrigger tag related⟩, rfl⟩

/-- Behaviors that look alike cannot be told apart after any history. -/
theorem looksLike_run (same : Behaves.LooksLike n n') (calls : List (Context × Call)) :
    LooksLike ((live height (.behavior n)).run calls)
      ((live height' (.behavior n')).run calls) := by
  induction calls generalizing n n' with
  | nil =>
    obtain ⟨R, paired, related⟩ := id same
    refine ⟨?_, ?_, ?_, ?_, ?_⟩
    · have active : n.active = n'.active := paired.isActive related
      simp only [run, status, AnyNode.isActive, active]
      rfl
    · exact congrArg some (paired.canStop related)
    · intro step ctx
      exact (paired.update step ctx related).1
    · intro ctx c
      obtain ⟨-, -, -, -, -, effects⟩ := looksLike_call same ctx c
      exact effects
    · intro step ctx
      exact paired.trace step ctx related
  | cons p rest ih =>
    obtain ⟨m, m', called, called', after, -⟩ := looksLike_call same p.1 p.2
    rw [run, run, called, called']
    exact ih after

end Handle

end SkillScript
