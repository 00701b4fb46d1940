import SkillScript.Proofs.Nesting.Likeness
import SkillScript.Proofs.Nesting.Reach
/-!
# Nodes of nested and of flat sequences

A node with a sequence that has another one among its children looks like a node with
the flat sequence. What links the two is that they have the sequences of one nest, that
the nested tree is in order, and that no hook leaves over less than nothing.
-/
set_option autoImplicit false
namespace SkillScript
namespace Nest

variable {β : Type} [Behaves β] [Lasting β] [Ordered β] [Holding β] {e : β → Node β}

/-- The node of the outer sequence of a nest goes with the node of the flat one. -/
inductive Stands (e : β → Node β) : Node (Node β) → Node β → Prop where
  | nest (active begun : Bool) (s : Nest β) (sound : s.Sound)
      (orderly : (s.outer e).Orderly false active)
      (hooks : ∀ h ∈ s.flat.children.flatMap Holding.hooks, h.Forward) :
      Stands e (Node.ofSequence active begun (s.outer e)) (Node.ofSequence active begun s.flat)

theorem Agree.stands {p : Sequence (Node β) × Context} {q : Sequence β × Context}
    (agree : Agree e p q) {active begun : Bool} (orderly : p.1.Orderly false active)
    (hooks : ∀ h ∈ Holding.hooks (Node.ofSequence active begun q.1), h.Forward) :
    Stands e (Node.ofSequence active begun p.1) (Node.ofSequence active begun q.1) := by
  obtain ⟨⟨s, sound, nested, flattened⟩, -⟩ := agree
  rw [nested] at orderly ⊢
  rw [flattened] at hooks ⊢
  exact .nest active begun s sound orderly hooks

namespace Stands

variable {n : Node (Node β)} {f : Node β} (stands : Stands e n f)
  (respects : Behaves.Respects e) (ctx : Context)

include stands

theorem canStop : Behaves.canStop n = Behaves.canStop f := by
  obtain ⟨active, begun, s, sound, orderly, hooks⟩ := stands
  have nested : (s.outer e).children.length = s.before.length + (s.after.length + 1) := by
    simp [outer]
  have flattened : s.flat.children.length =
      s.before.length + (s.inner.children.length + s.after.length) := by
    simp [flat]
  show decide ((s.outer e).children.length ≤ s.index) =
    decide (s.flat.children.length ≤ s.flat.index)
  rw [decide_eq_decide, nested, flattened]
  rcases Nat.lt_trichotomy s.index s.before.length with early | here | late
  · rw [index_flat_of_le early.le, resume_of_lt early]
    omega
  · have within := sound.resume_lt here
    rw [index_flat_of_le here.le]
    omega
  · have place : s.index = s.before.length + (s.index - s.before.length - 1 + 1) := by omega
    rw [index_flat_of_gt place]
    omega

include respects

variable [Behaves.Reserved β]

theorem trace [Behaves.Forward β] [Tracing β] (retraces : Retraces e) (step : Float32) :
    Tracing.trace step ctx n = Tracing.trace step ctx f := by
  obtain ⟨active, begun, s, sound, orderly, hooks⟩ := stands
  cases active with
  | false => rfl
  | true =>
    have before : ∀ c ∈ s.before, ∀ h ∈ Holding.hooks c, h.Forward := fun c member h inside =>
      hooks h (List.mem_flatMap_of_mem (List.mem_append_left _ member) inside)
    have traced := s.traceRun_agree sound respects ctx (Number.not_clipped_lt step) before orderly
      retraces
    cases begun <;> exact traced

variable [Behaves.Disciplined β] [Behaves.Quiet β]

theorem activate :
    Stands e (Behaves.activate ctx n).1 (Behaves.activate ctx f).1 ∧
      (Behaves.activate ctx n).2 = (Behaves.activate ctx f).2 := by
  obtain ⟨active, begun, s, sound, orderly, hooks⟩ := stands
  cases active with
  | true => exact ⟨.nest true begun s sound orderly hooks, rfl⟩
  | false =>
    have agree := s.onActivate_agree sound respects ctx orderly
    have kept := Holding.keeps_forward.activate ctx (b := Node.ofSequence false begun s.flat) hooks
    exact ⟨agree.stands (orderly.onActivate ctx) kept, agree.effects⟩

theorem deactivate :
    Stands e (Behaves.deactivate ctx n).1 (Behaves.deactivate ctx f).1 ∧
      (Behaves.deactivate ctx n).2 = (Behaves.deactivate ctx f).2 := by
  obtain ⟨active, begun, s, sound, orderly, hooks⟩ := stands
  cases active with
  | false => exact ⟨.nest false begun s sound orderly hooks, rfl⟩
  | true =>
    have agree := s.onDeactivate_agree sound respects ctx orderly
    have kept := Holding.keeps_forward.deactivate ctx (b := Node.ofSequence true begun s.flat) hooks
    exact ⟨agree.stands (orderly.onDeactivate ctx) kept, agree.effects⟩

theorem reset :
    Stands e (Behaves.reset ctx n).1 (Behaves.reset ctx f).1 ∧
      (Behaves.reset ctx n).2 = (Behaves.reset ctx f).2 := by
  obtain ⟨active, begun, s, sound, orderly, hooks⟩ := stands
  have agree := s.onReset_agree sound respects ctx orderly
  have kept := Holding.keeps_forward.reset ctx (b := Node.ofSequence active begun s.flat) hooks
  exact ⟨agree.stands (orderly.onReset nofun ctx) kept, agree.effects⟩

theorem update [Behaves.Forward β] (step : Float32) :
    (Behaves.update step ctx n).1 = (Behaves.update step ctx f).1 ∧
      Stands e (Behaves.update step ctx n).2.1 (Behaves.update step ctx f).2.1 ∧
      (Behaves.update step ctx n).2.2 = (Behaves.update step ctx f).2.2 := by
  obtain ⟨active, begun, s, sound, orderly, hooks⟩ := stands
  cases active with
  | false => exact ⟨rfl, .nest false begun s sound orderly hooks, rfl⟩
  | true =>
    have before : ∀ c ∈ s.before, ∀ h ∈ Holding.hooks c, h.Forward := fun c member h inside =>
      hooks h (List.mem_flatMap_of_mem (List.mem_append_left _ member) inside)
    obtain ⟨left, agree⟩ := s.onUpdate_agree sound respects ctx (Number.not_clipped_lt step) before
      orderly
    have kept := Holding.keeps_forward.update step ctx (b := Node.ofSequence true begun s.flat) hooks
    cases begun with
    | true => exact ⟨left, agree.stands (orderly.onUpdate _ ctx) kept, agree.effects⟩
    | false => exact ⟨left, agree.stands (orderly.onUpdate _ ctx) kept, agree.effects⟩

omit ctx [Behaves.Reserved β] in
theorem onTrigger [Sensing β] [Behaves.Alert β] (tag : String) :
    Stands e (Behaves.onTrigger tag n) (Behaves.onTrigger tag f) := by
  obtain ⟨active, begun, s, sound, orderly, hooks⟩ := stands
  cases active with
  | false => exact .nest false begun s sound orderly hooks
  | true =>
    -- A trigger does not depend on the context, so any will do.
    have agree := s.onTrigger_agree sound respects { owner := ⟨0⟩, tag := ⟨0⟩, vars := ∅ } tag orderly
    have kept := Holding.keeps_forward.onTrigger tag (b := Node.ofSequence true begun s.flat) hooks
    exact agree.stands (orderly.onTrigger tag) kept

omit stands ctx in
/-- The nested sequence and the flat one answer every call alike. -/
theorem paired [Behaves.Forward β] [Sensing β] [Behaves.Alert β] [Tracing β] (retraces : Retraces e) :
    Behaves.Matches (Stands e) where
  isActive stands := by
    obtain ⟨active, begun, s, sound, orderly, hooks⟩ := stands
    rfl
  canStop stands := stands.canStop
  activate ctx {_ _} stands := stands.activate respects ctx
  deactivate ctx {_ _} stands := stands.deactivate respects ctx
  reset ctx {_ _} stands := stands.reset respects ctx
  update step ctx {_ _} stands := stands.update respects ctx step
  onTrigger tag {_ _} stands := stands.onTrigger respects tag
  trace step ctx {_ _} stands := stands.trace respects ctx retraces step

end Stands

end Nest

end SkillScript
