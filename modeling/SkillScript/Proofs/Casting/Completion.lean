import SkillScript.Proofs.Casting.Cleanup
import SkillScript.Proofs.Tree.Instant
import SkillScript.Script.Build
/-!
# When casts are complete

A late update ends a cast as complete once the root of its tree can stop. A root
that no update has reached can stop exactly if it is instant. So a cast with any
other root is not complete before it has been updated, while one with an instant
root is ended by the next late update even if no update came in between: it is paid
for and enters its cooldown, and its script has not begun.
-/
set_option autoImplicit false
namespace SkillScript

namespace Agent

/-- The root of the tree is instant, or there is no tree any more. -/
def isInstant (a : Agent) : Bool :=
  a.tree.all fun t => t.root.isInstant

def Unspent (a : Agent) : Prop :=
  a.isFinished = a.isInstant

variable {a : Agent}

theorem init_unspent {r : Registry} {script : Script} {owner : EntityId} {tag : CastTag}
    {vars : Vars} {w w' : World} (started : init r script owner tag vars w = (.ok a, w')) :
    a.Unspent := by
  obtain ⟨b, ctx, -, settled⟩ := init_ok started
  obtain ⟨rfl, -⟩ := Prod.mk.inj settled
  exact Behavior.unspent_enter ctx b

theorem Unspent.trigger (unspent : a.Unspent) (tag : String) (payload : Vars) :
    (a.trigger tag payload).Unspent := by
  cases tree : a.tree with
  | none =>
    have same : a.trigger tag payload = a := by simp only [Agent.trigger, tree]
    rw [same]
    exact unspent
  | some t =>
    have root : t.root.Unspent := by
      rw [Unspent, isFinished, isInstant, tree] at unspent
      exact unspent
    simp only [Agent.trigger, tree]
    exact root.onTrigger tag

end Agent

namespace Cast

variable {r : Registry} {skill : Skill} {script : Script} {owner : EntityId} {sequence : UInt32}
  {spell : Spell} {w w' : World} {p : Cast}

theorem start_unspent (started : start r skill script owner sequence spell w = (.ok p, w')) :
    p.agent.Unspent := by
  obtain ⟨agent, w₁, made, rfl, -⟩ := start_ok started
  exact (Agent.init_unspent made).trigger releaseTrigger spell.payload

theorem after_unspent (unspent : p.agent.Unspent) (w : World) {a : Caster.Call}
    (still : ∀ step, a ≠ .update step) : (p.after w a).agent.Unspent := by
  cases a with
  | update step => exact absurd rfl (still step)
  | trigger tag payload => exact unspent.trigger tag payload
  | learn skill => exact unspent
  | trySpell id spell => exact unspent
  | lateUpdate => exact unspent
  | interrupt => exact unspent

theorem isOver_eq_isFinished {es : Entities} (steady : (es.flags p.owner).stunned = false) :
    p.isOver es = p.agent.isFinished := by
  simp [isOver, steady]

end Cast

namespace Caster

variable {r : Registry} {lib : Library} {c : Caster} {p : Cast}

def Unspent (c : Caster) : Prop :=
  ∀ p, c.current = some p → p.agent.Unspent

/-- A cast that goes on stays unspent until an update comes. -/
theorem Sound.unspent_run (sound : c.Sound lib) {tag : CastTag} {calls : List (World × Call)}
    (lasts : Lasts r lib tag c calls) (still : ∀ w step, (w, Call.update step) ∉ calls)
    (unspent : c.Unspent) : (c.run r lib calls).Unspent := by
  refine sound.keeps_run lasts ?_ unspent
  intro c' p w a _ running member unspent q running'
  cases running'
  refine Cast.after_unspent (unspent p running) w ?_
  rintro step rfl
  exact still w step member

theorem trySpell_unspent {id : SkillId} {spell : Spell} {w : World}
    (started : (c.trySpell r lib id spell w).1 = .ok ()) :
    (c.trySpell r lib id spell w).2.1.Unspent := by
  obtain ⟨a, script, q, w', -, -, -, made, result⟩ := trySpell_started started
  rw [result]
  intro p running
  cases running
  exact Cast.start_unspent made

def Origin.Updated (o : Origin) : Prop :=
  ∃ w step, (w, Call.update step) ∈ o.later

theorem Origin.Of.unspent {owner : EntityId} {tag : CastTag} {o : Origin}
    (origin : o.Of r lib owner tag) (still : ¬ o.Updated) :
    (run r lib { owner := owner } o.calls).Unspent := by
  obtain ⟨started, lasts⟩ := origin
  have before := sound_run r lib owner o.earlier
  have after : (o.start r lib owner).2.1.Sound lib := before.trySpell o.id o.spell o.world
  have others : ∀ w step, (w, Call.update step) ∉ o.later := by
    intro w step member
    exact still ⟨w, step, member⟩
  rw [o.run_calls]
  exact after.unspent_run lasts others (trySpell_unspent started)

theorem Sound.lateUpdate_ends_iff (sound : c.Sound lib) (running : c.current = some p) {w : World}
    (steady : (w.entities.flags p.owner).stunned = false) :
    (c.lateUpdate w).1.current = none ↔ p.agent.isFinished = true := by
  rw [lateUpdate_eq running (sound.carries p running).unfinished, Cast.isOver_eq_isFinished steady]
  by_cases finished : p.agent.isFinished = true
  · rw [if_pos finished]
    exact iff_of_true (sound.endCast_ended w).idle finished
  · rw [if_neg finished]
    refine iff_of_false ?_ finished
    intro idle
    rw [running] at idle
    cases idle

/-- A late update that ends a cast whose owner is not stunned finds that the cast has been updated
since the call that started it, or that its root is instant; and it does end every cast with an
instant root that has not been updated. -/
theorem completed_casts_were_updated_or_instant (r : Registry) (lib : Library) (owner : EntityId)
    (calls : List (World × Call)) (w : World) (p : Cast)
    (running : (run r lib { owner := owner } calls).current = some p)
    (steady : (w.entities.flags p.owner).stunned = false) :
    ∃ o : Origin, o.calls = calls ∧ o.Of r lib owner p.tag ∧
      (((run r lib { owner := owner } calls).lateUpdate w).1.current = none →
        o.Updated ∨ p.agent.isInstant = true) ∧
      (p.agent.isInstant = true → ¬ o.Updated →
        ((run r lib { owner := owner } calls).lateUpdate w).1.current = none) := by
  have ends := (sound_run r lib owner calls).lateUpdate_ends_iff running steady
  obtain ⟨o, rfl, origin⟩ := origin r lib owner calls running
  refine ⟨o, rfl, origin, ?_, ?_⟩
  · intro idle
    by_cases updated : o.Updated
    · exact Or.inl updated
    · right
      rw [← origin.unspent updated p running]
      exact ends.mp idle
  · intro instant still
    rw [ends, origin.unspent still p running]
    exact instant

def markScript : Script :=
  ⟨"mark", Build.setVar "mark" (.bool true)⟩

def markRegistry : Registry :=
  (Registry.empty.registerType (.behavior .setVar)).2

def mark : Skill :=
  { id := ⟨3⟩, name := "mark", script := "mark", cooldown := 2, healthCost := 10 }

def markLibrary : Library :=
  Table.ofList [("mark", markScript)]

def markCalls : List (World × Call) :=
  [(stanceWorld, .learn mark), (stanceWorld, .trySpell ⟨3⟩ {})]

def markCaster : Caster :=
  run markRegistry markLibrary { owner := ⟨1⟩ } markCalls

def paidWorld : World :=
  ((run markRegistry markLibrary { owner := ⟨1⟩ } [(stanceWorld, .learn mark)]).call markRegistry
    markLibrary stanceWorld (.trySpell ⟨3⟩ {})).2

/-- The variable is not set, no call was an update, and the late update ends the cast all the same:
it is paid for and enters its cooldown. -/
theorem mark_completes_without_running :
    (markCaster.current.map fun p => p.agent.vars.find? "mark") = some none ∧
      (∀ w step, (w, Call.update step) ∉ markCalls) ∧
      paidWorld.entities.health? ⟨1⟩ = some 90 ∧
      (paidWorld.entities.flags ⟨1⟩).stunned = false ∧
      (markCaster.lateUpdate paidWorld).1.activeSkill? = none ∧
      (markCaster.lateUpdate paidWorld).1.ability? ⟨3⟩ = some ⟨mark, ⟨2, 2⟩⟩ := by
  refine ⟨?unset, ?still, ?paid, ?steady, ?ended, ?cooling⟩
  case unset => decide +kernel
  case still =>
    intro w step member
    simp [markCalls] at member
  case paid => decide +kernel
  case steady => decide +kernel
  case ended => decide +kernel
  case cooling => decide +kernel

theorem completed_casts_were_updated_or_instant_of_mark :
    ∃ p, markCaster.current = some p ∧ p.agent.isInstant = true ∧
      ∃ o : Origin, o.calls = markCalls ∧ ¬ o.Updated ∧
        (markCaster.lateUpdate paidWorld).1.current = none := by
  obtain ⟨o, history, -, -, ends⟩ := completed_casts_were_updated_or_instant markRegistry
    markLibrary ⟨1⟩ markCalls paidWorld _ rfl rfl
  have still : ¬ o.Updated := by
    rintro ⟨w, step, member⟩
    have inside : (w, Call.update step) ∈ o.calls := by simp [Origin.calls, member]
    rw [history] at inside
    simp [markCalls] at inside
  exact ⟨_, rfl, rfl, o, history, still, ends rfl still⟩

end Caster

end SkillScript
