import SkillScript.Agent
import SkillScript.Node.Handle
/-!
# Histories

What owners do with a node while it lives, and what hosts do with an agent, as data.
A history is a list of calls. Between any two calls the rest of the host may do as
it likes, so every call comes with the scope or the world that it finds.
-/
set_option autoImplicit false
namespace SkillScript

def emptyStage : Context :=
  { owner := ⟨0⟩, tag := ⟨0⟩, vars := ∅ }

namespace Handle

inductive Call where
  | activate
  | deactivate
  | reset
  | enter
  | leave
  | update (step : Float32)
  | check (step : Float32)
  | trigger (tag : String)

def call (ctx : Context) (h : Handle) : Call → Handle × Context
  | .activate => h.activate ctx
  | .deactivate => h.deactivate ctx
  | .reset => h.reset ctx
  | .enter => h.enter ctx
  | .leave => h.leave ctx
  | .update step => (h.update step ctx).2
  | .check step => (h.check step ctx).2
  | .trigger tag => (h.onTrigger tag, ctx)

def run (h : Handle) : List (Context × Call) → Handle
  | [] => h
  | (ctx, c) :: rest => (h.call ctx c).1.run rest

end Handle

namespace Agent

inductive Call where
  | trigger (tag : String) (payload : Vars)
  | update (step : Float32)
  | dispose

def call (w : World) (a : Agent) : Call → Agent × World
  | .trigger tag payload => (a.trigger tag payload, w)
  | .update step => a.update step w
  | .dispose => a.dispose w

/-- An agent without a tree, as it is before its nodes are created. -/
def blank (script : Script) (owner : EntityId) (tag : CastTag) (vars : Vars) : Agent :=
  { script := script.name, owner := owner, tag := tag, vars := vars, tree := none }

/-- An agent that was started has entered the behavior that was created from the root. -/
theorem init_ok {r : Registry} {script : Script} {owner : EntityId} {tag : CastTag} {vars : Vars}
    {w w' : World} {a : Agent} (started : init r script owner tag vars w = (.ok a, w')) :
    ∃ b ctx,
      AnyNode.fit Behavior.ofAny? (create r script.root.height
        ((blank script owner tag vars).context w) script.root) = (some b, ctx) ∧
      (a, w') = (blank script owner tag vars).settle
        (some ⟨script.root.height + 1, (Behaves.enter ctx b).1⟩) (Behaves.enter ctx b).2 := by
  simp only [init] at started
  split at started
  · split at started
    · cases started
    · rename_i b ctx created
      refine ⟨b, ctx, created, ?_⟩
      simp only [Prod.mk.injEq, Except.ok.injEq] at started
      rw [← started.1, ← started.2]
      rfl
  · cases started

def run (a : Agent) : List (World × Call) → Agent
  | [] => a
  | (w, c) :: rest => (a.call w c).1.run rest

end Agent

end SkillScript
