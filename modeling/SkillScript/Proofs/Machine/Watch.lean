import SkillScript.Proofs.Tree.Images
import SkillScript.Proofs.Tree.Quiet
/-!
# Watched behaviors

A behavior can be watched: a list is kept of the calls that are made on it. To watch
the children of a machine changes nothing, since forgetting the lists of a machine
that has run gives the machine that would have run without them. So the lists tell
what the machine has done with its children.
-/
set_option autoImplicit false
namespace SkillScript

inductive Behaves.Call where
  | activate
  | deactivate
  | reset
  | update (step : Float32)
  | trigger (tag : String)

/-- A behavior, and the calls that were made on it. -/
structure Watched (β : Type) where
  node : β
  calls : List Behaves.Call := []

variable {β : Type}

namespace Watched

def note (b : Watched β) (call : Behaves.Call) (node : β) : Watched β :=
  ⟨node, b.calls ++ [call]⟩

variable [Behaves β]

instance behaves : Behaves (Watched β) where
  isActive b := Behaves.isActive b.node
  activate ctx b :=
    let (node, ctx) := Behaves.activate ctx b.node
    (b.note .activate node, ctx)
  deactivate ctx b :=
    let (node, ctx) := Behaves.deactivate ctx b.node
    (b.note .deactivate node, ctx)
  reset ctx b :=
    let (node, ctx) := Behaves.reset ctx b.node
    (b.note .reset node, ctx)
  update step ctx b :=
    let (left, node, ctx) := Behaves.update step ctx b.node
    (left, b.note (.update step) node, ctx)
  canStop b := canStop b.node
  onTrigger tag b := b.note (.trigger tag) (Behaves.onTrigger tag b.node)
  destroy ctx b := Behaves.destroy ctx b.node
  abandon bus b := Behaves.abandon bus b.node

instance quiet [Behaves.Quiet β] : Behaves.Quiet (Watched β) where
  mute_activate ctx b := Behaves.Quiet.mute_activate ctx b.node
  mute_deactivate ctx b := Behaves.Quiet.mute_deactivate ctx b.node
  mute_reset ctx b := Behaves.Quiet.mute_reset ctx b.node

end Watched

/-- To forget the calls makes no difference to any call. -/
theorem Watched.respects_node [Behaves β] :
    Behaves.Respects (Watched.node : Watched β → β) where
  isActive _ := rfl
  activate _ _ := rfl
  deactivate _ _ := rfl
  reset _ _ := rfl
  update _ _ _ := rfl
  canStop _ := rfl
  onTrigger _ _ := rfl
  destroy _ _ := rfl

open Watched (respects_node)

/-! ## States -/

namespace State

def watched (s : State β) : State (Watched β) :=
  s.map fun b => { node := b }

def unwatched (s : State (Watched β)) : State β :=
  s.map Watched.node

@[simp]
theorem unwatched_watched (s : State β) : s.watched.unwatched = s := by
  obtain ⟨active, id, endEvent, behavior, exit, transitions, ended⟩ := s
  cases behavior <;> cases exit <;> rfl

variable [Behaves β] (ctx : Context) (s : State (Watched β))

theorem enter_unwatched :
    s.unwatched.enter ctx = ((s.enter ctx).1.unwatched, (s.enter ctx).2) :=
  s.enter_map respects_node ctx

theorem update_unwatched (step : Float32) :
    s.unwatched.update step ctx = ((s.update step ctx).1.unwatched, (s.update step ctx).2) :=
  s.update_map respects_node ctx step

end State

/-! ## Machines -/

namespace Machine

def watched (m : Machine β) : Machine (Watched β) :=
  m.map fun b => { node := b }

def unwatched (m : Machine (Watched β)) : Machine β :=
  m.map Watched.node

@[simp]
theorem unwatched_watched (m : Machine β) : m.watched.unwatched = m := by
  have states : (m.states.map State.watched).map State.unwatched = m.states := by
    rw [List.map_map]
    exact (List.map_congr_left fun s _ => s.unwatched_watched).trans (List.map_id _)
  obtain ⟨_, _, _, _, _⟩ := m
  exact congrArg (fun l => Machine.mk l ..) states

variable [Behaves β] (ctx : Context) (m : Machine (Watched β))

theorem tick_unwatched (step : Float32) (s : State (Watched β)) :
    tick step ctx s.unwatched =
      ((tick step ctx s).1, (tick step ctx s).2.1.unwatched, (tick step ctx s).2.2) :=
  tick_map respects_node ctx step s

theorem onUpdate_unwatched (step : Float32) :
    m.unwatched.onUpdate step ctx =
      ((m.onUpdate step ctx).1, (m.onUpdate step ctx).2.1.unwatched,
        (m.onUpdate step ctx).2.2) :=
  m.onUpdate_map respects_node ctx step

end Machine

/-! ## Calls -/

def Behaves.perform [Behaves β] (ctx : Context) (b : β) : Behaves.Call → β × Context
  | .activate => activate ctx b
  | .deactivate => deactivate ctx b
  | .reset => reset ctx b
  | .update step => (update step ctx b).2
  | .trigger tag => (onTrigger tag b, ctx)

namespace Machine

/-- What a call on its node makes of a machine. A node ignores most of what it is asked while it
is not active. -/
def perform [Behaves β] (ctx : Context) (active : Bool) (m : Machine β) :
    Behaves.Call → Machine β × Context
  | .activate => if active then (m, ctx) else m.onActivate ctx
  | .deactivate => if active then m.onDeactivate ctx else (m, ctx)
  | .reset => m.onReset ctx
  | .update step =>
    if active then (m.onUpdate (if step < 0 then 0 else step) ctx).2 else (m, ctx.refuse)
  | .trigger tag => if active then (m.onTrigger tag, ctx) else (m, ctx)

variable [Behaves β] (ctx : Context) (active : Bool)

theorem perform_unwatched (m : Machine (Watched β)) (call : Behaves.Call) :
    m.unwatched.perform ctx active call =
      ((m.perform ctx active call).1.unwatched, (m.perform ctx active call).2) := by
  cases call with
  | activate =>
    cases active with
    | true => rfl
    | false => exact m.onActivate_map respects_node ctx
  | deactivate =>
    cases active with
    | true => exact m.onDeactivate_map respects_node ctx
    | false => rfl
  | reset => exact m.onReset_map respects_node ctx
  | update step =>
    cases active with
    | true => exact congrArg Prod.snd (m.onUpdate_unwatched ctx _)
    | false => rfl
  | trigger tag =>
    cases active with
    | true => exact congrArg (·, ctx) (m.onTrigger_map respects_node tag)
    | false => rfl

/-- To watch a machine changes nothing. -/
theorem perform_watched (m : Machine β) (call : Behaves.Call) :
    (m.watched.perform ctx active call).1.unwatched = (m.perform ctx active call).1 ∧
      (m.watched.perform ctx active call).2 = (m.perform ctx active call).2 := by
  have same := perform_unwatched ctx active m.watched call
  rw [unwatched_watched] at same
  rw [same]
  exact ⟨rfl, rfl⟩

end Machine

theorem Node.perform_machine [Behaves β] {n : Node β} {m : Machine β}
    (logic : n.logic = .machine m) (ctx : Context) (call : Behaves.Call) :
    (Behaves.perform ctx n call).1.logic = .machine (m.perform ctx n.active call).1 ∧
      (Behaves.perform ctx n call).2 = (m.perform ctx n.active call).2 := by
  obtain ⟨active, begun, _⟩ := n
  cases logic
  cases call with
  | reset => exact ⟨rfl, rfl⟩
  | update step => cases active <;> cases begun <;> exact ⟨rfl, rfl⟩
  | _ => cases active <;> exact ⟨rfl, rfl⟩

end SkillScript
