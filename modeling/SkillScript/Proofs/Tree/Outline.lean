import SkillScript.Node.Handle
import SkillScript.Proofs.Tree.Pristine
/-!
# The outline of a tree

The outline of a tree shows its nodes in their places, and of every node only a
label. The label of a live node is its type and, for a behavior that the host
runs, its number; the label of a configuration is the name of its type. The outline
of a live tree is that of its pristine form, so it never changes.
-/
set_option autoImplicit false
namespace SkillScript

/-- What a node is to its parent. -/
inductive Part where
  | root
  | child
  | condition
  | state
  | behavior
  | exit
  | transition
deriving DecidableEq, Repr

inductive Outline (α : Type) where
  | node (part : Part) (label : α) (below : List (Outline α))

namespace Outline

variable {α γ : Type}

mutual

def labels : Outline α → List α
  | node _ a below => a :: labelsAll below

def labelsAll : List (Outline α) → List α
  | [] => []
  | o :: rest => labels o ++ labelsAll rest

end

mutual

def map (f : α → γ) : Outline α → Outline γ
  | node part a below => node part (f a) (mapAll f below)

def mapAll (f : α → γ) : List (Outline α) → List (Outline γ)
  | [] => []
  | o :: rest => map f o :: mapAll f rest

end

theorem labelsAll_eq (l : List (Outline α)) : labelsAll l = l.flatMap labels := by
  induction l with
  | nil => rfl
  | cons o rest ih => simp [labelsAll, ih]

@[simp]
theorem labels_node (part : Part) (a : α) (below : List (Outline α)) :
    (node part a below).labels = a :: below.flatMap labels := by
  rw [labels, labelsAll_eq]

theorem mapAll_eq (f : α → γ) (l : List (Outline α)) : mapAll f l = l.map (map f) := by
  induction l with
  | nil => rfl
  | cons o rest ih => simp [mapAll, ih]

@[simp]
theorem map_node (f : α → γ) (part : Part) (a : α) (below : List (Outline α)) :
    (node part a below).map f = node part (f a) (below.map (map f)) := by
  rw [map, mapAll_eq]

mutual

theorem labels_map (f : α → γ) : ∀ o : Outline α, (o.map f).labels = o.labels.map f
  | node part a below => by
    simp only [map, labels, List.map_cons]
    rw [labelsAll_mapAll f below]

theorem labelsAll_mapAll (f : α → γ) :
    ∀ l : List (Outline α), labelsAll (mapAll f l) = (labelsAll l).map f
  | [] => rfl
  | o :: rest => by simp [mapAll, labelsAll, labels_map f o, labelsAll_mapAll f rest]

end

end Outline

/-! ## Live trees -/

structure Label where
  type : NodeType
  /-- The number of a behavior that the host runs. -/
  number : Option Nat := none
deriving DecidableEq, Repr

/-- Behaviors that have an outline. It does not depend on their state, and its labels do not depend
on what the behavior is to its parent. -/
class Outlined (β : Type) [Behaves β] [Lasting β] where
  outline : Part → β → Outline Label
  outline_pristine (part : Part) (b : β) : outline part (pristine b) = outline part b
  labels_outline (part part' : Part) (b : β) :
    (outline part b).labels = (outline part' b).labels

export Outlined (outline)

attribute [simp] Outlined.outline_pristine

instance : Outlined Empty where
  outline _ b := nomatch b
  outline_pristine _ b := nomatch b
  labels_outline _ _ b := nomatch b

namespace Condition

mutual

def outline (part : Part) : Condition → Outline Label
  | sensor _ x => .node part ⟨.condition x.type, none⟩ []
  | gate _ g children => .node part ⟨.condition g.type, none⟩ (outlineAll children)

def outlineAll : List Condition → List (Outline Label)
  | [] => []
  | c :: rest => outline .condition c :: outlineAll rest

end

mutual

@[simp]
theorem outline_pristine (part : Part) : ∀ c : Condition, c.pristine.outline part = c.outline part
  | .sensor _ x => by
    simp only [pristine, outline, Sensor.type, Sensor.pristine]
    cases x <;> rfl
  | .gate _ g children => by simp [pristine, outline, outlineAll_pristine children]

theorem outlineAll_pristine : ∀ cs : List Condition, outlineAll (pristineAll cs) = outlineAll cs
  | [] => rfl
  | c :: rest => by simp [pristineAll, outlineAll, outline_pristine _ c, outlineAll_pristine rest]

end

theorem outlineAll_eq (cs : List Condition) : outlineAll cs = cs.map (outline .condition) := by
  induction cs with
  | nil => rfl
  | cons c rest ih => simp [outlineAll, ih]

end Condition

namespace Transition

def outline (part : Part) (t : Transition) : Outline Label :=
  .node part ⟨.transition, none⟩ [t.condition.outline .condition]

@[simp]
theorem outline_pristine (part : Part) (t : Transition) :
    t.pristine.outline part = t.outline part := by
  simp [outline, pristine]

end Transition

variable {β : Type} [Behaves β] [Lasting β] [Outlined β]

/-- Nodes with the same pristine form have the same outline. -/
theorem Outlined.outline_congr (part : Part) {b b' : β} (same : pristine b = pristine b') :
    outline part b = outline part b' := by
  rw [← outline_pristine, same, outline_pristine]

namespace State

def outline (part : Part) (s : State β) : Outline Label :=
  .node part ⟨.state, none⟩
    (s.behavior.toList.map (Outlined.outline .behavior) ++
      s.exit.toList.map (Outlined.outline .exit) ++
      s.transitions.map (Transition.outline .transition))

@[simp]
theorem outline_pristine (part : Part) (s : State β) :
    s.pristine.outline part = s.outline part := by
  simp [outline, pristine, Option.toList_map, Function.comp_def]

theorem outline_congr (part : Part) {s s' : State β} (same : s.pristine = s'.pristine) :
    s.outline part = s'.outline part := by
  rw [← outline_pristine, same, outline_pristine]

end State

namespace Logic

omit [Behaves β] [Lasting β] [Outlined β] in
def number? : Logic β → Option Nat
  | task t => t.number?
  | _ => none

def parts : Logic β → List (Outline Label)
  | task _ => []
  | sequence s => s.children.map (outline .child)
  | parallel p => p.lanes.map fun l => outline .child l.child
  | machine m => m.states.map (State.outline .state)

omit [Outlined β] in
@[simp]
theorem type_pristine (l : Logic β) : l.pristine.type = l.type := by
  cases l with
  | task t => cases t <;> rfl
  | _ => rfl

omit [Outlined β] in
@[simp]
theorem number?_pristine (l : Logic β) : l.pristine.number? = l.number? := by
  cases l with
  | task t => cases t <;> rfl
  | _ => rfl

@[simp]
theorem parts_pristine (l : Logic β) : l.pristine.parts = l.parts := by
  cases l with
  | task t => rfl
  | sequence s => simp [pristine, parts, Sequence.pristine, Function.comp_def]
  | parallel p => simp [pristine, parts, Parallel.pristine, Lane.pristine, Function.comp_def]
  | machine m => simp [pristine, parts, Machine.pristine, Function.comp_def]

end Logic

namespace Node

instance outlined : Outlined (Node β) where
  outline part n := .node part ⟨.behavior n.logic.type, n.logic.number?⟩ n.logic.parts
  outline_pristine part n := by
    show Outline.node part _ n.logic.pristine.parts = _
    simp [Lasting.pristine, pristine]
  labels_outline part part' n := rfl

theorem outline_eq (part : Part) (n : Node β) :
    Outlined.outline part n =
      .node part ⟨.behavior n.logic.type, n.logic.number?⟩ n.logic.parts :=
  rfl

end Node

instance Behavior.outlined : (height : Nat) → Outlined (Behavior height)
  | 0 => inferInstanceAs (Outlined Empty)
  | height + 1 =>
    let _ := outlined height
    inferInstanceAs (Outlined (Node (Behavior height)))

namespace AnyNode

def outline (part : Part) : AnyNode β → Outline Label
  | behavior n => Outlined.outline part n
  | condition c => c.outline part
  | state s => s.outline part
  | transition t => t.outline part

def pristine : AnyNode β → AnyNode β
  | behavior n => behavior (Lasting.pristine n)
  | condition c => condition c.pristine
  | state s => state s.pristine
  | transition t => transition t.pristine

@[simp]
theorem outline_pristine (part : Part) (n : AnyNode β) :
    n.pristine.outline part = n.outline part := by
  cases n with
  | behavior n => exact Outlined.outline_pristine part n
  | condition c => exact c.outline_pristine part
  | state s => exact s.outline_pristine part
  | transition t => exact t.outline_pristine part

end AnyNode

/-! ## Configurations -/

mutual

/-- The outline of the configurations below a place, by the names of their types. -/
def Config.outline (part : Part) : Config → Outline String
  | ⟨typeName, _, body⟩ => .node part typeName body.parts

def Body.parts : Body → List (Outline String)
  | .composite children => listOutline .child children
  | .negation condition => optionOutline .condition condition
  | .junction conditions => listOutline .condition conditions
  | .fsm _ states => statesOutline states
  | .state _ _ behavior exit transitions =>
    optionOutline .behavior behavior ++ optionOutline .exit exit ++
      listOutline .transition transitions
  | .transition condition _ _ _ => optionOutline .condition condition
  | _ => []

def listOutline (part : Part) : List Config → List (Outline String)
  | [] => []
  | c :: rest => c.outline part :: listOutline part rest

def optionOutline (part : Part) : Option Config → List (Outline String)
  | none => []
  | some c => [c.outline part]

def statesOutline : List (String × Config) → List (Outline String)
  | [] => []
  | (_, c) :: rest => c.outline .state :: statesOutline rest

end

theorem listOutline_eq (part : Part) (cs : List Config) :
    listOutline part cs = cs.map (Config.outline part) := by
  induction cs with
  | nil => rfl
  | cons c rest ih => rw [listOutline, ih, List.map_cons]

theorem optionOutline_eq (part : Part) (c? : Option Config) :
    optionOutline part c? = c?.toList.map (Config.outline part) := by
  cases c? <;> rfl

theorem statesOutline_eq (cs : List (String × Config)) :
    statesOutline cs = listOutline .state (cs.map Prod.snd) := by
  induction cs with
  | nil => rfl
  | cons c rest ih => rw [statesOutline, ih, List.map_cons, listOutline]

end SkillScript
