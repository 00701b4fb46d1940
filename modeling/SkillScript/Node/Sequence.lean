import SkillScript.Node.Behaves
import SkillScript.Node.Each
import SkillScript.Number.Order
/-!
# Sequences

A sequence runs its children one after another. What a child leaves over of a step
goes to the next child at once, so several short children can complete within one
step; a child that goes on takes the rest of the step.
-/
set_option autoImplicit false
namespace SkillScript

structure Sequence (β : Type) where
  children : List β
  /-- The position of the running child; the number of children when all are through. -/
  index : Nat := 0
  /-- Whether a child was started since the last reset. -/
  started : Bool := false
deriving Repr

namespace Sequence

variable {β : Type} [Behaves β]

def start (ctx : Context) (s : Sequence β) : Sequence β × Context :=
  let (children, ctx) := actAt Behaves.enter ctx s.index s.children
  ({ s with children := children, started := true }, ctx)

def onActivate (ctx : Context) (s : Sequence β) : Sequence β × Context :=
  if s.started then
    let (children, ctx) := actAt Behaves.activate ctx s.index s.children
    ({ s with children := children }, ctx)
  else s.start ctx

def onDeactivate (ctx : Context) (s : Sequence β) : Sequence β × Context :=
  let (children, ctx) := actAt Behaves.deactivate ctx s.index s.children
  ({ s with children := children }, ctx)

def onReset (ctx : Context) (s : Sequence β) : Sequence β × Context :=
  let (children, ctx) :=
    if s.started then actAt Behaves.deactivate ctx s.index s.children else (s.children, ctx)
  ({ children := children, index := 0, started := false }, ctx)

def ready (started : Bool) (ctx : Context) (c : β) : β × Context :=
  if started then (c, ctx) else Behaves.enter ctx c

/-- Runs children from the first on, which may have been started already. The answer is what is
left of the step, how many children got through, the children and the context. -/
def run (started : Bool) (step : Float32) (ctx : Context) :
    List β → Float32 × Nat × List β × Context
  | [] => (step, 0, [], ctx)
  | c :: rest =>
    let (c, ctx) := ready started ctx c
    let (left, c, ctx) := Behaves.update step ctx c
    if canStop c then
      let (c, ctx) := Behaves.deactivate ctx c
      let (left, through, rest, ctx) := run false left ctx rest
      (left, through + 1, c :: rest, ctx)
    else (0, 0, c :: rest, ctx)

theorem run_cons (started : Bool) (step : Float32) (ctx : Context) (c : β) (rest : List β) :
    run started step ctx (c :: rest) =
      let c := ready started ctx c
      let ran := Behaves.update step c.2 c.1
      if canStop ran.2.1 then
        let rested := Behaves.deactivate ran.2.2 ran.2.1
        let later := run false ran.1 rested.2 rest
        (later.1, later.2.1 + 1, rested.1 :: later.2.2.1, later.2.2.2)
      else (0, 0, ran.2.1 :: rest, ran.2.2) :=
  rfl

def onUpdate (step : Float32) (ctx : Context) (s : Sequence β) :
    Float32 × Sequence β × Context :=
  let (left, through, rest, ctx) := run s.started step ctx (s.children.drop s.index)
  (left,
    { children := s.children.take s.index ++ rest
      index := s.index + through
      started := true },
    ctx)

def canStop (s : Sequence β) : Bool :=
  s.children.length ≤ s.index

def onTrigger (tag : String) (s : Sequence β) : Sequence β :=
  { s with children := s.children.modify s.index (Behaves.onTrigger tag) }

def onDestroy (ctx : Context) (s : Sequence β) : Context :=
  Behaves.releaseAll ctx s.children

def abandon (bus : Bus) (s : Sequence β) : Bus :=
  s.children.foldl Behaves.abandon bus

end Sequence

end SkillScript
