import SkillScript.Node.Behaves
import SkillScript.Node.Each
import SkillScript.Number.Order
/-!
# Parallels

A parallel runs all its children side by side, each with the whole step, and has
nothing left to do when every child is through. It leaves over the least of what
the children that finish leave over, and nothing while a child goes on.
-/
set_option autoImplicit false
namespace SkillScript

/-- A child of a parallel, and whether it is through. -/
structure Lane (β : Type) where
  child : β
  finished : Bool := false
deriving Repr

structure Parallel (β : Type) where
  lanes : List (Lane β)
  /-- Whether the children were started since the last reset. -/
  started : Bool := false
deriving Repr

variable {β : Type} [Behaves β]

namespace Lane

def act (f : Context → β → β × Context) (ctx : Context) (l : Lane β) : Lane β × Context :=
  let (child, ctx) := f ctx l.child
  ({ l with child := child }, ctx)

def actIfRunning (f : Context → β → β × Context) (ctx : Context) (l : Lane β) :
    Lane β × Context :=
  if l.finished then (l, ctx) else l.act f ctx

def reopen (l : Lane β) : Lane β :=
  { l with finished := false }

end Lane

namespace Parallel

def start (ctx : Context) (p : Parallel β) : Parallel β × Context :=
  let (lanes, ctx) := actAll (Lane.act Behaves.enter) ctx (p.lanes.map Lane.reopen)
  ({ lanes := lanes, started := true }, ctx)

def onActivate (ctx : Context) (p : Parallel β) : Parallel β × Context :=
  if p.started then
    let (lanes, ctx) := actAll (Lane.actIfRunning Behaves.activate) ctx p.lanes
    ({ p with lanes := lanes }, ctx)
  else p.start ctx

def onDeactivate (ctx : Context) (p : Parallel β) : Parallel β × Context :=
  let (lanes, ctx) := actAll (Lane.act Behaves.deactivate) ctx p.lanes
  ({ p with lanes := lanes }, ctx)

def onReset (ctx : Context) (p : Parallel β) : Parallel β × Context :=
  let (lanes, ctx) := actAll (Lane.act Behaves.deactivate) ctx p.lanes
  ({ lanes := lanes.map Lane.reopen, started := false }, ctx)

/-- Updates the lanes in order. `least` is what the lanes before have left over. -/
def run (step : Float32) (least : Float32) (ctx : Context) :
    List (Lane β) → Float32 × List (Lane β) × Context
  | [] => (least, [], ctx)
  | l :: rest =>
    if l.finished then
      let (least, rest, ctx) := run step least ctx rest
      (least, l :: rest, ctx)
    else
      let (left, c, ctx) := Behaves.update step ctx l.child
      if canStop c then
        let (c, ctx) := Behaves.deactivate ctx c
        let (least, rest, ctx) := run step (Number.minNum least left) ctx rest
        (least, { child := c, finished := true } :: rest, ctx)
      else
        let (least, rest, ctx) := run step 0 ctx rest
        (least, { child := c, finished := false } :: rest, ctx)

theorem run_cons (step least : Float32) (ctx : Context) (l : Lane β) (rest : List (Lane β)) :
    run step least ctx (l :: rest) =
      if l.finished then
        let later := run step least ctx rest
        (later.1, l :: later.2.1, later.2.2)
      else
        let ran := Behaves.update step ctx l.child
        if canStop ran.2.1 then
          let rested := Behaves.deactivate ran.2.2 ran.2.1
          let later := run step (Number.minNum least ran.1) rested.2 rest
          (later.1, { child := rested.1, finished := true } :: later.2.1, later.2.2)
        else
          let later := run step 0 ran.2.2 rest
          (later.1, { child := ran.2.1, finished := false } :: later.2.1, later.2.2) :=
  rfl

def ready (ctx : Context) (p : Parallel β) : Parallel β × Context :=
  if p.started then (p, ctx) else p.start ctx

def onUpdate (step : Float32) (ctx : Context) (p : Parallel β) :
    Float32 × Parallel β × Context :=
  let (p, ctx) := p.ready ctx
  let (left, lanes, ctx) := run step step ctx p.lanes
  (left, { p with lanes := lanes }, ctx)

omit [Behaves β] in
def canStop (p : Parallel β) : Bool :=
  p.lanes.all (·.finished)

def onTrigger (tag : String) (p : Parallel β) : Parallel β :=
  { p with lanes := p.lanes.map fun l =>
      if l.finished then l else { l with child := Behaves.onTrigger tag l.child } }

def onDestroy (ctx : Context) (p : Parallel β) : Context :=
  Behaves.releaseAll ctx (p.lanes.map (·.child))

def abandon (bus : Bus) (p : Parallel β) : Bus :=
  p.lanes.foldl (fun bus l => Behaves.abandon bus l.child) bus

end Parallel

end SkillScript
