import SkillScript.World.Context
/-!
# Acting on the elements of a list

An act changes an element and the context. It is done to one element, or to all of
them in order.
-/
set_option autoImplicit false
namespace SkillScript

variable {α : Type}

/-- Acts on the element at a position, if there is one. -/
def actAt (act : Context → α → α × Context) (ctx : Context) :
    Nat → List α → List α × Context
  | _, [] => ([], ctx)
  | 0, a :: rest =>
    let (a, ctx) := act ctx a
    (a :: rest, ctx)
  | n + 1, a :: rest =>
    let (rest, ctx) := actAt act ctx n rest
    (a :: rest, ctx)

def actAll (act : Context → α → α × Context) (ctx : Context) :
    List α → List α × Context
  | [] => ([], ctx)
  | a :: rest =>
    let (a, ctx) := act ctx a
    let (rest, ctx) := actAll act ctx rest
    (a :: rest, ctx)

end SkillScript
