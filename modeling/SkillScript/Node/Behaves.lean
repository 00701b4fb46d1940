import SkillScript.World.Context
/-!
# What behaves

Containers run children of any type that behaves: that can be woken, put to rest,
reset and updated, and that knows when it has nothing left to do. An update
returns the part of the step that was not used, so that the next child can run
within the same step. Waking what is awake and resting what rests changes nothing.
-/
set_option autoImplicit false
namespace SkillScript

class Behaves (β : Type) where
  isActive : β → Bool
  activate : Context → β → β × Context
  deactivate : Context → β → β × Context
  reset : Context → β → β × Context
  update : Float32 → Context → β → Float32 × β × Context
  /-- Whether nothing is left to do. -/
  canStop : β → Bool
  /-- Passes a trigger down to what is active. -/
  onTrigger : String → β → β
  /-- Releases what the node holds. -/
  destroy : Context → β → Context
  /-- The bus without the receivers of a node that is dropped. -/
  abandon : Bus → β → Bus

export Behaves (canStop)

instance : Behaves Empty where
  isActive b := nomatch b
  activate _ b := nomatch b
  deactivate _ b := nomatch b
  reset _ b := nomatch b
  update _ _ b := nomatch b
  canStop b := nomatch b
  onTrigger _ b := nomatch b
  destroy _ b := nomatch b
  abandon _ b := nomatch b

namespace Behaves

variable {β : Type} [Behaves β]

def enter (ctx : Context) (b : β) : β × Context :=
  let (b, ctx) := reset ctx b
  activate ctx b

def release (ctx : Context) (b : β) : Context :=
  (destroy ctx b).buried

def releaseAll (ctx : Context) (bs : List β) : Context :=
  bs.foldl release ctx

end Behaves

end SkillScript
