/-!
# Markup elements

A script is written as a tree of elements: a tag that names a node type, ordered
attributes and ordered children. Three tags are reserved for roles: such a child
is a wrapper that holds one element for a named place. The other children are the
entries of the element.
-/
set_option autoImplicit false
namespace SkillScript

structure Element where
  tag : String
  attrs : List (String × String) := []
  children : List Element := []
deriving Repr, Inhabited

inductive Role where
  | behavior
  | exitBehavior
  | condition
deriving DecidableEq, Repr

namespace Role

def all : List Role :=
  [behavior, exitBehavior, condition]

def tag : Role → String
  | behavior => "Bhv"
  | exitBehavior => "ExitBhv"
  | condition => "Condition"

def ofTag? (s : String) : Option Role :=
  all.find? fun r => r.tag = s

end Role

namespace Element

def isRole (e : Element) : Bool :=
  (Role.ofTag? e.tag).isSome

/-- The children that are no wrappers. -/
def entries (e : Element) : List Element :=
  e.children.filter fun c => !c.isRole

def attr? (e : Element) (name : String) : Option String :=
  (e.attrs.find? fun a => a.1 = name).map Prod.snd

def wrappers (e : Element) (tag : String) : List Element :=
  e.children.filter fun c => c.tag = tag

end Element

end SkillScript
