/-!
# Letter case of ASCII letters

Only the letters `A` to `Z` have a lower-case form here; every other character
stands for itself.
-/
set_option autoImplicit false
namespace SkillScript.Text

def lowerChars (cs : List Char) : List Char :=
  cs.map Char.toLower

def lower (s : String) : String :=
  String.ofList (lowerChars s.toList)

def sameIgnoringCase (a b : String) : Bool :=
  lowerChars a.toList == lowerChars b.toList

end SkillScript.Text
