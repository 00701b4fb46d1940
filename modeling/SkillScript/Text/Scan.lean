/-!
# Scanning text

A scanner takes a value off the front of a text and leaves the rest; it answers
`none` where the text is malformed. Lists of items with separators are scanned the
same way whatever the items are.
-/
set_option autoImplicit false
namespace SkillScript.Text

abbrev Scan (α : Type) := List Char → Option (α × List Char)

/-- Skips what may stand between tokens; `none` where a comment is malformed. -/
abbrev Gap := List Char → Option (List Char)

def dropPrefix? : List Char → List Char → Option (List Char)
  | [], cs => some cs
  | _ :: _, [] => none
  | p :: ps, c :: cs => if p = c then dropPrefix? ps cs else none

/-- Items up to a closing character, with a comma between any two and perhaps one behind the
last. Gaps may stand everywhere around items and commas. -/
def scanItems {α : Type} (gap : Gap) (close : Char) (item : Scan α) (cs : List Char) :
    Option (List α × List Char) := do
  let here ← gap cs
  match here with
  | [] => none
  | c :: rest =>
    if c = close then some ([], rest)
    else
      let (a, rest) ← item here
      match ← gap rest with
      | [] => none
      | c :: rest =>
        if c = close then some ([a], rest)
        else if c = ',' then
          if _h : rest.length < cs.length then
            let (as, rest) ← scanItems gap close item rest
            some (a :: as, rest)
          else none
        else none
termination_by cs.length

end SkillScript.Text
