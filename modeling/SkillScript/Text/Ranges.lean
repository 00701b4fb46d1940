/-!
# Tables of code points

A set of code points is kept as an array of inclusive ranges in ascending order
and is searched by halving.
-/
set_option autoImplicit false
namespace SkillScript.Text

/-- Halves the stretch of the table in which the range of `n` can lie. -/
def searchRanges (table : Array (Nat × Nat)) (n : Nat) : Nat → Nat → Nat → Bool
  | 0, _, _ => false
  | fuel + 1, lo, hi =>
    if hi ≤ lo then false
    else
      let mid := (lo + hi) / 2
      match table[mid]? with
      | none => false
      | some (first, last) =>
        if n < first then searchRanges table n fuel lo mid
        else if last < n then searchRanges table n fuel (mid + 1) hi
        else true

def inRanges (table : Array (Nat × Nat)) (n : Nat) : Bool :=
  searchRanges table n table.size 0 table.size

end SkillScript.Text
