/-!
# Sets of characters given by ranges of code points

A property of characters is written down as an array of inclusive ranges in
ascending order, and a character is looked up by halving that array.
-/

namespace WidgetTemplate.Text

/-- Inclusive ranges of code points, ascending and disjoint. -/
abbrev CodeRanges := Array (Nat × Nat)

namespace CodeRanges

/--
Whether some range at an index from `low` on and below `high` holds `code`.
-/
def holdsBetween
    (ranges : CodeRanges)
    (code low high : Nat) : Bool :=
  if _inside : low < high then
    let middle := (low + high) / 2
    match ranges[middle]? with
    | none => false
    | some (first, last) =>
        if code < first then
          holdsBetween ranges code low middle
        else if last < code then
          holdsBetween ranges code (middle + 1) high
        else
          true
  else
    false
termination_by high - low
decreasing_by all_goals omega

/-- Whether a range of the set holds the character. -/
def holds (ranges : CodeRanges) (char : Char) : Bool :=
  holdsBetween ranges char.toNat 0 ranges.size

end CodeRanges

end WidgetTemplate.Text
