namespace Boilerplate.Text

/-- Disjoint closed ranges of code points in ascending order. -/
abbrev CodeRanges := List (Nat × Nat)

def CodeRanges.contains : CodeRanges → Nat → Bool
  | [], _ => false
  | (first, last) :: rest, n =>
    if n < first then false
    else if n ≤ last then true
    else CodeRanges.contains rest n

end Boilerplate.Text
