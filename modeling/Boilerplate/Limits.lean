namespace Boilerplate

/-- Bounds that are set where a program runs, and not by the program. -/
structure Limits where
  digits : Option Nat
  /-- How many arrays and objects may stand one inside the other in a text that is read. -/
  nesting : Nat
  /-- How many values may stand one inside the other in a value that is displayed. -/
  depth : Nat
  deriving DecidableEq, Repr

namespace Limits

def usual : Limits := ⟨some 4300, 900, 1000⟩

/-- The least number with more than so many digits. -/
def leastBeyond (digits : Nat) : Nat := Nat.pow 10 digits

variable (l : Limits)

def admitsDigits (count : Nat) : Bool := l.digits.all (count ≤ ·)

def exceededBy? (n : Int) : Option Nat :=
  l.digits.filter fun most ↦ leastBeyond most ≤ n.natAbs

theorem exceededBy?_of_unbounded {l : Limits} (h : l.digits = none) (n : Int) :
    l.exceededBy? n = none := by
  simp [exceededBy?, h]

theorem of_exceededBy?_eq_some {l : Limits} {n : Int} {most : Nat}
    (h : l.exceededBy? n = some most) :
    l.digits = some most ∧ leastBeyond most ≤ n.natAbs := by
  simpa [exceededBy?, Option.filter_eq_some_iff] using h

end Limits

end Boilerplate
