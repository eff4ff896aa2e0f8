namespace Boilerplate.Text

/-- The white space of Unicode and the four information separators. -/
def isBlankPoint (n : Nat) : Bool :=
  (0x9 ≤ n && n ≤ 0xD) || (0x1C ≤ n && n ≤ 0x20) || n == 0x85 || n == 0xA0 || n == 0x1680 ||
    (0x2000 ≤ n && n ≤ 0x200A) || n == 0x2028 || n == 0x2029 || n == 0x202F || n == 0x205F ||
    n == 0x3000

def isBlank (c : Char) : Bool := isBlankPoint c.toNat

theorem isBlank_eq_false_of_any {s : String} (h : s.toList.any isBlank = false) :
    ∀ c ∈ s.toList, isBlank c = false := by
  simpa using h

def trimEnd (cs : List Char) : List Char := (cs.reverse.dropWhile isBlank).reverse

def trim (cs : List Char) : List Char := trimEnd (cs.dropWhile isBlank)

theorem trimEnd_nil : trimEnd [] = [] := rfl

theorem trimEnd_append_of_not_isBlank {cs : List Char} {c : Char} (h : isBlank c = false) :
    trimEnd (cs ++ [c]) = cs ++ [c] := by
  simp [trimEnd, h]

end Boilerplate.Text
