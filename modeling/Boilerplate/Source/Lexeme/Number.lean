namespace Boilerplate.Source.Numeral

inductive Fault where
  | digitsAtEnd
  | noExponent (rest : List Char)

def isDecimal (c : Char) : Bool := '0' ≤ c && c ≤ '9'

def isHexadecimal (c : Char) : Bool :=
  isDecimal c || ('a' ≤ c && c ≤ 'f') || ('A' ≤ c && c ≤ 'F')

def isOctal (c : Char) : Bool := '0' ≤ c && c ≤ '7'

def isBinary (c : Char) : Bool := c == '0' || c == '1'

/-- What follows the last digit of a run of digits; low lines within the run belong to it. -/
def afterDigits (isDigit : Char → Bool) (best : List Char) : List Char → List Char
  | [] => best
  | c :: rest =>
    if isDigit c then afterDigits isDigit rest rest
    else if c = '_' then afterDigits isDigit best rest
    else best

/-- A mark `L` takes one more character, even if low lines stand before it. -/
def afterLongMark (rest : List Char) : List Char :=
  match rest.dropWhile (· == '_') with
  | c :: _ => if c = 'l' ∨ c = 'L' then rest.drop 1 else rest
  | [] => rest

def digits (isDigit : Char → Bool) (cs : List Char) : Except Fault (List Char) :=
  if cs.isEmpty then .error .digitsAtEnd else .ok (afterLongMark (afterDigits isDigit cs cs))

def afterSign : List Char → List Char
  | c :: rest => if c = '+' ∨ c = '-' then rest else c :: rest
  | [] => []

def afterFloatMark : List Char → List Char
  | c :: rest => if c = 'f' ∨ c = 'F' ∨ c = 'd' ∨ c = 'D' then rest else c :: rest
  | [] => []

def hexExponent : List Char → Except Fault (List Char)
  | c :: rest =>
    if c = 'p' ∨ c = 'P' then (digits isDecimal (afterSign rest)).map afterFloatMark
    else .error (.noExponent (c :: rest))
  | [] => .error (.noExponent [])

def hexadecimal (cs : List Char) : Except Fault (List Char) := do
  let rest ← digits isHexadecimal cs
  match rest with
  | [] => return []
  | c :: more =>
    if c = '.' then hexExponent (← digits isHexadecimal more)
    else if c = 'p' ∨ c = 'P' then hexExponent rest
    else return rest

def decimalExponent : List Char → Except Fault (List Char)
  | c :: rest =>
    if c = 'e' ∨ c = 'E' then digits isDecimal (afterSign rest) else .ok (c :: rest)
  | [] => .ok []

def decimal (cs : List Char) : Except Fault (List Char) := do
  let rest ← digits isDecimal cs
  match rest with
  | [] => return []
  | c :: more =>
    if c = '.' then
      return afterFloatMark (← decimalExponent (← digits isDecimal more))
    else
      return afterFloatMark (← decimalExponent rest)

def after (cs : List Char) : Except Fault (List Char) :=
  match cs with
  | ['0'] => .error .digitsAtEnd
  | '0' :: x :: rest =>
    if x = 'x' ∨ x = 'X' then hexadecimal rest
    else if x = 'b' ∨ x = 'B' then digits isBinary rest
    else if isOctal x then digits isOctal (x :: rest)
    else decimal cs
  | cs => decimal cs

theorem afterDigits_length (isDigit : Char → Bool) (best cs : List Char) :
    (afterDigits isDigit best cs).length ≤ max best.length cs.length := by
  induction cs generalizing best with
  | nil => simp [afterDigits]
  | cons c rest ih =>
    rw [afterDigits]
    split
    · have := ih rest
      simp only [List.length_cons]
      omega
    · split
      · have := ih best
        simp only [List.length_cons]
        omega
      · omega

theorem afterLongMark_length (rest : List Char) : (afterLongMark rest).length ≤ rest.length := by
  unfold afterLongMark
  split
  · split
    · simp
    · exact Nat.le_refl _
  · exact Nat.le_refl _

theorem afterSign_length (cs : List Char) : (afterSign cs).length ≤ cs.length := by
  cases cs with
  | nil => simp [afterSign]
  | cons c rest =>
    rw [afterSign]
    split <;> simp

theorem afterFloatMark_length (cs : List Char) : (afterFloatMark cs).length ≤ cs.length := by
  cases cs with
  | nil => simp [afterFloatMark]
  | cons c rest =>
    rw [afterFloatMark]
    split <;> simp

theorem digits_length {isDigit : Char → Bool} {cs rest : List Char}
    (h : digits isDigit cs = .ok rest) : rest.length ≤ cs.length := by
  unfold digits at h
  split at h
  · simp at h
  · simp only [Except.ok.injEq] at h
    have := afterDigits_length isDigit cs cs
    have := afterLongMark_length (afterDigits isDigit cs cs)
    subst h
    omega

theorem digits_cons_length {isDigit : Char → Bool} {c : Char} {cs rest : List Char}
    (hc : isDigit c) (h : digits isDigit (c :: cs) = .ok rest) : rest.length ≤ cs.length := by
  have h' : afterLongMark (afterDigits isDigit cs cs) = rest := by
    simpa [digits, afterDigits, hc] using h
  have := afterDigits_length isDigit cs cs
  have := afterLongMark_length (afterDigits isDigit cs cs)
  subst h'
  omega

theorem hexExponent_length {cs rest : List Char} (h : hexExponent cs = .ok rest) :
    rest.length ≤ cs.length := by
  cases cs with
  | nil => simp [hexExponent] at h
  | cons c more =>
    rw [hexExponent] at h
    split at h
    · cases hd : digits isDecimal (afterSign more) with
      | error e => simp [hd, Except.map] at h
      | ok r =>
        simp only [hd, Except.map, Except.ok.injEq] at h
        have := digits_length hd
        have := afterSign_length more
        have := afterFloatMark_length r
        subst h
        simp only [List.length_cons]
        omega
    · simp at h

theorem hexadecimal_length {cs rest : List Char} (h : hexadecimal cs = .ok rest) :
    rest.length ≤ cs.length := by
  unfold hexadecimal at h
  cases hd : digits isHexadecimal cs with
  | error e => simp [hd, bind, Except.bind] at h
  | ok r =>
    have le := digits_length hd
    simp only [hd, bind, Except.bind, pure, Except.pure] at h
    cases r with
    | nil =>
      simp only [Except.ok.injEq] at h
      subst h
      simp
    | cons c more =>
      simp only [List.length_cons] at le
      dsimp only at h
      split at h
      · cases hm : digits isHexadecimal more with
        | error e => simp [hm] at h
        | ok r' =>
          simp only [hm] at h
          have := digits_length hm
          have := hexExponent_length h
          omega
      · split at h
        · have := hexExponent_length h
          simp only [List.length_cons] at this
          omega
        · simp only [Except.ok.injEq] at h
          subst h
          simp only [List.length_cons]
          omega

theorem decimalExponent_length {cs rest : List Char} (h : decimalExponent cs = .ok rest) :
    rest.length ≤ cs.length := by
  cases cs with
  | nil => simp_all [decimalExponent]
  | cons c more =>
    rw [decimalExponent] at h
    split at h
    · have := digits_length h
      have := afterSign_length more
      simp only [List.length_cons]
      omega
    · simp only [Except.ok.injEq] at h
      simp [← h]

theorem decimal_length {c : Char} {cs rest : List Char} (hc : isDecimal c ∨ c = '.')
    (h : decimal (c :: cs) = .ok rest) : rest.length ≤ cs.length := by
  unfold decimal at h
  cases hd : digits isDecimal (c :: cs) with
  | error e => simp [hd, bind, Except.bind] at h
  | ok r =>
    simp only [hd, bind, Except.bind, pure, Except.pure] at h
    cases r with
    | nil =>
      simp only [Except.ok.injEq] at h
      subst h
      simp
    | cons d more =>
      dsimp only at h
      split at h
      · cases hm : digits isDecimal more with
        | error e => simp [hm] at h
        | ok r₁ =>
          cases he : decimalExponent r₁ with
          | error e => simp [hm, he] at h
          | ok r₂ =>
            simp only [hm, he, Except.ok.injEq] at h
            have le := digits_length hd
            have := digits_length hm
            have := decimalExponent_length he
            have := afterFloatMark_length r₂
            simp only [List.length_cons] at le
            subst h
            omega
      · next hdot =>
        have lt : (d :: more).length ≤ cs.length := by
          rcases hc with hc | rfl
          · exact digits_cons_length hc hd
          · have : afterLongMark ('.' :: cs) = d :: more := by
              simpa [digits, afterDigits, isDecimal] using hd
            simp [afterLongMark] at this
            exact absurd this.1.symm hdot
        cases he : decimalExponent (d :: more) with
        | error e => simp [he] at h
        | ok r₂ =>
          simp only [he, Except.ok.injEq] at h
          have := decimalExponent_length he
          have := afterFloatMark_length r₂
          subst h
          omega

theorem after_length {c : Char} {cs rest : List Char} (hc : isDecimal c)
    (h : after (c :: cs) = .ok rest) : rest.length ≤ cs.length := by
  unfold after at h
  split at h
  · simp at h
  · next x more heq =>
    obtain ⟨rfl, rfl⟩ := List.cons.inj heq
    split at h
    · have := hexadecimal_length h
      simp only [List.length_cons]
      omega
    · split at h
      · have := digits_length h
        simp only [List.length_cons]
        omega
      · split at h
        · exact digits_length h
        · exact decimal_length (.inl hc) h
  · exact decimal_length (.inl hc) h

end Boilerplate.Source.Numeral
