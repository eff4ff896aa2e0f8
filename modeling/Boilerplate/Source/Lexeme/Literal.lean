namespace Boilerplate.Source.Literal

inductive Fault where
  | unclosed
  /-- What follows a backslash, on which no escape begins. -/
  | illegalEscape (rest : List Char)

inductive State where
  | plain
  | escape
  /-- An octal escape that may take one more digit, which is waited for. -/
  | longOctal
  /-- An octal escape after its last digit but one. -/
  | shortOctal

def after (quote : Char) : State → List Char → Except Fault (List Char)
  | _, [] => .error .unclosed
  | .plain, c :: rest =>
    if c = '\\' then after quote .escape rest
    else if c = quote then .ok rest
    else after quote .plain rest
  | .escape, c :: rest =>
    if c ∈ ['b', 't', 'n', 'f', 'r', 'u', '"', '\'', '\\'] then after quote .plain rest
    else if '0' ≤ c ∧ c ≤ '3' then after quote .longOctal rest
    else if '4' ≤ c ∧ c ≤ '7' then after quote .shortOctal rest
    else .error (.illegalEscape (c :: rest))
  | .longOctal, c :: rest =>
    if '0' ≤ c ∧ c ≤ '7' then after quote .shortOctal rest
    else if c = '\\' then after quote .escape rest
    else if c = quote then .ok rest
    else after quote .longOctal rest
  | .shortOctal, c :: rest =>
    if c = '\\' then after quote .escape rest
    else if c = quote then .ok rest
    else after quote .plain rest

theorem after_length {quote : Char} {state : State} {cs rest : List Char}
    (h : after quote state cs = .ok rest) : rest.length ≤ cs.length := by
  fun_induction after quote state cs <;> simp_all <;> omega

end Boilerplate.Source.Literal
