import Boilerplate.Source.CodeEscape
import Boilerplate.Source.Lexeme.Basic
import Boilerplate.Source.Lexeme.Literal
import Boilerplate.Source.Lexeme.Number
import Boilerplate.Text.Identifier

namespace Boilerplate.Source

inductive Fault where
  | unclosedComment
  | unclosedLiteral
  | illegalEscape (rest : List Char)
  | hexFloat (rest : List Char)
  | unknown
  | digitsAtEnd

structure Halt where
  fault : Fault
  /-- What follows the lexeme before the fault. -/
  marked : List Char
  line : Nat
  rest : List Char

inductive Step where
  | gap (feeds : Nat) (rest : List Char)
  | lexeme (lexeme : Lexeme) (rest : List Char)
  | fault (fault : Fault)

def closeComment? : List Char → Option (Nat × List Char)
  | [] => none
  | '*' :: '/' :: rest => some (0, rest)
  | c :: rest =>
    (closeComment? rest).map fun (feeds, after) ↦ (if c = '\n' then feeds + 1 else feeds, after)

def upTo (cs rest : List Char) : String := String.ofList (cs.take (cs.length - rest.length))

def numeralStep (cs : List Char) (result : Except Numeral.Fault (List Char)) : Step :=
  match result with
  | .ok rest => .lexeme (.number (upTo cs rest)) rest
  | .error .digitsAtEnd => .fault .digitsAtEnd
  | .error (.noExponent rest) => .fault (.hexFloat rest)

/-- The surrogates that stand in `c :: rest` before its rest `after`, counted from there. -/
def surrogatesBefore (surrogates : List (Nat × Nat)) (rest after : List Char) : List (Nat × Nat) :=
  let last := after.length
  (surrogates.filter fun (left, _) ↦ last ≤ left && left ≤ rest.length).map fun (left, n) ↦
    (left - last, n)

def literalStep (surrogates : List (Nat × Nat)) (quote : Char) (rest : List Char) : Step :=
  match Literal.after quote .plain rest with
  | .ok after =>
    .lexeme (.string (upTo (quote :: rest) after) (surrogatesBefore surrogates rest after)) after
  | .error .unclosed => .fault .unclosedLiteral
  | .error (.illegalEscape rest) => .fault (.illegalEscape rest)

def operatorStep (c : Char) (rest : List Char) : Step :=
  match operatorAt? (c :: rest) with
  | some mark => .lexeme (.operator mark) (rest.drop (mark.length - 1))
  | none => .fault .unknown

def step (surrogates : List (Nat × Nat)) (c : Char) (rest : List Char) : Step :=
  if Text.isBlank c then
    .gap ((c :: rest.takeWhile Text.isBlank).count '\n') (rest.dropWhile Text.isBlank)
  else if c = '/' ∧ rest.head? = some '/' then
    let after := rest.dropWhile (· != '\n')
    .gap (if after.isEmpty then 0 else 1) (after.drop 1)
  else if c = '/' ∧ rest.head? = some '*' then
    match closeComment? (rest.drop 1) with
    | some (feeds, after) => .gap feeds after
    | none => .fault .unclosedComment
  else if c = '.' ∧ ['.', '.'].isPrefixOf rest then .lexeme (.operator "...") (rest.drop 2)
  else if c = '@' then .lexeme .atSign rest
  else if c = '.' ∧ rest.head?.any Text.isDigit then
    numeralStep (c :: rest) (Numeral.decimal (c :: rest))
  else if c ∈ separators then .lexeme (.separator c) rest
  else if c = '\'' ∨ c = '"' then literalStep surrogates c rest
  else if Numeral.isDecimal c then numeralStep (c :: rest) (Numeral.after (c :: rest))
  else if Text.isIdentifierStart c then
    .lexeme (.ofWord (String.ofList (c :: rest.takeWhile Text.isIdentifierPart)))
      (rest.dropWhile Text.isIdentifierPart)
  else operatorStep c rest

theorem closeComment?_length {cs after : List Char} {feeds : Nat}
    (h : closeComment? cs = some (feeds, after)) : after.length ≤ cs.length := by
  fun_induction closeComment? cs generalizing feeds with
  | case1 => simp at h
  | case2 rest =>
    simp only [Option.some.injEq, Prod.mk.injEq] at h
    obtain ⟨-, rfl⟩ := h
    simp only [List.length_cons]
    omega
  | case3 c rest _ ih =>
    simp only [Option.map_eq_some_iff, Prod.exists, Prod.mk.injEq] at h
    obtain ⟨n, r, hr, -, rfl⟩ := h
    have := ih hr
    simp only [List.length_cons]
    omega

def Step.rest? : Step → Option (List Char)
  | gap _ rest => some rest
  | lexeme _ rest => some rest
  | fault _ => none

theorem numeralStep_rest {cs rest : List Char} {result : Except Numeral.Fault (List Char)}
    (h : (numeralStep cs result).rest? = some rest) : result = .ok rest := by
  unfold numeralStep at h
  split at h <;> simp_all [Step.rest?]

theorem step_length {surrogates : List (Nat × Nat)} {c : Char} {cs rest : List Char}
    (h : (step surrogates c cs).rest? = some rest) : rest.length ≤ cs.length := by
  rw [step] at h
  by_cases hblank : Text.isBlank c = true
  · rw [if_pos hblank] at h
    obtain rfl := Option.some.inj h
    exact (List.dropWhile_sublist _).length_le
  rw [if_neg hblank] at h
  by_cases hline : c = '/' ∧ cs.head? = some '/'
  · rw [if_pos hline] at h
    obtain rfl := Option.some.inj h
    have hsublist := (List.drop_sublist 1 _).trans (List.dropWhile_sublist (l := cs) (· != '\n'))
    exact hsublist.length_le
  rw [if_neg hline] at h
  by_cases hblock : c = '/' ∧ cs.head? = some '*'
  · rw [if_pos hblock] at h
    split at h
    · next hc =>
      obtain rfl := Option.some.inj h
      exact Nat.le_trans (closeComment?_length hc) (List.drop_sublist 1 cs).length_le
    · cases h
  rw [if_neg hblock] at h
  by_cases hellipsis : c = '.' ∧ ['.', '.'].isPrefixOf cs = true
  · rw [if_pos hellipsis] at h
    obtain rfl := Option.some.inj h
    exact (List.drop_sublist 2 cs).length_le
  rw [if_neg hellipsis] at h
  by_cases hat : c = '@'
  · rw [if_pos hat] at h
    exact Option.some.inj h ▸ Nat.le_refl _
  rw [if_neg hat] at h
  by_cases hdot : c = '.' ∧ cs.head?.any Text.isDigit = true
  · rw [if_pos hdot] at h
    exact Numeral.decimal_length (.inr hdot.1) (numeralStep_rest h)
  rw [if_neg hdot] at h
  by_cases hseparator : c ∈ separators
  · rw [if_pos hseparator] at h
    exact Option.some.inj h ▸ Nat.le_refl _
  rw [if_neg hseparator] at h
  by_cases hquote : c = '\'' ∨ c = '"'
  · rw [if_pos hquote, literalStep] at h
    split at h
    · next hl => exact Option.some.inj h ▸ Literal.after_length hl
    · cases h
    · cases h
  rw [if_neg hquote] at h
  by_cases hdecimal : Numeral.isDecimal c = true
  · rw [if_pos hdecimal] at h
    exact Numeral.after_length hdecimal (numeralStep_rest h)
  rw [if_neg hdecimal] at h
  by_cases hstart : Text.isIdentifierStart c = true
  · rw [if_pos hstart] at h
    obtain rfl := Option.some.inj h
    exact (List.dropWhile_sublist _).length_le
  rw [if_neg hstart, operatorStep] at h
  split at h
  · obtain rfl := Option.some.inj h
    exact (List.drop_sublist _ cs).length_le
  · cases h

/-- The lexemes of a text whose first line has the number `line`; `marked` is what follows the
lexeme before it. -/
def scan (surrogates : List (Nat × Nat)) (marked : List Char) (line : Nat) (cs : List Char) :
    Except Halt (List Placed) :=
  match cs with
  | [] => .ok []
  | c :: rest =>
    match h : step surrogates c rest with
    | .gap feeds after =>
      have := @step_length surrogates c _ _ (by rw [h]; rfl)
      scan surrogates marked (line + feeds) after
    | .lexeme lexeme after =>
      have := @step_length surrogates c _ _ (by rw [h]; rfl)
      (scan surrogates after line after).map (⟨lexeme, line⟩ :: ·)
    | .fault fault => .error ⟨fault, marked, line, c :: rest⟩
termination_by cs.length
decreasing_by
  all_goals
    have := @step_length surrogates c _ _ (by rw [h]; rfl)
    simp only [List.length_cons]
    omega

end Boilerplate.Source
