import Boilerplate.Proofs.Source.Spelling
import Mathlib.Data.Bool.AllAny
import Mathlib.Data.List.Find

namespace Boilerplate.Source

variable {first second : List Char}

/-- Two texts that are the same up to a slash. -/
inductive Alike (first second : List Char) : List Char → List Char → Prop
  | slash : Alike first second ('/' :: first) ('/' :: second)
  | cons {c : Char} {cs ds : List Char} : c ∉ ['/', '\'', '"'] → Alike first second cs ds →
      Alike first second (c :: cs) (c :: ds)

namespace Alike

variable {c : Char} {cs ds rest other : List Char}

theorem append {start : List Char} (h : ∀ c ∈ start, c ∉ ['/', '\'', '"']) :
    Alike first second (start ++ '/' :: first) (start ++ '/' :: second) := by
  induction start with
  | nil => exact .slash
  | cons c start ih =>
    obtain ⟨hc, hstart⟩ := List.forall_mem_cons.mp h
    exact .cons hc (ih hstart)

theorem head?_eq (h : Alike first second cs ds) : cs.head? = ds.head? := by
  cases h <;> rfl

theorem isEmpty_eq_false (h : Alike first second cs ds) :
    cs.isEmpty = false ∧ ds.isEmpty = false := by
  cases h <;> exact ⟨rfl, rfl⟩

theorem dropWhile {p : Char → Bool} (hp : p '/' = false) (h : Alike first second cs ds) :
    Alike first second (cs.dropWhile p) (ds.dropWhile p) := by
  induction h with
  | slash =>
    rw [List.dropWhile_cons_of_neg (by simp [hp]), List.dropWhile_cons_of_neg (by simp [hp])]
    exact .slash
  | @cons c cs ds hc h ih =>
    by_cases hpc : p c = true
    · rw [List.dropWhile_cons_of_pos hpc, List.dropWhile_cons_of_pos hpc]
      exact ih
    · rw [List.dropWhile_cons_of_neg hpc, List.dropWhile_cons_of_neg hpc]
      exact .cons hc h

theorem takeWhile {p : Char → Bool} (hp : p '/' = false) (h : Alike first second cs ds) :
    cs.takeWhile p = ds.takeWhile p := by
  induction h with
  | slash =>
    rw [List.takeWhile_cons_of_neg (by simp [hp]), List.takeWhile_cons_of_neg (by simp [hp])]
  | @cons c cs ds hc h ih =>
    by_cases hpc : p c = true
    · rw [List.takeWhile_cons_of_pos hpc, List.takeWhile_cons_of_pos hpc, ih]
    · rw [List.takeWhile_cons_of_neg hpc, List.takeWhile_cons_of_neg hpc]

theorem isPrefixOf {mark : List Char} (hmark : '/' ∉ mark) (h : Alike first second cs ds) :
    mark.isPrefixOf cs = mark.isPrefixOf ds := by
  induction mark generalizing cs ds with
  | nil => simp
  | cons m mark ih =>
    obtain ⟨hm, hmark⟩ := List.ne_and_not_mem_of_not_mem_cons hmark
    cases h with
    | slash => simp [List.isPrefixOf, beq_false_of_ne hm.symm]
    | cons hc h => rw [List.isPrefixOf, List.isPrefixOf, ih hmark h]

theorem drop {mark : List Char} (hmark : '/' ∉ mark) (h : Alike first second cs ds)
    (hcs : mark.isPrefixOf cs = true) :
    Alike first second (cs.drop mark.length) (ds.drop mark.length) := by
  induction mark generalizing cs ds with
  | nil => exact h
  | cons m mark ih =>
    obtain ⟨hm, hmark⟩ := List.ne_and_not_mem_of_not_mem_cons hmark
    cases h with
    | slash => simp [List.isPrefixOf, beq_false_of_ne hm.symm] at hcs
    | cons hc h =>
      simp only [List.isPrefixOf, Bool.and_eq_true] at hcs
      exact ih hmark h hcs.2

theorem exists_take_eq (h : Alike first second cs ds) : ∃ count,
    cs.length = count + first.length ∧ ds.length = count + second.length ∧
      ∀ n ≤ count, cs.take n = ds.take n := by
  induction h with
  | slash =>
    refine ⟨1, by simp [Nat.add_comm], by simp [Nat.add_comm], fun n hn ↦ ?_⟩
    obtain rfl | rfl : n = 0 ∨ n = 1 := by omega
    · rfl
    · rfl
  | @cons c cs ds hc h ih =>
    obtain ⟨count, hcs, hds, htake⟩ := ih
    refine ⟨count + 1, by simp [hcs, Nat.add_right_comm], by simp [hds, Nat.add_right_comm],
      fun n hn ↦ ?_⟩
    cases n with
    | zero => rfl
    | succ n => rw [List.take_succ_cons, List.take_succ_cons, htake n (by omega)]

theorem upTo_eq (h : Alike first second cs ds) (hrest : Alike first second rest other) :
    upTo cs rest = upTo ds other := by
  obtain ⟨count, hcs, hds, htake⟩ := h.exists_take_eq
  obtain ⟨left, hr, ho, -⟩ := hrest.exists_take_eq
  have hlength : cs.length - rest.length = ds.length - other.length := by omega
  rw [upTo, upTo, hlength, htake _ (by omega)]

end Alike

namespace Numeral

variable {cs ds best best' : List Char} {p : Char → Bool}

/-- Two numerals read from alike texts: alike rests, or two faults. -/
inductive AlikeResult (first second : List Char) :
    Except Fault (List Char) → Except Fault (List Char) → Prop
  | ok {cs ds : List Char} : Alike first second cs ds → AlikeResult first second (.ok cs) (.ok ds)
  | error {e e' : Fault} : AlikeResult first second (.error e) (.error e')

theorem afterDigits_alike (hp : p '/' = false) (h : Alike first second cs ds)
    (hbest : Alike first second best best') :
    Alike first second (afterDigits p best cs) (afterDigits p best' ds) := by
  induction h generalizing best best' with
  | slash =>
    rw [afterDigits, afterDigits, if_neg (by simp [hp]), if_neg (by decide), if_neg (by simp [hp]),
      if_neg (by decide)]
    exact hbest
  | @cons c cs ds hc h ih =>
    rw [afterDigits, afterDigits]
    split
    · exact ih h
    · split
      · exact ih hbest
      · exact hbest

theorem afterLongMark_alike (h : Alike first second cs ds) :
    Alike first second (afterLongMark cs) (afterLongMark ds) := by
  have hrest := h.dropWhile (p := (· == '_')) (by decide)
  rw [afterLongMark, afterLongMark]
  generalize hcs : cs.dropWhile (· == '_') = rest at hrest ⊢
  generalize ds.dropWhile (· == '_') = rest' at hrest ⊢
  cases hrest with
  | slash => exact h
  | @cons c rest rest' hc hrest =>
    dsimp only
    split
    · next hmark =>
      cases h with
      | slash =>
        rw [List.dropWhile_cons_of_neg (by decide)] at hcs
        obtain ⟨rfl, -⟩ := List.cons.inj hcs
        exact absurd hmark (by decide)
      | cons hd h => exact h
    · exact h

/-- A numeral before a slash never ends where digits are due. -/
theorem digits_alike (hp : p '/' = false) (h : Alike first second cs ds) :
    ∃ rest rest', digits p cs = .ok rest ∧ digits p ds = .ok rest' ∧
      Alike first second rest rest' := by
  obtain ⟨hcs, hds⟩ := h.isEmpty_eq_false
  refine ⟨_, _, ?_, ?_, afterLongMark_alike (afterDigits_alike hp h h)⟩
  · rw [digits, if_neg (by simp [hcs])]
  · rw [digits, if_neg (by simp [hds])]

theorem afterSign_alike (h : Alike first second cs ds) :
    Alike first second (afterSign cs) (afterSign ds) := by
  cases h with
  | slash => exact .slash
  | cons hc h =>
    rw [afterSign, afterSign]
    split
    · exact h
    · exact .cons hc h

theorem afterFloatMark_alike (h : Alike first second cs ds) :
    Alike first second (afterFloatMark cs) (afterFloatMark ds) := by
  cases h with
  | slash => exact .slash
  | cons hc h =>
    rw [afterFloatMark, afterFloatMark]
    split
    · exact h
    · exact .cons hc h

theorem hexExponent_alike (h : Alike first second cs ds) :
    AlikeResult first second (hexExponent cs) (hexExponent ds) := by
  cases h with
  | slash => exact .error
  | cons hc h =>
    rw [hexExponent, hexExponent]
    split
    · obtain ⟨rest, rest', hr, hr', hrest⟩ :=
        digits_alike (p := isDecimal) (by decide) (afterSign_alike h)
      rw [hr, hr']
      exact .ok (afterFloatMark_alike hrest)
    · exact .error

theorem hexadecimal_alike (h : Alike first second cs ds) :
    AlikeResult first second (hexadecimal cs) (hexadecimal ds) := by
  obtain ⟨rest, rest', hr, hr', hrest⟩ := digits_alike (p := isHexadecimal) (by decide) h
  simp only [hexadecimal, hr, hr', bind, Except.bind, pure, Except.pure]
  cases hrest with
  | slash => exact .ok .slash
  | @cons c rest rest' hc hrest =>
    dsimp only
    split
    · obtain ⟨more, more', hm, hm', hmore⟩ := digits_alike (p := isHexadecimal) (by decide) hrest
      simp only [hm, hm']
      exact hexExponent_alike hmore
    · split
      · exact hexExponent_alike (.cons hc hrest)
      · exact .ok (.cons hc hrest)

theorem decimalExponent_alike (h : Alike first second cs ds) : ∃ rest rest',
    decimalExponent cs = .ok rest ∧ decimalExponent ds = .ok rest' ∧
      Alike first second rest rest' := by
  cases h with
  | slash => exact ⟨_, _, rfl, rfl, .slash⟩
  | cons hc h =>
    rw [decimalExponent, decimalExponent]
    split
    · exact digits_alike (by decide) (afterSign_alike h)
    · exact ⟨_, _, rfl, rfl, .cons hc h⟩

theorem decimal_alike (h : Alike first second cs ds) :
    AlikeResult first second (decimal cs) (decimal ds) := by
  obtain ⟨rest, rest', hr, hr', hrest⟩ := digits_alike (p := isDecimal) (by decide) h
  simp only [decimal, hr, hr', bind, Except.bind, pure, Except.pure]
  cases hrest with
  | slash => exact .ok .slash
  | @cons c rest rest' hc hrest =>
    dsimp only
    split
    · obtain ⟨more, more', hm, hm', hmore⟩ := digits_alike (p := isDecimal) (by decide) hrest
      obtain ⟨left, left', hl, hl', hleft⟩ := decimalExponent_alike hmore
      simp only [hm, hm', hl, hl']
      exact .ok (afterFloatMark_alike hleft)
    · obtain ⟨left, left', hl, hl', hleft⟩ := decimalExponent_alike (.cons hc hrest)
      simp only [hl, hl']
      exact .ok (afterFloatMark_alike hleft)

theorem after_alike (h : Alike first second cs ds) :
    AlikeResult first second (after cs) (after ds) := by
  have hdigits {p : Char → Bool} (hp : p '/' = false) {cs ds : List Char}
      (h : Alike first second cs ds) : AlikeResult first second (digits p cs) (digits p ds) := by
    obtain ⟨rest, rest', hr, hr', hrest⟩ := digits_alike hp h
    rw [hr, hr']
    exact .ok hrest
  cases h with
  | slash => exact decimal_alike .slash
  | @cons c cs ds hc h =>
    by_cases hzero : c = '0'
    · subst hzero
      cases h with
      | slash => exact decimal_alike (.cons hc .slash)
      | @cons x cs ds hx h =>
        rw [after, after]
        split
        · exact hexadecimal_alike h
        split
        · exact hdigits (by decide) h
        split
        · exact hdigits (by decide) (.cons hx h)
        · exact decimal_alike (.cons hc (.cons hx h))
    · have hafter (rest : List Char) : after (c :: rest) = decimal (c :: rest) := by
        rw [after] <;> simp [hzero]
      rw [hafter, hafter]
      exact decimal_alike (.cons hc h)

end Numeral

section Steps

variable {surrogates : List (Nat × Nat)} {c : Char} {cs ds : List Char}

inductive AlikeStep (first second : List Char) : Step → Step → Prop
  | gap {feeds : Nat} {cs ds : List Char} : Alike first second cs ds →
      AlikeStep first second (.gap feeds cs) (.gap feeds ds)
  | lexeme {l : Lexeme} {cs ds : List Char} : Alike first second cs ds →
      AlikeStep first second (.lexeme l cs) (.lexeme l ds)
  | fault {e e' : Fault} : AlikeStep first second (.fault e) (.fault e')

theorem numeralStep_alike {result result' : Except Numeral.Fault (List Char)}
    (h : Alike first second cs ds) (hr : Numeral.AlikeResult first second result result') :
    AlikeStep first second (numeralStep cs result) (numeralStep ds result') := by
  cases hr with
  | ok hrest =>
    rw [numeralStep, numeralStep, h.upTo_eq hrest]
    exact .lexeme hrest
  | @error e e' => cases e <;> cases e' <;> exact .fault

theorem exists_of_mem_operators {mark : String} (h : mark ∈ operators) :
    ∃ m tail, mark.toList = m :: tail ∧ '/' ∉ tail := by
  have hall : ∀ mark ∈ operators, mark.toList ≠ [] ∧ '/' ∉ mark.toList.tail := by decide
  obtain ⟨hne, htail⟩ := hall mark h
  obtain ⟨m, tail, hmark⟩ := List.exists_cons_of_ne_nil hne
  rw [hmark] at htail
  exact ⟨m, tail, hmark, htail⟩

theorem operatorStep_alike (h : Alike first second cs ds) :
    AlikeStep first second (operatorStep c cs) (operatorStep c ds) := by
  have hat : operatorAt? (c :: cs) = operatorAt? (c :: ds) := by
    rw [operatorAt?, operatorAt?]
    refine List.find?_congr fun mark hmark ↦ ?_
    obtain ⟨m, tail, htext, htail⟩ := exists_of_mem_operators hmark
    rw [htext, List.isPrefixOf, List.isPrefixOf, h.isPrefixOf htail]
  rw [operatorStep, operatorStep, hat]
  cases hmark : operatorAt? (c :: ds) with
  | none => exact .fault
  | some mark =>
    have hmem := List.mem_of_find?_eq_some hmark
    obtain ⟨m, tail, htext, htail⟩ := exists_of_mem_operators hmem
    have hlength : mark.length - 1 = tail.length := by
      rw [← String.length_toList, htext, List.length_cons, Nat.add_sub_cancel]
    have hprefix := List.find?_some (hat.trans hmark)
    rw [htext, List.isPrefixOf, Bool.and_eq_true] at hprefix
    dsimp only
    rw [hlength]
    exact .lexeme (h.drop htail hprefix.2)

theorem step_alike (hc : c ∉ ['/', '\'', '"']) (h : Alike first second cs ds) :
    AlikeStep first second (step surrogates c cs) (step surrogates c ds) := by
  obtain ⟨hslash, hquote⟩ : c ≠ '/' ∧ ¬(c = '\'' ∨ c = '"') := by simpa using hc
  have hcomment {rest : List Char} {d : Char} : ¬(c = '/' ∧ rest.head? = some d) :=
    fun hboth ↦ hslash hboth.1
  have hdot : '/' ∉ ['.', '.'] := by decide
  have hblank : Text.isBlank '/' = false := by decide +kernel
  have hpart : Text.isIdentifierPart '/' = false := by decide +kernel
  rw [step, step]
  by_cases hc₁ : Text.isBlank c = true
  · rw [if_pos hc₁, if_pos hc₁, h.takeWhile hblank]
    exact .gap (h.dropWhile hblank)
  rw [if_neg hc₁, if_neg hc₁, if_neg hcomment, if_neg hcomment, if_neg hcomment, if_neg hcomment,
    ← h.isPrefixOf hdot, h.head?_eq]
  by_cases hc₂ : c = '.' ∧ ['.', '.'].isPrefixOf cs = true
  · rw [if_pos hc₂, if_pos hc₂]
    exact .lexeme (h.drop hdot hc₂.2)
  rw [if_neg hc₂, if_neg hc₂]
  by_cases hc₃ : c = '@'
  · rw [if_pos hc₃, if_pos hc₃]
    exact .lexeme h
  rw [if_neg hc₃, if_neg hc₃]
  by_cases hc₄ : c = '.' ∧ ds.head?.any Text.isDigit = true
  · rw [if_pos hc₄, if_pos hc₄]
    exact numeralStep_alike (.cons hc h) (Numeral.decimal_alike (.cons hc h))
  rw [if_neg hc₄, if_neg hc₄]
  by_cases hc₅ : c ∈ separators
  · rw [if_pos hc₅, if_pos hc₅]
    exact .lexeme h
  rw [if_neg hc₅, if_neg hc₅, if_neg hquote, if_neg hquote]
  by_cases hc₆ : Numeral.isDecimal c = true
  · rw [if_pos hc₆, if_pos hc₆]
    exact numeralStep_alike (.cons hc h) (Numeral.after_alike (.cons hc h))
  rw [if_neg hc₆, if_neg hc₆]
  by_cases hc₇ : Text.isIdentifierStart c = true
  · rw [if_pos hc₇, if_pos hc₇, h.takeWhile hpart]
    exact .lexeme (h.dropWhile hpart)
  rw [if_neg hc₇, if_neg hc₇]
  exact operatorStep_alike h

end Steps

section Scans

variable {surrogates : List (Nat × Nat)} {marked marked' : List Char} {line : Nat} {cs ds rest : List Char}

theorem scan_of_fault {c : Char} {fault : Fault} (h : step surrogates c cs = .fault fault) :
    scan surrogates marked line (c :: cs) = .error ⟨fault, marked, line, c :: cs⟩ := by
  rw [scan.eq_def]
  dsimp only
  split <;> simp_all

theorem toOption_map {ε α β : Type} (x : Except ε α) (f : α → β) :
    (x.map f).toOption = x.toOption.map f := by
  cases x <;> rfl

theorem toOption_mapError {ε ε' α : Type} (x : Except ε α) (f : ε → ε') :
    (x.mapError f).toOption = x.toOption := by
  cases x <;> rfl

/-- The lexeme before a text counts in reports of faults only. -/
theorem toOption_scan_marked (surrogates : List (Nat × Nat)) (marked marked' : List Char) (line : Nat)
    (cs : List Char) :
    (scan surrogates marked line cs).toOption = (scan surrogates marked' line cs).toOption := by
  fun_induction scan surrogates marked line cs with
  | case1 => rw [scan.eq_def]
  | case2 marked line c rest feeds after h _ ih => rw [scan_of_gap h, ih]
  | case3 marked line c rest l after h _ ih => rw [scan_of_lexeme h]
  | case4 marked line c rest fault h => rw [scan_of_fault h]; rfl

theorem toOption_scan_alike (h : Alike first second cs ds)
    (hslash : ∀ line marked, (scan surrogates marked line ('/' :: first)).toOption =
      (scan surrogates marked line ('/' :: second)).toOption) (line : Nat) (marked : List Char) :
    (scan surrogates marked line cs).toOption = (scan surrogates marked line ds).toOption := by
  induction hn : cs.length using Nat.strong_induction_on generalizing cs ds line marked with
  | _ n ih =>
  subst hn
  cases h with
  | slash => exact hslash line marked
  | @cons c cs ds hc h =>
    have hstep : AlikeStep first second (step surrogates c cs) (step surrogates c ds) := step_alike hc h
    generalize hcs : step surrogates c cs = one at hstep
    generalize hds : step surrogates c ds = other at hstep
    cases hstep with
    | @gap feeds rest rest' hrest =>
      rw [scan_of_gap hcs, scan_of_gap hds]
      have hlt : rest.length < (c :: cs).length :=
        Nat.lt_succ_of_le (step_length (congrArg Step.rest? hcs))
      exact ih _ hlt hrest _ _ rfl
    | @lexeme l rest rest' hrest =>
      rw [scan_of_lexeme hcs, scan_of_lexeme hds, toOption_map, toOption_map]
      have hlt : rest.length < (c :: cs).length :=
        Nat.lt_succ_of_le (step_length (congrArg Step.rest? hcs))
      rw [ih _ hlt hrest _ _ rfl, toOption_scan_marked surrogates rest rest']
    | fault =>
      rw [scan_of_fault hcs, scan_of_fault hds]
      rfl

theorem scan_lineComment {comment : List Char} (h : '\n' ∉ comment) :
    scan surrogates marked line ('/' :: '/' :: (comment ++ '\n' :: rest)) =
      scan surrogates marked (line + 1) rest := by
  have hdrop : ('/' :: (comment ++ '\n' :: rest)).dropWhile (· != '\n') = '\n' :: rest := by
    rw [List.dropWhile_cons_of_pos (by decide), List.dropWhile_append_of_pos,
      List.dropWhile_cons_of_neg (by decide)]
    intro c hc
    have hne : c ≠ '\n' := fun he ↦ h (he ▸ hc)
    simpa using hne
  refine scan_of_gap ?_
  rw [step, if_neg (by decide), if_pos ⟨rfl, rfl⟩, hdrop]
  rfl

end Scans

section Sources

variable {start comment comment' rest : List Char}

theorem toOption_lexemes_append (h : '\\' ∉ start) (hrest : endsInEscape rest = false) :
    (lexemes (start ++ rest)).toOption = (decodeEscapes rest).toOption.bind fun points ↦
      (scan points.surrogates [] 1 (start ++ points.chars)).toOption := by
  rw [lexemes, decodeEscapes_append h hrest]
  cases decodeEscapes rest with
  | error fault => rfl
  | ok points =>
    simp only [Except.map, Text.CodePoints.chars_append, Text.CodePoints.chars_ofChars,
      Text.CodePoints.surrogates_ofChars_append, toOption_mapError]
    exact toOption_scan_marked ..

theorem toOption_lexemes_lineComment {text : List Char}
    (htext : ∀ c ∈ text, c ∉ ['/', '\'', '"', '\\'])
    (hcomment : ∀ c ∈ comment, c ≠ '\n' ∧ c ≠ '\\') (hrest : endsInEscape rest = false) :
    (lexemes (text ++ '/' :: '/' :: (comment ++ '\n' :: rest))).toOption =
      (lexemes (text ++ '/' :: '/' :: '\n' :: rest)).toOption := by
  have hplain : '\\' ∉ text := fun hm ↦ htext _ hm (by decide)
  have hwhole : '\\' ∉ text ++ '/' :: '/' :: (comment ++ ['\n']) := by
    simp only [List.mem_append, List.mem_cons, List.not_mem_nil, or_false, not_or]
    exact ⟨hplain, by decide, by decide, fun hm ↦ (hcomment _ hm).2 rfl, by decide⟩
  have hshort : '\\' ∉ text ++ ['/', '/', '\n'] := by
    simp only [List.mem_append, not_or]
    exact ⟨hplain, by decide⟩
  have hfeed : '\n' ∉ comment := fun hm ↦ (hcomment _ hm).1 rfl
  have hsides := toOption_lexemes_append hwhole hrest
  have hside := toOption_lexemes_append hshort hrest
  simp only [List.append_assoc, List.cons_append, List.nil_append] at hsides hside
  rw [hsides, hside]
  congr 1
  funext points
  apply toOption_scan_alike (.append fun c hc ↦ ?_)
  · intro line marked
    rw [scan_lineComment hfeed, ← List.nil_append ('\n' :: points.chars),
      scan_lineComment List.not_mem_nil]
  · exact fun hm ↦ htext c hc (List.mem_append_left ['\\'] hm)

theorem toOption_extract_congr {source source' : String}
    (h : (lexemes (maskTextBlocks source.toList)).toOption =
      (lexemes (maskTextBlocks source'.toList)).toOption) (start : Text.CodePoints) :
    (extract source start).toOption = (extract source' start).toOption := by
  rw [extract, extract, tokens, tokens]
  cases hl : lexemes (maskTextBlocks source.toList) <;>
    cases hl' : lexemes (maskTextBlocks source'.toList) <;> rw [hl, hl'] at h
  · rfl
  · cases h
  · cases h
  · rw [Option.some.inj h]

/-- A comment has no part in the outcome, but for a text block that it opens: what stands in the
block is gone. -/
theorem extract_lineComment {text comment rest : String}
    (htext : ∀ c ∈ text.toList, c ∉ ['/', '\'', '"', '\\'])
    (hcomment : ∀ c ∈ comment.toList, c ≠ '\n' ∧ c ≠ '\\')
    (hrest : endsInEscape (maskTextBlocks (leftBehind comment.toList rest.toList)) = false)
    (start : Text.CodePoints) :
    (extract (text ++ "//" ++ comment ++ "\n" ++ rest) start).toOption =
      (extract (text ++ "//\n" ++ String.ofList (leftBehind comment.toList rest.toList))
        start).toOption := by
  obtain ⟨masked, hmem, hmask⟩ :=
    exists_maskTextBlocks_line (fun hm ↦ (hcomment _ hm).1 rfl) rest.toList
  have hmasked : ∀ c ∈ masked, c ≠ '\n' ∧ c ≠ '\\' := by
    intro c hc
    rcases hmem c hc with rfl | hc
    · decide
    · exact hcomment c hc
  have hquote : '"' ∉ text.toList ++ ['/', '/'] := by
    simp only [List.mem_append, not_or]
    exact ⟨fun hm ↦ htext _ hm (by decide), by decide⟩
  have hfeed : '"' ∉ text.toList ++ ['/', '/', '\n'] := by
    simp only [List.mem_append, not_or]
    exact ⟨fun hm ↦ htext _ hm (by decide), by decide⟩
  have hwhole : (text ++ "//" ++ comment ++ "\n" ++ rest).toList =
      text.toList ++ ['/', '/'] ++ (comment.toList ++ '\n' :: rest.toList) := by
    simp
  have hshort : (text ++ "//\n" ++
      String.ofList (leftBehind comment.toList rest.toList)).toList =
        text.toList ++ ['/', '/', '\n'] ++ leftBehind comment.toList rest.toList := by
    simp
  refine toOption_extract_congr ?_ start
  rw [hwhole, hshort, maskTextBlocks_append hquote, maskTextBlocks_append hfeed, hmask]
  simp only [List.append_assoc, List.cons_append, List.nil_append]
  exact toOption_lexemes_lineComment htext hmasked hrest

theorem extract_lineComment_quoted :
    let text := "class A \x7b\n"
    let comment := " the \"first\" field"
    let rest := "    private int a;\n\x7d\n"
    ∃ x, extract (text ++ "//" ++ comment ++ "\n" ++ rest) "" = .ok x ∧
      extract (text ++ "//\n" ++ rest) "" = .ok x ∧
      x.fields.map (fun f ↦ (f.type, f.name, f.line)) = [("int", "a", 3)] := by
  intro text comment rest
  have hextracts : (extract (text ++ "//" ++ comment ++ "\n" ++ rest) "").toOption.any (fun x ↦
      x.fields.map (fun f ↦ (f.type, f.name, f.line)) = [("int", "a", 3)]) = true := by
    decide +kernel
  have hleft : String.ofList (leftBehind comment.toList rest.toList) = rest := by decide +kernel
  have hrest : endsInEscape (maskTextBlocks (leftBehind comment.toList rest.toList)) = false := by
    decide +kernel
  have htext : ∀ c ∈ text.toList, c ∉ ['/', '\'', '"', '\\'] :=
    List.all_iff_forall_prop.mp (by decide)
  have hcomment : ∀ c ∈ comment.toList, c ≠ '\n' ∧ c ≠ '\\' :=
    List.all_iff_forall_prop.mp (by decide)
  have halike := extract_lineComment htext hcomment hrest ""
  obtain ⟨x, hx, hfields⟩ := exists_eq_ok_of_any hextracts
  have hshort : (extract (text ++ "//\n" ++ rest) "").toOption = some x := by
    rw [← hleft, ← halike, hx]
    rfl
  exact ⟨x, hx, eq_ok_of_toOption hshort, hfields⟩

/-- A comment that ends in three quotes takes the field on the next line into a text block. -/
theorem comment_hides_field :
    let text := "class A \x7b\n"
    let comment := " \"\"\""
    let rest := "    private int a;\n// \"\"\"\n\x7d\n"
    (∀ c ∈ text.toList, c ∉ ['/', '\'', '"', '\\']) ∧
      (∀ c ∈ comment.toList, c ≠ '\n' ∧ c ≠ '\\') ∧
      ∃ x x', extract (text ++ "//" ++ comment ++ "\n" ++ rest) "" = .ok x ∧
        extract (text ++ "//\n" ++ rest) "" = .ok x' ∧ x.fields = [] ∧ x.warnings = [] ∧
        x'.fields.map (fun f ↦ (f.type, f.name, f.line)) = [("int", "a", 3)] := by
  intro text comment rest
  have hwhole : (extract (text ++ "//" ++ comment ++ "\n" ++ rest) "").toOption.any (fun x ↦
      x.fields = [] ∧ x.warnings = []) = true := by
    decide +kernel
  have hshort : (extract (text ++ "//\n" ++ rest) "").toOption.any (fun x ↦
      x.fields.map (fun f ↦ (f.type, f.name, f.line)) = [("int", "a", 3)]) = true := by
    decide +kernel
  obtain ⟨x, hx, hfields, hwarnings⟩ := exists_eq_ok_of_any hwhole
  obtain ⟨x', hx', hfields'⟩ := exists_eq_ok_of_any hshort
  exact ⟨List.all_iff_forall_prop.mp (by decide), List.all_iff_forall_prop.mp (by decide), x, x', hx,
    hx', hfields, hwarnings, hfields'⟩

end Sources

end Boilerplate.Source
