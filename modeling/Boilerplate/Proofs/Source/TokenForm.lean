import Boilerplate.Source.Extraction
import Mathlib.Data.List.TakeWhile

namespace Boilerplate.Source

theorem map_eq_ok_iff {ε α β : Type} {f : α → β} {x : Except ε α} {b : β} :
    x.map f = .ok b ↔ ∃ a, x = .ok a ∧ f a = b := by
  cases x <;> simp [Except.map]

theorem eq_ok_of_toOption {ε α : Type} {x : Except ε α} {a : α} (h : x.toOption = some a) :
    x = .ok a := by
  cases x with
  | error e => simp [Except.toOption] at h
  | ok b => exact congrArg Except.ok (Option.some.inj h)

theorem exists_eq_ok_of_any {ε α : Type} {x : Except ε α} {P : α → Prop} [DecidablePred P]
    (h : x.toOption.any (fun a ↦ decide (P a)) = true) : ∃ a, x = .ok a ∧ P a := by
  obtain ⟨a, ha, hP⟩ := (Option.any_eq_true _ _).mp h
  exact ⟨a, eq_ok_of_toOption ha, of_decide_eq_true hP⟩

/-- Identifiers joined by points, read loosely: the characters of identifiers, and points. -/
def IsWordText (text : String) : Prop :=
  ∃ c rest, text.toList = c :: rest ∧ Text.isIdentifierStart c = true ∧
    ∀ d ∈ rest, Text.isIdentifierPart d = true ∨ d = '.'

def startsNumeral (c : Char) : Prop := c = '.' ∨ Numeral.isDecimal c = true

def Lexeme.WellFormed : Lexeme → Prop
  | atSign => True
  | identifier name => IsWordText name
  | reserved word => word ∈ Identifier.reservedWords
  | string text _ => ∃ c, text.toList.head? = some c ∧ (c = '\'' ∨ c = '"')
  | character _ => False
  | number text => ∃ c, text.toList.head? = some c ∧ startsNumeral c
  | separator mark => mark ∈ separators
  | operator mark => mark ∈ operators

def Token.WellFormed (t : Token) : Prop :=
  match t.kind with
  | .word => IsWordText t.text
  | .atName => True
  | .string => ∃ c, t.text.toList.head? = some c ∧ (c = '\'' ∨ c = '"')
  | .character => False
  | .number => ∃ c, t.text.toList.head? = some c ∧ startsNumeral c
  | .symbol =>
    t.text = "@" ∨ t.text ∈ operators ∨ ∃ mark ∈ separators, t.text = String.singleton mark

theorem Token.isSymbol_iff {t : Token} {mark : String} :
    t.isSymbol mark = true ↔ t.kind = .symbol ∧ t.text = mark := by
  simp only [isSymbol, Bool.and_eq_true, beq_iff_eq]

theorem Token.isWord_iff {t : Token} : t.isWord = true ↔ t.kind = .word := beq_iff_eq

theorem Token.kind_ne_of_isWord {t : Token} {kind : Token.Kind} (h : t.isWord = true)
    (hk : kind ≠ .word) : t.kind ≠ kind := by
  rw [isWord_iff.mp h]
  exact hk.symm

section Lexemes

variable {surrogates : List (Nat × Nat)} {c : Char} {cs rest : List Char}

theorem head?_upTo (h : rest.length ≤ cs.length) :
    (upTo (c :: cs) rest).toList.head? = some c := by
  have hn : (c :: cs).length - rest.length = cs.length - rest.length + 1 := by
    simp only [List.length_cons]
    omega
  rw [upTo, String.toList_ofList, hn, List.take_succ_cons, List.head?_cons]

theorem numeralStep_wellFormed {result : Except Numeral.Fault (List Char)} {l : Lexeme}
    (hc : startsNumeral c) (h : numeralStep (c :: cs) result = .lexeme l rest)
    (hr : rest.length ≤ cs.length) : l.WellFormed := by
  unfold numeralStep at h
  split at h
  · simp only [Step.lexeme.injEq] at h
    obtain ⟨rfl, rfl⟩ := h
    exact ⟨c, head?_upTo hr, hc⟩
  · simp at h
  · simp at h

theorem literalStep_wellFormed {l : Lexeme} (hc : c = '\'' ∨ c = '"')
    (h : literalStep surrogates c cs = .lexeme l rest) (hr : rest.length ≤ cs.length) :
    l.WellFormed := by
  unfold literalStep at h
  split at h
  · simp only [Step.lexeme.injEq] at h
    obtain ⟨rfl, rfl⟩ := h
    exact ⟨c, head?_upTo hr, hc⟩
  · simp at h
  · simp at h

theorem lookup_surrogatesBefore {left : Nat} (h : left + rest.length ≤ cs.length) :
    (surrogatesBefore surrogates cs rest).lookup left =
      surrogates.lookup (left + rest.length) := by
  induction surrogates with
  | nil => rfl
  | cons found surrogates ih =>
    obtain ⟨place, n⟩ := found
    rw [surrogatesBefore] at ih ⊢
    by_cases hin : rest.length ≤ place ∧ place ≤ cs.length
    · have hkey : (left == place - rest.length) = (left + rest.length == place) := by
        rw [Bool.eq_iff_iff, beq_iff_eq, beq_iff_eq]
        omega
      rw [List.filter_cons_of_pos (by simpa using hin), List.map_cons, List.lookup_cons,
        List.lookup_cons, hkey, ih]
    · have hne : (left + rest.length == place) = false := beq_false_of_ne (by omega)
      rw [List.filter_cons_of_neg (by simpa using hin), List.lookup_cons, hne, ih]

/-- A literal tells the code points that stand in its place. -/
theorem restore_literalStep {before own after : Text.CodePoints} {l : Lexeme}
    (hown : ∀ n ∈ own, n < 0x110000) (hplace : c :: cs = own.chars ++ after.chars)
    (h : literalStep (before ++ own ++ after).surrogates c cs = .lexeme l after.chars) :
    .restore l.surrogates l.text.toList = own := by
  have hlength : cs.length + 1 = own.length + after.length := by
    simpa using congrArg List.length hplace
  unfold literalStep at h
  split at h
  · simp only [Step.lexeme.injEq] at h
    obtain ⟨rfl, rfl⟩ := h
    have htext : (upTo (c :: cs) after.chars).toList = own.chars := by
      rw [upTo, String.toList_ofList, hplace, List.length_append, Nat.add_sub_cancel,
        List.take_left]
    rw [Lexeme.text, htext, Lexeme.surrogates]
    refine @Text.CodePoints.restore_chars _ before own after hown fun left hleft ↦ ?_
    rw [lookup_surrogatesBefore (by rw [Text.CodePoints.length_chars]; omega),
      Text.CodePoints.length_chars]
  · simp at h
  · simp at h

theorem operatorStep_wellFormed {l : Lexeme} (h : operatorStep c cs = .lexeme l rest) :
    l.WellFormed := by
  unfold operatorStep at h
  split at h
  · next mark hm =>
    simp only [Step.lexeme.injEq] at h
    obtain ⟨rfl, -⟩ := h
    exact List.mem_of_find?_eq_some hm
  · simp at h

theorem ofWord_wellFormed {word : String} (h : IsWordText word) :
    (Lexeme.ofWord word).WellFormed := by
  unfold Lexeme.ofWord
  split
  · next hw => exact hw
  · exact h

/-- A piece of a text begins with the first character of the text, and that character decides
what the piece is. -/
theorem step_wellFormed {l : Lexeme} (h : step surrogates c cs = .lexeme l rest) : l.WellFormed := by
  have hr : rest.length ≤ cs.length := step_length (by rw [h]; rfl)
  rw [step] at h
  by_cases hblank : Text.isBlank c = true
  · rw [if_pos hblank] at h
    cases h
  rw [if_neg hblank] at h
  by_cases hline : c = '/' ∧ cs.head? = some '/'
  · rw [if_pos hline] at h
    cases h
  rw [if_neg hline] at h
  by_cases hcomment : c = '/' ∧ cs.head? = some '*'
  · rw [if_pos hcomment] at h
    split at h <;> cases h
  rw [if_neg hcomment] at h
  by_cases hdots : c = '.' ∧ ['.', '.'].isPrefixOf cs = true
  · rw [if_pos hdots] at h
    cases h
    exact (by decide : "..." ∈ operators)
  rw [if_neg hdots] at h
  by_cases hat : c = '@'
  · rw [if_pos hat] at h
    cases h
    trivial
  rw [if_neg hat] at h
  by_cases hpoint : c = '.' ∧ cs.head?.any Text.isDigit = true
  · rw [if_pos hpoint] at h
    exact numeralStep_wellFormed (.inl hpoint.1) h hr
  rw [if_neg hpoint] at h
  by_cases hseparator : c ∈ separators
  · rw [if_pos hseparator] at h
    cases h
    exact hseparator
  rw [if_neg hseparator] at h
  by_cases hquote : c = '\'' ∨ c = '"'
  · rw [if_pos hquote] at h
    exact literalStep_wellFormed hquote h hr
  rw [if_neg hquote] at h
  by_cases hdigit : Numeral.isDecimal c = true
  · rw [if_pos hdigit] at h
    exact numeralStep_wellFormed (.inr hdigit) h hr
  rw [if_neg hdigit] at h
  by_cases hstart : Text.isIdentifierStart c = true
  · rw [if_pos hstart] at h
    cases h
    refine ofWord_wellFormed
      ⟨c, cs.takeWhile Text.isIdentifierPart, String.toList_ofList, hstart, ?_⟩
    exact fun d hd ↦ .inl (List.mem_takeWhile_imp hd)
  · rw [if_neg hstart] at h
    exact operatorStep_wellFormed h

theorem scan_wellFormed {marked : List Char} {line : Nat} {placed : List Placed}
    (h : scan surrogates marked line cs = .ok placed) : ∀ p ∈ placed, p.lexeme.WellFormed := by
  fun_induction scan surrogates marked line cs generalizing placed with
  | case1 =>
    simp only [Except.ok.injEq] at h
    subst h
    simp
  | case2 marked line c rest feeds after hs _ ih => exact ih h
  | case3 marked line c rest l after hs _ ih =>
    obtain ⟨more, hscan, rfl⟩ := map_eq_ok_iff.mp h
    intro p hp
    rcases List.mem_cons.mp hp with rfl | hp
    · exact step_wellFormed hs
    · exact ih hscan p hp
  | case4 => simp at h

end Lexemes

section Words

theorem IsWordText.append {a b : String} (ha : IsWordText a) (hb : IsWordText b) :
    IsWordText (a ++ "." ++ b) := by
  obtain ⟨c, rest, hac, hc, hrest⟩ := ha
  obtain ⟨d, more, hbd, hd, hmore⟩ := hb
  refine ⟨c, rest ++ '.' :: d :: more, by simp [String.toList_append, hac, hbd], hc, ?_⟩
  intro e he
  rcases List.mem_append.mp he with he | he
  · exact hrest e he
  rcases List.mem_cons.mp he with rfl | he
  · exact .inr rfl
  rcases List.mem_cons.mp he with rfl | he
  · exact .inl (Text.isIdentifierPart_of_isIdentifierStart hd)
  · exact hmore e he

theorem isWordText_of_all {text : String} (hne : text.toList ≠ [])
    (h : text.toList.all Text.isIdentifierStart = true) : IsWordText text := by
  cases ht : text.toList with
  | nil => exact absurd ht hne
  | cons c rest =>
    simp only [ht, List.all_cons, Bool.and_eq_true, List.all_eq_true] at h
    exact ⟨c, rest, ht, h.1,
      fun d hd ↦ .inl (Text.isIdentifierPart_of_isIdentifierStart (h.2 d hd))⟩

theorem isWordText_of_mem_reservedWords {word : String} (h : word ∈ Identifier.reservedWords) :
    IsWordText word := by
  have hall : ∀ w ∈ Identifier.reservedWords,
      w.toList ≠ [] ∧ w.toList.all Text.isIdentifierStart = true := by decide
  exact isWordText_of_all (hall word h).1 (hall word h).2

theorem qualifiedName_isWordText {name : String} {placed : List Placed} (hn : IsWordText name)
    (h : ∀ p ∈ placed, p.lexeme.WellFormed) : IsWordText (qualifiedName name placed).1 := by
  fun_induction qualifiedName name placed with
  | case1 name dot part rest next hpart hdot ih =>
    have hp := h part (by simp)
    rw [hpart] at hp
    exact ih (hn.append hp) fun p hp ↦ h p (by simp [hp])
  | case2 => exact hn
  | case3 => exact hn

theorem mem_of_mem_qualifiedName {name : String} {placed : List Placed} {p : Placed}
    (h : p ∈ (qualifiedName name placed).2) : p ∈ placed := by
  fun_induction qualifiedName name placed with
  | case1 name dot part rest next hpart hdot ih =>
    exact List.mem_cons_of_mem _ (List.mem_cons_of_mem _ (ih h))
  | case2 => exact h
  | case3 => exact h

end Words

theorem ofLexeme_wellFormed {l : Lexeme} (h : l.WellFormed) (line : Nat) :
    ∀ t ∈ Token.ofLexeme line l, t.WellFormed := by
  intro t ht
  cases l with
  | reserved word =>
    obtain rfl := List.mem_singleton.mp ht
    exact isWordText_of_mem_reservedWords h
  | operator mark =>
    simp only [Token.ofLexeme] at ht
    split at ht
    · obtain ⟨-, rfl⟩ := List.mem_replicate.mp ht
      exact .inr (.inl (by simp [operators]))
    · obtain rfl := List.mem_singleton.mp ht
      exact .inr (.inl h)
  | separator mark =>
    obtain rfl := List.mem_singleton.mp ht
    exact .inr (.inr ⟨mark, h, rfl⟩)
  | atSign =>
    obtain rfl := List.mem_singleton.mp ht
    exact .inl rfl
  | identifier | string | character | number =>
    obtain rfl := List.mem_singleton.mp ht
    exact h

theorem ofLexemes_wellFormed {placed : List Placed} (h : ∀ p ∈ placed, p.lexeme.WellFormed) :
    ∀ t ∈ Token.ofLexemes placed, t.WellFormed := by
  fun_induction Token.ofLexemes placed with
  | case1 => simp
  | case2 line name line' rest _ ih =>
    intro t ht
    rcases List.mem_cons.mp ht with rfl | ht
    · trivial
    · exact ih (fun p hp ↦ h p (by simp [mem_of_mem_qualifiedName hp])) t ht
  | case3 line other rest _ ih =>
    intro t ht
    rcases List.mem_cons.mp ht with rfl | ht
    · trivial
    · exact ih (fun p hp ↦ h p (by simp [hp])) t ht
  | case4 name line rest _ ih =>
    intro t ht
    rcases List.mem_cons.mp ht with rfl | ht
    · have hn : IsWordText name := h ⟨.identifier name, line⟩ (by simp)
      exact qualifiedName_isWordText hn fun p hp ↦ h p (by simp [hp])
    · exact ih (fun p hp ↦ h p (by simp [mem_of_mem_qualifiedName hp])) t ht
  | case5 l line rest _ _ _ ih =>
    intro t ht
    rcases List.mem_append.mp ht with ht | ht
    · exact ofLexeme_wellFormed (h ⟨l, line⟩ (by simp)) line t ht
    · exact ih (fun p hp ↦ h p (by simp [hp])) t ht

theorem scan_of_lexemes {source : List Char} {placed : List Placed}
    (h : lexemes source = .ok placed) : ∃ surrogates cs, scan surrogates cs 1 cs = .ok placed := by
  unfold lexemes at h
  split at h
  · simp at h
  · next points _ =>
    cases hs : scan points.surrogates points.chars 1
        points.chars with
    | error e => simp [hs, Except.mapError] at h
    | ok found =>
      simp only [hs, Except.mapError, Except.ok.injEq] at h
      exact ⟨_, _, h ▸ hs⟩

theorem exists_scan {source : String} {ts : List Token} (h : tokens source = .ok ts) :
    ∃ surrogates cs placed, scan surrogates cs 1 cs = .ok placed ∧ ts = Token.ofLexemes placed := by
  obtain ⟨placed, hp, rfl⟩ := map_eq_ok_iff.mp h
  obtain ⟨surrogates, cs, hscan⟩ := scan_of_lexemes hp
  exact ⟨surrogates, cs, placed, hscan, rfl⟩

theorem tokens_wellFormed {source : String} {ts : List Token} (h : tokens source = .ok ts) :
    ∀ t ∈ ts, t.WellFormed := by
  obtain ⟨surrogates, cs, placed, hs, rfl⟩ := exists_scan h
  exact ofLexemes_wellFormed (scan_wellFormed hs)

def Token.IsLexed (t : Token) : Prop := ∃ source ts, tokens source = .ok ts ∧ t ∈ ts

theorem Token.IsLexed.wellFormed {t : Token} (h : t.IsLexed) : t.WellFormed := by
  obtain ⟨source, ts, hts, ht⟩ := h
  exact tokens_wellFormed hts t ht

section Blanks

def blankPoints : List Nat :=
  [0x9, 0xA, 0xB, 0xC, 0xD, 0x1C, 0x1D, 0x1E, 0x1F, 0x20, 0x85, 0xA0, 0x1680, 0x2000, 0x2001,
    0x2002, 0x2003, 0x2004, 0x2005, 0x2006, 0x2007, 0x2008, 0x2009, 0x200A, 0x2028, 0x2029,
    0x202F, 0x205F, 0x3000]

theorem mem_blankPoints {n : Nat} (h : Text.isBlankPoint n = true) : n ∈ blankPoints := by
  have hranges : blankPoints = List.range' 0x9 5 ++ List.range' 0x1C 5 ++ [0x85, 0xA0, 0x1680] ++
      List.range' 0x2000 11 ++ [0x2028, 0x2029, 0x202F, 0x205F, 0x3000] := rfl
  simp only [Text.isBlankPoint, Bool.or_eq_true, Bool.and_eq_true, decide_eq_true_eq,
    beq_iff_eq] at h
  simp only [hranges, List.mem_append, List.mem_range'_1, List.mem_cons, List.not_mem_nil, or_false]
  omega

theorem isIdentifierPart_of_isBlank {c : Char} (h : Text.isBlank c = true) :
    Text.isIdentifierPart c = false := by
  have hall : ∀ n ∈ blankPoints, (Text.letters.contains n || Text.letterNumbers.contains n ||
      Text.connectors.contains n || Text.currencySigns.contains n || Text.marks.contains n ||
      Text.decimalDigits.contains n) = false := by decide +kernel
  exact hall c.toNat (mem_blankPoints h)

theorem IsWordText.isBlank_eq_false {text : String} (h : IsWordText text) :
    ∀ c ∈ text.toList, Text.isBlank c = false := by
  obtain ⟨c, rest, ht, hc, hrest⟩ := h
  have hpart : ∀ d, Text.isIdentifierPart d = true → Text.isBlank d = false := by
    intro d hd
    by_contra hb
    rw [isIdentifierPart_of_isBlank (by simpa using hb)] at hd
    exact absurd hd Bool.false_ne_true
  intro d hd
  rw [ht] at hd
  rcases List.mem_cons.mp hd with rfl | hd
  · exact hpart d (Text.isIdentifierPart_of_isIdentifierStart hc)
  rcases hrest d hd with hd | rfl
  · exact hpart d hd
  · decide

theorem IsWordText.ne_empty {text : String} (h : IsWordText text) : text ≠ "" := by
  intro hx
  subst hx
  obtain ⟨c, rest, ht, -⟩ := h
  simp at ht

end Blanks

theorem Token.WellFormed.isWordText {t : Token} (h : t.WellFormed) (hw : t.isWord = true) :
    IsWordText t.text := by
  simpa only [Token.WellFormed, isWord_iff.mp hw] using h

theorem Token.WellFormed.kind_eq_symbol {t : Token} (h : t.WellFormed) (hw : t.isWord = false)
    (ha : t.kind ≠ .atName) (ht : t.text ∈ typeArgumentSymbols) : t.kind = .symbol := by
  have hall : ∀ mark ∈ typeArgumentSymbols, mark.toList.head?.all (fun c ↦
      c != '\'' && c != '"' && c != '.' && !Numeral.isDecimal c) = true := by decide
  have hc := hall t.text ht
  unfold Token.WellFormed at h
  cases hk : t.kind with
  | word => simp [Token.isWord, hk] at hw
  | atName => exact absurd hk ha
  | string =>
    simp only [hk] at h
    obtain ⟨c, hhead, rfl | rfl⟩ := h <;> simp [hhead] at hc
  | character => simp [hk] at h
  | number =>
    simp only [hk] at h
    obtain ⟨c, hhead, rfl | hd⟩ := h
    · simp [hhead] at hc
    · simp [hhead, hd] at hc
  | symbol => rfl

end Boilerplate.Source
