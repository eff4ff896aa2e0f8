import Boilerplate.Proofs.Source.FieldDeclaration
import Boilerplate.Proofs.Source.TypeForm

namespace Boilerplate.Source

section Runs

variable {line depth : Nat} {text : String} {c : Char} {part : Part} {ts : List Token}

theorem isWord_wordToken (line : Nat) (text : String) : (wordToken line text).isWord = true := rfl

theorem isSymbol_signToken (line : Nat) (c : Char) :
    (signToken line c).isSymbol (String.singleton c) = true := by
  simp [signToken, Token.isSymbol]

theorem isSymbol_signToken_of_ne {d : Char} (hcd : c ≠ d) :
    (signToken line c).isSymbol (String.singleton d) = false := by
  refine Token.isSymbol_eq_false (isSymbol_signToken line c) fun he ↦ hcd ?_
  simpa using congrArg String.toList he

theorem isArgumentToken_signToken (hc : c ∈ ['<', '>', ',', '?', '[', ']']) :
    IsArgumentToken (signToken line c) := by
  have hall : ∀ c ∈ ['<', '>', ',', '?', '[', ']'],
      String.singleton c ∈ typeArgumentSymbols := List.all_iff_forall_prop.mp (by decide)
  exact .inr ⟨_, hall c hc, isSymbol_signToken line c⟩

theorem dimensionRun_dimensionTokens (line count : Nat) :
    DimensionRun (dimensionTokens line count) := by
  induction count with
  | zero => exact .nil
  | succ count ih => exact .pair (isSymbol_signToken line '[') (isSymbol_signToken line ']') ih

theorem TypeForm.isArgumentToken (t : TypeForm part) :
    ∀ u ∈ t.tokens line, IsArgumentToken u := by
  have hword (text : String) : IsArgumentToken (wordToken line text) := .inl rfl
  have hdims (count : Nat) : ∀ u ∈ dimensionTokens line count, IsArgumentToken u := by
    induction count with
    | zero => simp [dimensionTokens]
    | succ count ih =>
      refine List.forall_mem_cons.mpr ⟨isArgumentToken_signToken (by decide), ?_⟩
      exact List.forall_mem_cons.mpr ⟨isArgumentToken_signToken (by decide), ih⟩
  induction t with
  | plain head dimensions => exact List.forall_mem_cons.mpr ⟨hword _, hdims dimensions⟩
  | generic head arguments dimensions ih =>
    refine List.forall_mem_cons.mpr ⟨hword _, List.forall_mem_cons.mpr ⟨?_, ?_⟩⟩
    · exact isArgumentToken_signToken (by decide)
    · refine List.forall_mem_append.mpr ⟨ih, List.forall_mem_cons.mpr ⟨?_, hdims dimensions⟩⟩
      exact isArgumentToken_signToken (by decide)
  | exactly type ih | last argument ih => exact ih
  | any => exact List.forall_mem_singleton.mpr (isArgumentToken_signToken (by decide))
  | upper bound ih | lower bound ih =>
    refine List.forall_mem_cons.mpr ⟨isArgumentToken_signToken (by decide), ?_⟩
    exact List.forall_mem_cons.mpr ⟨hword _, ih⟩
  | next argument rest ih ih' =>
    refine List.forall_mem_append.mpr ⟨ih, List.forall_mem_cons.mpr ⟨?_, ih'⟩⟩
    exact isArgumentToken_signToken (by decide)

theorem closes_wordToken : Closes "<" ">" (depth + 1) (wordToken line text :: ts) ↔
    Closes "<" ">" (depth + 1) ts :=
  closes_cons_other (Token.isSymbol_eq_false_of_isWord "<" rfl)
    (Token.isSymbol_eq_false_of_isWord ">" rfl)

theorem closes_signToken (ho : c ≠ '<') (hc : c ≠ '>') :
    Closes "<" ">" (depth + 1) (signToken line c :: ts) ↔ Closes "<" ">" (depth + 1) ts :=
  closes_cons_other (isSymbol_signToken_of_ne ho) (isSymbol_signToken_of_ne hc)

theorem closes_opening : Closes "<" ">" (depth + 1) (signToken line '<' :: ts) ↔
    Closes "<" ">" (depth + 2) ts :=
  closes_cons_opening (by decide) (isSymbol_signToken line '<')

theorem closes_closing : Closes "<" ">" (depth + 1) (signToken line '>' :: ts) ↔
    Closes "<" ">" depth ts :=
  closes_cons_closing (by decide) (isSymbol_signToken line '>')

theorem closes_dimensionTokens (count : Nat) :
    Closes "<" ">" (depth + 1) (dimensionTokens line count ++ ts) ↔
      Closes "<" ">" (depth + 1) ts := by
  induction count with
  | zero => rfl
  | succ count ih =>
    rw [dimensionTokens, List.cons_append, List.cons_append,
      closes_signToken (by decide) (by decide), closes_signToken (by decide) (by decide), ih]

theorem TypeForm.closes (t : TypeForm part) : Closes "<" ">" (depth + 1) (t.tokens line ++ ts) ↔
    Closes "<" ">" (depth + 1) ts := by
  induction t generalizing depth ts with
  | plain head dimensions =>
    rw [tokens, List.cons_append, closes_wordToken, closes_dimensionTokens]
  | generic head arguments dimensions ih =>
    rw [tokens, List.cons_append, List.cons_append, List.append_assoc, List.cons_append,
      closes_wordToken, closes_opening, ih, closes_closing, closes_dimensionTokens]
  | exactly type ih | last argument ih => exact ih
  | any => exact closes_signToken (by decide) (by decide)
  | upper bound ih | lower bound ih =>
    rw [tokens, List.cons_append, List.cons_append, closes_signToken (by decide) (by decide),
      closes_wordToken, ih]
  | next argument rest ih ih' =>
    rw [tokens, List.append_assoc, List.cons_append, ih,
      closes_signToken (by decide) (by decide), ih']

theorem isTypeStart_wordToken (line : Nat) (head : TypeHead) :
    IsTypeStart (wordToken line head.text) :=
  ⟨rfl, head.not_mem⟩

theorem TypeForm.isTypeRun (t : TypeForm .type) (line : Nat) : IsTypeRun (t.tokens line) := by
  cases t with
  | plain head dimensions =>
    exact ⟨_, [], _, rfl, isTypeStart_wordToken line head, .inl rfl,
      dimensionRun_dimensionTokens line dimensions⟩
  | generic head arguments dimensions =>
    have hopen := isSymbol_signToken line '<'
    have hclosed : Closes "<" ">" 1 (arguments.tokens line ++ [signToken line '>']) :=
      arguments.closes.mpr (closes_closing.mpr (closes_nil.mpr rfl))
    refine ⟨_, signToken line '<' :: (arguments.tokens line ++ [signToken line '>']), _, ?_,
      isTypeStart_wordToken line head, .inr ⟨?_, ?_⟩,
      dimensionRun_dimensionTokens line dimensions⟩
    · simp only [tokens, List.cons_append, List.append_assoc, List.nil_append]
    · exact (isGroup_cons_iff (by decide) hopen).mpr hclosed
    · refine List.forall_mem_cons.mpr ⟨isArgumentToken_signToken (by decide), ?_⟩
      refine List.forall_mem_append.mpr ⟨arguments.isArgumentToken, ?_⟩
      exact List.forall_mem_singleton.mpr (isArgumentToken_signToken (by decide))

end Runs

section Rendering

variable {line : Nat} {part : Part} {before : Token} {rest : List Token}

def spaceAfter (before : Token) : String :=
  if before.text = "," ∨ before.isWordlike then " " else ""

def EndsTightly (t : Token) : Prop := t.text ≠ "," ∧ t.text ≠ "&"

theorem singleton_ne {c d : Char} (h : c ≠ d) : String.singleton c ≠ String.singleton d :=
  fun he ↦ h (by simpa using congrArg String.toList he)

theorem endsTightly_signToken {c : Char} (hc : c ≠ ',') (hc' : c ≠ '&') :
    EndsTightly (signToken line c) :=
  ⟨singleton_ne hc, singleton_ne hc'⟩

theorem endsTightly_wordToken (line : Nat) {text : String} (h : IsWordText text) :
    EndsTightly (wordToken line text) := by
  obtain ⟨c, others, ht, hc, -⟩ := h
  have hne {d : Char} (hd : Text.isIdentifierStart d = false) : text ≠ String.singleton d := by
    intro hx
    subst hx
    obtain ⟨rfl, -⟩ : d = c ∧ [] = others := by simpa using ht
    simp [hd] at hc
  have hall : ∀ d ∈ [',', '&'], Text.isIdentifierStart d = false :=
    List.all_iff_forall_prop.mp (by decide +kernel)
  exact ⟨hne (hall ',' (by decide)), hne (hall '&' (by decide))⟩

theorem IsAsciiWord.isWordText {text : String} (h : IsAsciiWord text) : IsWordText text := by
  obtain ⟨c, others, ht, hc, ho⟩ := h
  exact ⟨c, others, ht, (isNameStart_spec hc).1,
    fun d hd ↦ .inl (isIdentifierPart_of_isNamePart (ho d hd))⟩

theorem TypeHead.isWordText (head : TypeHead) : IsWordText head.text := by
  cases head with
  | primitive word mem =>
    exact isWordText_of_mem_reservedWords (mem_reservedWords_of_mem_primitiveWords mem)
  | name first parts =>
    have hjoin (start : String) (hs : IsWordText start) :
        IsWordText (parts.foldl (fun text part ↦ text ++ "." ++ part.text) start) := by
      induction parts generalizing start with
      | nil => exact hs
      | cons part parts ih => exact ih _ (hs.append part.isAsciiWord.isWordText)
    exact hjoin _ first.isAsciiWord.isWordText

theorem typeTextAfter_symbol {t : Token} {mark : String} (hb : EndsTightly before)
    (ht : t.isSymbol mark = true) (hm : mark ≠ "?" ∧ mark ≠ "&") :
    typeTextAfter before (t :: rest) = mark ++ typeTextAfter t rest := by
  obtain ⟨hk, rfl⟩ := Token.isSymbol_iff.mp ht
  have hspace : needsSpace before t = false := by
    simp [needsSpace, hb.1, hb.2, Token.isWordlike, Token.isWord, hk, hm.1, hm.2]
  rw [typeTextAfter, hspace]
  simp

theorem typeTextAfter_signToken {c : Char} (hb : EndsTightly before) (hc : c ≠ '?')
    (hc' : c ≠ '&') : typeTextAfter before (signToken line c :: rest) =
      String.singleton c ++ typeTextAfter (signToken line c) rest :=
  typeTextAfter_symbol hb (isSymbol_signToken line c) ⟨singleton_ne hc, singleton_ne hc'⟩

theorem typeTextAfter_wordlike {t : Token} (hb : before.text ≠ "&") (hw : t.isWordlike = true)
    (ht : t.text ≠ "&") : typeTextAfter before (t :: rest) =
      spaceAfter before ++ t.text ++ typeTextAfter t rest := by
  have hspace : needsSpace before t = true ↔ before.text = "," ∨ before.isWordlike = true := by
    simp [needsSpace, hb, hw, ht]
  simp only [typeTextAfter, spaceAfter, hspace]

theorem typeTextAfter_dimensionTokens (line count : Nat) (hb : EndsTightly before) :
    ∃ last, EndsTightly last ∧ ∀ rest, typeTextAfter before (dimensionTokens line count ++ rest) =
      dimensionText count ++ typeTextAfter last rest := by
  induction count generalizing before with
  | zero => exact ⟨before, hb, fun rest ↦ by simp [dimensionTokens, dimensionText]⟩
  | succ count ih =>
    have htight {c : Char} (hc : c = '[' ∨ c = ']') : EndsTightly (signToken line c) := by
      rcases hc with rfl | rfl <;> exact endsTightly_signToken (by decide) (by decide)
    obtain ⟨last, hlast, h⟩ := ih (htight (.inr rfl))
    refine ⟨last, hlast, fun rest ↦ ?_⟩
    rw [dimensionTokens, List.cons_append, List.cons_append,
      typeTextAfter_signToken hb (by decide) (by decide),
      typeTextAfter_signToken (htight (.inl rfl)) (by decide) (by decide), h,
      ← String.append_assoc, ← String.append_assoc]
    rfl

theorem typeTextAfter_wordToken {text : String} (hb : before.text ≠ "&") (h : IsWordText text) :
    typeTextAfter before (wordToken line text :: rest) =
      spaceAfter before ++ text ++ typeTextAfter (wordToken line text) rest :=
  typeTextAfter_wordlike hb rfl (endsTightly_wordToken line h).2

theorem text_signToken_ne (line : Nat) {c : Char} (hc : c ≠ '&') : (signToken line c).text ≠ "&" :=
  singleton_ne hc

theorem typeTextAfter_wildcard (hb : before.text ≠ "&") :
    typeTextAfter before (signToken line '?' :: rest) =
      spaceAfter before ++ "?" ++ typeTextAfter (signToken line '?') rest := by
  refine typeTextAfter_wordlike hb ?_ (text_signToken_ne line (by decide))
  simp [Token.isWordlike, signToken]

theorem spaceAfter_wordToken (line : Nat) (text : String) :
    spaceAfter (wordToken line text) = " " := by
  simp [spaceAfter, Token.isWordlike, isWord_wordToken]

theorem typeTextAfter_bounded {word : String} (hb : before.text ≠ "&")
    (hw : word ∈ Identifier.reservedWords) :
    typeTextAfter before (signToken line '?' :: wordToken line word :: rest) =
      spaceAfter before ++ ("? " ++ word) ++ typeTextAfter (wordToken line word) rest := by
  have hspace : spaceAfter (signToken line '?') = " " := by
    simp [spaceAfter, Token.isWordlike, signToken]
  rw [typeTextAfter_wildcard hb, typeTextAfter_wordToken (text_signToken_ne line (by decide))
    (isWordText_of_mem_reservedWords hw), hspace]
  simp only [String.append_assoc]
  rfl

/-- The rendered tokens of a type are its canonical text. What stands before the type decides on
a space, and its last token leaves none. -/
theorem TypeForm.typeTextAfter_tokens (t : TypeForm part) (line : Nat) (hb : before.text ≠ "&") :
    ∃ last, EndsTightly last ∧ ∀ rest, typeTextAfter before (t.tokens line ++ rest) =
      spaceAfter before ++ t.text ++ typeTextAfter last rest := by
  induction t generalizing before with
  | plain head dimensions =>
    have hhead : EndsTightly (wordToken line head.text) :=
      endsTightly_wordToken line head.isWordText
    obtain ⟨last, hlast, h⟩ := typeTextAfter_dimensionTokens line dimensions hhead
    refine ⟨last, hlast, fun rest ↦ ?_⟩
    rw [tokens, List.cons_append, typeTextAfter_wordToken hb head.isWordText, h, text]
    simp only [String.append_assoc]
  | generic head arguments dimensions ih =>
    have hhead : EndsTightly (wordToken line head.text) :=
      endsTightly_wordToken line head.isWordText
    have hopen : spaceAfter (signToken line '<') = "" := rfl
    have hclose : EndsTightly (signToken line '>') :=
      endsTightly_signToken (by decide) (by decide)
    obtain ⟨middle, hmiddle, hm⟩ := ih (text_signToken_ne line (c := '<') (by decide))
    obtain ⟨last, hlast, h⟩ := typeTextAfter_dimensionTokens line dimensions hclose
    refine ⟨last, hlast, fun rest ↦ ?_⟩
    rw [tokens, List.cons_append, List.cons_append, List.append_assoc, List.cons_append,
      typeTextAfter_wordToken hb head.isWordText,
      typeTextAfter_signToken hhead (by decide) (by decide), hm, hopen,
      typeTextAfter_signToken hmiddle (by decide) (by decide), h, text]
    simp only [String.append_assoc, String.empty_append]
    rfl
  | exactly type ih | last argument ih => exact ih hb
  | any =>
    refine ⟨signToken line '?', endsTightly_signToken (by decide) (by decide), fun rest ↦ ?_⟩
    rw [tokens, List.cons_append, List.nil_append, typeTextAfter_wildcard hb, text]
  | upper bound ih =>
    have hw : "extends" ∈ Identifier.reservedWords := by decide
    have hword := endsTightly_wordToken line (isWordText_of_mem_reservedWords hw)
    obtain ⟨last, hlast, h⟩ := ih hword.2
    refine ⟨last, hlast, fun rest ↦ ?_⟩
    rw [tokens, List.cons_append, List.cons_append, typeTextAfter_bounded hb hw, h,
      spaceAfter_wordToken, text]
    simp only [String.append_assoc]
    rfl
  | lower bound ih =>
    have hw : "super" ∈ Identifier.reservedWords := by decide
    have hword := endsTightly_wordToken line (isWordText_of_mem_reservedWords hw)
    obtain ⟨last, hlast, h⟩ := ih hword.2
    refine ⟨last, hlast, fun rest ↦ ?_⟩
    rw [tokens, List.cons_append, List.cons_append, typeTextAfter_bounded hb hw, h,
      spaceAfter_wordToken, text]
    simp only [String.append_assoc]
    rfl
  | next argument rest ih ih' =>
    obtain ⟨middle, hmiddle, hm⟩ := ih hb
    obtain ⟨last, hlast, h⟩ := ih' (text_signToken_ne line (c := ',') (by decide))
    have hcomma : spaceAfter (signToken line ',') = " " := rfl
    refine ⟨last, hlast, fun rest ↦ ?_⟩
    rw [tokens, List.append_assoc, List.cons_append, hm,
      typeTextAfter_signToken hmiddle (by decide) (by decide), h, hcomma, text]
    simp only [String.append_assoc]
    rfl

theorem TypeForm.typeText_tokens (t : TypeForm .type) (line : Nat) :
    typeText (t.tokens line) = t.text := by
  have hstart : ∃ (head : TypeHead) (more : List Token),
      t.tokens line = wordToken line head.text :: more := by
    cases t <;> exact ⟨_, _, rfl⟩
  have hopen : (signToken line '<').text ≠ "&" := text_signToken_ne line (by decide)
  have hspace : spaceAfter (signToken line '<') = "" := rfl
  obtain ⟨head, more, hts⟩ := hstart
  obtain ⟨last, -, h⟩ := t.typeTextAfter_tokens line hopen
  have hrest := h []
  rw [List.append_nil, hts, typeTextAfter_wordToken hopen head.isWordText, hspace] at hrest
  simpa [hts, typeText, wordToken, typeTextAfter] using hrest

end Rendering

end Boilerplate.Source
