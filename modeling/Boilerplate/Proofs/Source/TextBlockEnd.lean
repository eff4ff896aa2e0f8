import Boilerplate.Proofs.Source.MaskedText
import Boilerplate.Proofs.Source.TokenForm

namespace Boilerplate.Source

/-- What a text block can hold, read from its start: a backslash escapes the character behind it,
and nowhere do three quotes follow each other unescaped, the closing ones counted in. -/
inductive IsBlockContent : List Char → Prop
  | nil : IsBlockContent []
  | escape (c : Char) {rest : List Char} : IsBlockContent rest → IsBlockContent ('\\' :: c :: rest)
  | char {c : Char} {rest : List Char} :
      c ≠ '\\' → ¬tripleQuote <+: c :: (rest ++ tripleQuote) → IsBlockContent rest →
      IsBlockContent (c :: rest)

/-- The first place in a text where three quotes stand behind another character than a backslash;
`previous` is the character before the text. -/
structure QuotesAt (previous : Char) (text inside after : List Char) : Prop where
  text_eq : text = inside ++ (tripleQuote ++ after)
  last_ne : (previous :: inside).getLast? ≠ some '\\'
  first : ∀ inside' after', text = inside' ++ (tripleQuote ++ after') →
    (previous :: inside').getLast? ≠ some '\\' → inside.length ≤ inside'.length

section Closing

variable {previous c : Char} {text inside after content rest : List Char} {feeds : Nat}

theorem quotesAt_nil (h : previous ≠ '\\') : QuotesAt previous (tripleQuote ++ after) [] after :=
  ⟨rfl, by simpa using h, fun _ _ _ _ ↦ Nat.zero_le _⟩

theorem quotesAt_cons_iff (h : ¬(previous ≠ '\\' ∧ tripleQuote <+: c :: text)) :
    QuotesAt previous (c :: text) inside after ↔
      ∃ inside', inside = c :: inside' ∧ QuotesAt c text inside' after := by
  have hstart {inside after : List Char} (he : c :: text = inside ++ (tripleQuote ++ after))
      (hl : (previous :: inside).getLast? ≠ some '\\') :
      ∃ inside', inside = c :: inside' ∧ text = inside' ++ (tripleQuote ++ after) := by
    cases inside with
    | nil => exact absurd ⟨by simpa using hl, after, he.symm⟩ h
    | cons d inside =>
      obtain ⟨rfl, ht⟩ := List.cons.inj he
      exact ⟨inside, rfl, ht⟩
  constructor
  · intro hq
    obtain ⟨inside, rfl, ht⟩ := hstart hq.text_eq hq.last_ne
    refine ⟨inside, rfl, ht, by simpa using hq.last_ne, fun inside' after' he hl ↦ ?_⟩
    have hle := hq.first (c :: inside') after' (by rw [he, List.cons_append]) (by simpa using hl)
    simpa using hle
  · intro hx
    obtain ⟨inside, rfl, hq⟩ := hx
    refine ⟨by rw [hq.text_eq, List.cons_append], by simpa using hq.last_ne, ?_⟩
    intro inside' after' he hl
    obtain ⟨inside', rfl, ht⟩ := hstart he hl
    simpa using hq.first inside' after' ht (by simpa using hl)

theorem quotesAt_backslash_iff : QuotesAt '\\' (c :: text) inside after ↔
    ∃ inside', inside = c :: inside' ∧ QuotesAt c text inside' after :=
  quotesAt_cons_iff fun hx ↦ hx.1 rfl

theorem closeBlock?_cons (h : ¬(previous ≠ '\\' ∧ tripleQuote <+: c :: text)) :
    closeBlock? previous (c :: text) = (closeBlock? c text).map fun (feeds, after) ↦
      (if c = '\n' then feeds + 1 else feeds, after) := by
  rw [closeBlock?, if_neg (by rwa [List.isPrefixOf_iff_prefix])]

theorem closeBlock?_tripleQuote (h : previous ≠ '\\') :
    closeBlock? previous (tripleQuote ++ rest) = some (0, rest) := by
  rw [tripleQuote, List.cons_append, closeBlock?, if_pos]
  · rfl
  · exact ⟨h, List.isPrefixOf_iff_prefix.mpr (List.prefix_append tripleQuote rest)⟩

theorem closeBlock?_eq_some_iff : closeBlock? previous text = some (feeds, after) ↔
    ∃ inside, QuotesAt previous text inside after ∧ feeds = inside.count '\n' := by
  induction text generalizing previous feeds with
  | nil =>
    simp only [closeBlock?, reduceCtorEq, false_iff]
    intro hx
    obtain ⟨inside, hq, -⟩ := hx
    simpa [tripleQuote] using hq.text_eq
  | cons c text ih =>
    by_cases h : previous ≠ '\\' ∧ tripleQuote <+: c :: text
    · obtain ⟨hp, rest, hrest⟩ := h
      rw [← hrest, closeBlock?_tripleQuote hp]
      constructor
      · intro he
        obtain ⟨rfl, rfl⟩ := Prod.mk.inj (Option.some.inj he)
        exact ⟨[], quotesAt_nil hp, rfl⟩
      · intro hx
        obtain ⟨inside, hq, rfl⟩ := hx
        have hzero := hq.first [] rest rfl (by simpa using hp)
        obtain rfl := List.length_eq_zero_iff.mp (Nat.le_zero.mp hzero)
        obtain rfl := List.append_cancel_left hq.text_eq
        rfl
    · have hcount (inside : List Char) : (c :: inside).count '\n' =
          if c = '\n' then inside.count '\n' + 1 else inside.count '\n' := by
        rw [List.count_cons]
        by_cases hc : c = '\n' <;> simp [hc]
      rw [closeBlock?_cons h]
      simp only [Option.map_eq_some_iff, Prod.exists, Prod.mk.injEq, quotesAt_cons_iff h]
      constructor
      · intro hx
        obtain ⟨n, r, hclose, rfl, rfl⟩ := hx
        obtain ⟨inside, hq, rfl⟩ := ih.mp hclose
        exact ⟨c :: inside, ⟨inside, rfl, hq⟩, (hcount inside).symm⟩
      · intro hx
        obtain ⟨-, ⟨inside, rfl, hq⟩, rfl⟩ := hx
        exact ⟨_, after, ih.mpr ⟨inside, hq, rfl⟩, (hcount inside).symm, rfl⟩

theorem closeBlock?_eq_none (h : ∀ inside after, ¬QuotesAt previous text inside after) :
    closeBlock? previous text = none := by
  cases hclose : closeBlock? previous text with
  | none => rfl
  | some closed =>
    obtain ⟨inside, hq, -⟩ := closeBlock?_eq_some_iff.mp hclose
    exact absurd hq (h inside closed.2)

/-- What a block holds is passed over, up to the quotes behind it. -/
theorem IsBlockContent.quotesAt_iff (h : IsBlockContent content) :
    QuotesAt previous (content ++ (tripleQuote ++ rest)) inside after ↔
      ∃ inside', inside = content ++ inside' ∧
        QuotesAt (content.getLastD previous) (tripleQuote ++ rest) inside' after := by
  induction h generalizing previous inside with
  | nil => simp
  | @escape c content _ ih =>
    have hbackslash : ¬(previous ≠ '\\' ∧
        tripleQuote <+: '\\' :: c :: (content ++ (tripleQuote ++ rest))) :=
      fun hx ↦ by simpa [tripleQuote] using hx.2
    rw [List.cons_append, List.cons_append, quotesAt_cons_iff hbackslash]
    simp only [quotesAt_backslash_iff, ih]
    constructor
    · intro hx
      obtain ⟨-, rfl, -, rfl, inside, rfl, hq⟩ := hx
      exact ⟨inside, rfl, by simpa only [List.getLastD_cons] using hq⟩
    · intro hx
      obtain ⟨inside, rfl, hq⟩ := hx
      exact ⟨_, rfl, _, rfl, inside, rfl, by simpa only [List.getLastD_cons] using hq⟩
  | @char c content _ hno _ ih =>
    have hpass : ¬(previous ≠ '\\' ∧ tripleQuote <+: c :: (content ++ (tripleQuote ++ rest))) := by
      intro hx
      have hprefix : c :: (content ++ tripleQuote) <+: c :: (content ++ (tripleQuote ++ rest)) :=
        ⟨rest, by simp⟩
      exact hno (List.prefix_of_prefix_length_le hx.2 hprefix (by simp [tripleQuote]))
    rw [List.cons_append, quotesAt_cons_iff hpass]
    simp only [ih]
    constructor
    · intro hx
      obtain ⟨-, rfl, inside, rfl, hq⟩ := hx
      exact ⟨inside, rfl, by simpa only [List.getLastD_cons] using hq⟩
    · intro hx
      obtain ⟨inside, rfl, hq⟩ := hx
      exact ⟨_, rfl, inside, rfl, by simpa only [List.getLastD_cons] using hq⟩

end Closing

section Masking

variable {before blanks content text rest : List Char}

theorem textBlock?_tripleQuote (h : ∀ c ∈ blanks, c = ' ' ∨ c = '\t' ∨ c = '\x0c')
    (text : List Char) : textBlock? (tripleQuote ++ (blanks ++ '\n' :: text)) =
      (closeBlock? '\n' text).map fun (feeds, after) ↦ (feeds + 1, after) := by
  have hblanks : (blanks ++ '\n' :: text).dropWhile
      (fun c ↦ c == ' ' || c == '\t' || c == '\x0c') = '\n' :: text := by
    rw [List.dropWhile_append_of_pos (by simpa [or_assoc] using h)]
    rfl
  have hdrop : (tripleQuote ++ (blanks ++ '\n' :: text)).drop 3 = blanks ++ '\n' :: text := rfl
  have hopens : afterBlockOpening? (tripleQuote ++ (blanks ++ '\n' :: text)) = some text := by
    rw [afterBlockOpening?, if_pos (List.isPrefixOf_iff_prefix.mpr (List.prefix_append _ _)),
      hdrop, hblanks]
    rfl
  rw [textBlock?, hopens]
  rfl

theorem maskTextBlocks_unclosed (h : ∀ c ∈ blanks, c = ' ' ∨ c = '\t' ∨ c = '\x0c')
    (hclose : closeBlock? '\n' text = none) :
    maskTextBlocks (tripleQuote ++ (blanks ++ '\n' :: text)) =
      tripleQuote ++ (blanks ++ '\n' :: maskTextBlocks text) := by
  have hnone : textBlock? (tripleQuote ++ (blanks ++ '\n' :: text)) = none := by
    rw [textBlock?_tripleQuote h, hclose]
    rfl
  have hfew (quotes : List Char) (hq : quotes = ['"', '"'] ∨ quotes = ['"']) :
      textBlock? (quotes ++ (blanks ++ '\n' :: text)) = none := by
    have hhead : ∀ c ∈ (blanks ++ '\n' :: text).head?, c ≠ '"' := by
      cases blanks with
      | nil => simp
      | cons b blanks =>
        rcases h b (.head _) with rfl | rfl | rfl <;> simp
    cases htext : blanks ++ '\n' :: text with
    | nil => simp at htext
    | cons c rest =>
      have hc : ('"' == c) = false := beq_false_of_ne (hhead c (by simp [htext])).symm
      rcases hq with rfl | rfl <;>
        simp [textBlock?, afterBlockOpening?, tripleQuote, List.isPrefixOf, hc]
  have hfeed : '"' ∉ blanks ++ ['\n'] := by
    intro hm
    rcases List.mem_append.mp hm with hm | hm
    · rcases h _ hm with he | he | he <;> cases he
    · cases List.mem_singleton.mp hm
  have hline : maskTextBlocks (blanks ++ '\n' :: text) = blanks ++ '\n' :: maskTextBlocks text := by
    simpa using maskTextBlocks_append hfeed text
  calc maskTextBlocks (tripleQuote ++ (blanks ++ '\n' :: text))
    _ = '"' :: maskTextBlocks (['"', '"'] ++ (blanks ++ '\n' :: text)) :=
      maskTextBlocks_of_none hnone
    _ = '"' :: '"' :: maskTextBlocks (['"'] ++ (blanks ++ '\n' :: text)) :=
      congrArg _ (maskTextBlocks_of_none (hfew _ (.inl rfl)))
    _ = '"' :: '"' :: '"' :: maskTextBlocks (blanks ++ '\n' :: text) :=
      congrArg _ (congrArg _ (maskTextBlocks_of_none (hfew _ (.inr rfl))))
    _ = tripleQuote ++ (blanks ++ '\n' :: maskTextBlocks text) := by
      rw [hline]
      rfl

theorem maskTextBlocks_closed {feeds : Nat} (h : ∀ c ∈ blanks, c = ' ' ∨ c = '\t' ∨ c = '\x0c')
    (hclose : closeBlock? '\n' text = some (feeds, rest)) :
    maskTextBlocks (tripleQuote ++ (blanks ++ '\n' :: text)) =
      '"' :: '"' :: (List.replicate (1 + feeds) '\n' ++ maskTextBlocks rest) := by
  have hblock : textBlock? (tripleQuote ++ (blanks ++ '\n' :: text)) = some (feeds + 1, rest) := by
    rw [textBlock?_tripleQuote h, hclose]
    rfl
  calc maskTextBlocks (tripleQuote ++ (blanks ++ '\n' :: text))
    _ = '"' :: '"' :: List.replicate (feeds + 1) '\n' ++ maskTextBlocks rest :=
      maskTextBlocks_of_some hblock
    _ = '"' :: '"' :: (List.replicate (1 + feeds) '\n' ++ maskTextBlocks rest) := by
      rw [Nat.add_comm]
      rfl

/-- A text block is masked up to its end unless its last character is an escaped backslash. Such a
block goes on to the next quotes that do not stand behind a backslash; without such quotes it is
kept as it is. -/
theorem maskTextBlocks_block (hbefore : '"' ∉ before)
    (hblanks : ∀ c ∈ blanks, c = ' ' ∨ c = '\t' ∨ c = '\x0c')
    (hcontent : IsBlockContent content) :
    let text := before ++
      (tripleQuote ++ (blanks ++ '\n' :: (content ++ (tripleQuote ++ rest))))
    (content.getLast? ≠ some '\\' → maskTextBlocks text = before ++
      '"' :: '"' :: (List.replicate (1 + content.count '\n') '\n' ++ maskTextBlocks rest)) ∧
    (content.getLast? = some '\\' →
      (∀ inside after, QuotesAt '"' ('"' :: '"' :: rest) inside after →
        maskTextBlocks text = before ++ '"' :: '"' ::
          (List.replicate (1 + (content.count '\n' + inside.count '\n')) '\n' ++
            maskTextBlocks after)) ∧
      ((∀ inside after, ¬QuotesAt '"' ('"' :: '"' :: rest) inside after) →
        maskTextBlocks text = before ++ (tripleQuote ++ (blanks ++ '\n' ::
          maskTextBlocks (content ++ (tripleQuote ++ rest)))))) := by
  intro text
  have hlast := @List.getLastD_eq_getLast? _ '\n' content
  rw [maskTextBlocks_append hbefore]
  refine ⟨fun hl ↦ ?_, fun hl ↦ ⟨fun inside after hq ↦ ?_, fun hno ↦ ?_⟩⟩
  · have hne : content.getLastD '\n' ≠ '\\' := by
      rw [hlast]
      cases hc : content.getLast? with
      | none => decide
      | some c => exact fun he ↦ hl (hc.trans (congrArg some he))
    have hquotes : QuotesAt '\n' (content ++ (tripleQuote ++ rest)) (content ++ []) rest :=
      hcontent.quotesAt_iff.mpr ⟨[], rfl, quotesAt_nil hne⟩
    have hclose := closeBlock?_eq_some_iff.mpr ⟨_, hquotes, rfl⟩
    rw [maskTextBlocks_closed hblanks hclose, List.append_nil]
  · have hquotes : QuotesAt '\n' (content ++ (tripleQuote ++ rest)) (content ++ '"' :: inside)
        after := by
      refine hcontent.quotesAt_iff.mpr ⟨_, rfl, ?_⟩
      rw [hlast, hl]
      exact quotesAt_backslash_iff.mpr ⟨inside, rfl, hq⟩
    have hclose := closeBlock?_eq_some_iff.mpr ⟨_, hquotes, rfl⟩
    rw [maskTextBlocks_closed hblanks hclose, List.count_append]
    rfl
  · have hclose : closeBlock? '\n' (content ++ (tripleQuote ++ rest)) = none := by
      refine closeBlock?_eq_none fun inside after hq ↦ ?_
      obtain ⟨quoted, rfl, hquoted⟩ := hcontent.quotesAt_iff.mp hq
      rw [hlast, hl] at hquoted
      obtain ⟨goesOn, rfl, hgoesOn⟩ := quotesAt_backslash_iff.mp hquoted
      exact hno goesOn after hgoesOn
    rw [maskTextBlocks_unclosed hblanks hclose]

/-- An escaped quote in front of two others does not end the block, nor do escaped backslashes in
the middle. -/
theorem maskTextBlocks_block_escaped :
    let content := ['\\', '"', '"', '"', '\n', '\\', '\\', 'b']
    IsBlockContent content ∧
      maskTextBlocks ("s = ".toList ++
        (tripleQuote ++ ([' ', '\t'] ++ '\n' :: (content ++ (tripleQuote ++ [';']))))) =
        "s = ".toList ++ '"' :: '"' :: (List.replicate 2 '\n' ++ maskTextBlocks [';']) := by
  intro content
  have hcontent : IsBlockContent content :=
    .escape '"' (.char (by decide) (by decide) (.char (by decide) (by decide)
      (.char (by decide) (by decide) (.escape '\\' (.char (by decide) (by decide) .nil)))))
  have hblanks : ∀ c ∈ [' ', '\t'], c = ' ' ∨ c = '\t' ∨ c = '\x0c' := by simp
  exact ⟨hcontent, (maskTextBlocks_block (by decide) hblanks hcontent).1 (by decide)⟩

/-- A block that ends in an escaped backslash swallows the field behind it, without a warning. -/
theorem escapedBackslash_hides_field :
    let before := "class A \x7b\n String s = ".toList
    let content := ['x', '\\', '\\']
    let rest := ";\n private int b;\n String t = \"\"\"\n\"y\"\"\";\n\x7d".toList
    let text := before ++ (tripleQuote ++ ([] ++ '\n' :: (content ++ (tripleQuote ++ rest))))
    '"' ∉ before ∧ IsBlockContent content ∧
      maskTextBlocks text ≠ before ++
        '"' :: '"' :: (List.replicate (1 + content.count '\n') '\n' ++ maskTextBlocks rest) ∧
      (∃ x, extract (String.ofList text) "" = .ok x ∧ x.fields = [] ∧ x.warnings = []) ∧
      ∃ x, extract (String.ofList (before ++ '"' :: '"' :: '\n' :: rest)) "" = .ok x ∧
        x.fields.map (fun f ↦ (f.type, f.name, f.line)) = [("int", "b", 4)] := by
  intro before content rest text
  refine ⟨by decide, .char (by decide) (by decide) (.escape '\\' .nil), by decide +kernel,
    exists_eq_ok_of_any (by decide +kernel), exists_eq_ok_of_any (by decide +kernel)⟩

end Masking

end Boilerplate.Source
