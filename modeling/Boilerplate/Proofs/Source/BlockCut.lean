import Boilerplate.Proofs.Source.TextBlockEnd

namespace Boilerplate.Source

/-- A text block as it is written: three quotes at the end of a line, and text up to three quotes
that stand behind another character than a backslash. -/
def IsTextBlock (block : List Char) : Prop :=
  ∃ blanks feed inside, block = tripleQuote ++ (blanks ++ (feed ++ (inside ++ tripleQuote))) ∧
    (∀ c ∈ blanks, c = ' ' ∨ c = '\t' ∨ c = '\x0c') ∧ (feed = ['\n'] ∨ feed = ['\r', '\n']) ∧
    ('\n' :: inside).getLast? ≠ some '\\'

/-- The text block that is found at the start of a text: no shorter one starts there. -/
structure IsFoundBlock (text block : List Char) : Prop where
  isTextBlock : IsTextBlock block
  starts : block <+: text
  shortest : ∀ other, IsTextBlock other → other <+: text → block.length ≤ other.length

def NoBlockIn (part rest : List Char) : Prop :=
  ∀ front back, part = front ++ back → back ≠ [] →
    ∀ block, IsTextBlock block → ¬block <+: back ++ rest

/-- A text block, and what stands before it and behind the block that comes earlier. -/
structure Passage where
  before : List Char
  block : List Char

namespace Passage

def text (p : Passage) : List Char := p.before ++ p.block

def masked (p : Passage) : List Char :=
  p.before ++ '"' :: '"' :: List.replicate (p.block.count '\n') '\n'

end Passage

def assemble (form : Passage → List Char) (passages : List Passage) (last : List Char) :
    List Char :=
  passages.flatMap form ++ last

/-- Whether a search from the left finds these blocks, each behind the one before it. -/
inductive IsCut : List Passage → List Char → Prop
  | last {last : List Char} : NoBlockIn last [] → IsCut [] last
  | passage {p : Passage} {passages : List Passage} {last : List Char} :
      NoBlockIn p.before (p.block ++ assemble Passage.text passages last) →
      IsFoundBlock (p.block ++ assemble Passage.text passages last) p.block →
      IsCut passages last → IsCut (p :: passages) last

/-- What stands outside blocks at a place in a cut: the text before the next block. -/
def nextPart (passages : List Passage) (last : List Char) : List Char :=
  (passages.head?.map Passage.before).getD last

section Search

variable {text body block after : List Char} {feeds : Nat}

theorem afterBlockOpening?_eq_some_iff : afterBlockOpening? text = some body ↔
    ∃ blanks feed, text = tripleQuote ++ (blanks ++ (feed ++ body)) ∧
      (∀ c ∈ blanks, c = ' ' ∨ c = '\t' ∨ c = '\x0c') ∧
      (feed = ['\n'] ∨ feed = ['\r', '\n']) := by
  constructor
  · intro h
    rw [afterBlockOpening?] at h
    split at h
    · next hquotes =>
      obtain ⟨rest, rfl⟩ := List.isPrefixOf_iff_prefix.mp hquotes
      have hrest := @List.takeWhile_append_dropWhile _
        (fun c ↦ c == ' ' || c == '\t' || c == '\x0c') rest
      have hblanks : ∀ c ∈ rest.takeWhile fun c ↦ c == ' ' || c == '\t' || c == '\x0c',
          c = ' ' ∨ c = '\t' ∨ c = '\x0c' := fun c hc ↦ by
        simpa [or_assoc] using List.mem_takeWhile_imp hc
      have hdrop : (tripleQuote ++ rest).drop 3 = rest := rfl
      rw [hdrop] at h
      split at h
      · next found hfound =>
        rw [hfound] at hrest
        obtain rfl := Option.some.inj h
        exact ⟨_, ['\r', '\n'], congrArg _ hrest.symm, hblanks, .inr rfl⟩
      · next found hfound =>
        rw [hfound] at hrest
        obtain rfl := Option.some.inj h
        exact ⟨_, ['\n'], congrArg _ hrest.symm, hblanks, .inl rfl⟩
      · cases h
    · cases h
  · rintro ⟨blanks, feed, rfl, hblanks, hfeed⟩
    have hdrop : (tripleQuote ++ (blanks ++ (feed ++ body))).drop 3 = blanks ++ (feed ++ body) :=
      rfl
    rw [afterBlockOpening?, if_pos (List.isPrefixOf_iff_prefix.mpr (List.prefix_append _ _)), hdrop,
      List.dropWhile_append_of_pos (by simpa [or_assoc] using hblanks)]
    rcases hfeed with rfl | rfl <;> rfl

theorem exists_quotesAt {previous : Char} {inside : List Char}
    (hlast : (previous :: inside).getLast? ≠ some '\\') (after : List Char) :
    ∃ inside' after', QuotesAt previous (inside ++ (tripleQuote ++ after)) inside' after' := by
  induction inside generalizing previous with
  | nil => exact ⟨[], after, quotesAt_nil (by simpa using hlast)⟩
  | cons c inside ih =>
    by_cases h : previous ≠ '\\' ∧ tripleQuote <+: c :: (inside ++ (tripleQuote ++ after))
    · obtain ⟨hprevious, rest, hrest⟩ := h
      rw [List.cons_append, ← hrest]
      exact ⟨[], rest, quotesAt_nil hprevious⟩
    · obtain ⟨inside', after', hquotes⟩ := ih (by simpa using hlast)
      exact ⟨c :: inside', after', (quotesAt_cons_iff h).mpr ⟨inside', rfl, hquotes⟩⟩

theorem IsTextBlock.exists_inside (h : IsTextBlock block) (rest : List Char) :
    ∃ inside, afterBlockOpening? (block ++ rest) = some (inside ++ (tripleQuote ++ rest)) ∧
      ('\n' :: inside).getLast? ≠ some '\\' := by
  obtain ⟨blanks, feed, inside, rfl, hblanks, hfeed, hlast⟩ := h
  exact ⟨inside, afterBlockOpening?_eq_some_iff.mpr ⟨blanks, feed, by simp, hblanks, hfeed⟩, hlast⟩

theorem isFoundBlock_of_textBlock? (h : textBlock? text = some (feeds, after)) :
    ∃ block, IsFoundBlock text block ∧ text = block ++ after ∧ feeds = block.count '\n' := by
  obtain ⟨body, hopens, hbody⟩ := Option.bind_eq_some_iff.mp h
  obtain ⟨⟨count, rest⟩, hcloses, hclosed⟩ := Option.map_eq_some_iff.mp hbody
  obtain ⟨rfl, rfl⟩ := Prod.mk.inj hclosed
  obtain ⟨inside, hquotes, rfl⟩ := closeBlock?_eq_some_iff.mp hcloses
  obtain ⟨blanks, feed, htext, hblanks, hfeed⟩ := afterBlockOpening?_eq_some_iff.mp hopens
  obtain rfl := hquotes.text_eq
  have htext' : text = (tripleQuote ++ (blanks ++ (feed ++ (inside ++ tripleQuote)))) ++ rest := by
    simp [htext]
  refine ⟨_, ⟨⟨blanks, feed, inside, rfl, hblanks, hfeed, hquotes.last_ne⟩, ?_, ?_⟩, htext', ?_⟩
  · exact ⟨rest, htext'.symm⟩
  · -- Another block opens in the same way, and its end is not in front of the first place for one.
    intro other hother hstarts
    obtain ⟨more, rfl⟩ := hstarts
    obtain ⟨inside', hopens', hlast'⟩ := hother.exists_inside more
    have hbody := Option.some.inj (hopens.symm.trans hopens')
    have hfirst := hquotes.first inside' more hbody hlast'
    have hlengths := congrArg List.length hbody
    have hlengths' := congrArg List.length htext'
    simp only [List.length_append] at hlengths hlengths' ⊢
    omega
  · have hblank : blanks.count '\n' = 0 := by
      refine List.count_eq_zero.mpr fun hmem ↦ ?_
      rcases hblanks _ hmem with he | he | he <;> cases he
    have hone : feed.count '\n' = 1 := by rcases hfeed with rfl | rfl <;> rfl
    have hquote : tripleQuote.count '\n' = 0 := rfl
    simp only [List.count_append, hblank, hone, hquote]
    omega

theorem not_prefix_of_textBlock?_eq_none (h : textBlock? text = none) (hblock : IsTextBlock block) :
    ¬block <+: text := by
  rintro ⟨rest, rfl⟩
  obtain ⟨inside, hopens, hlast⟩ := hblock.exists_inside rest
  obtain ⟨inside', after', hquotes⟩ := exists_quotesAt hlast rest
  have hcloses := closeBlock?_eq_some_iff.mpr ⟨inside', hquotes, rfl⟩
  rw [textBlock?, hopens, Option.bind_some, hcloses] at h
  cases h

end Search

section Cut

variable {c : Char} {cs last : List Char} {passages : List Passage}

theorem assemble_text_cons (p : Passage) (passages : List Passage) (last : List Char) :
    assemble Passage.text (p :: passages) last =
      p.before ++ (p.block ++ assemble Passage.text passages last) := by
  simp [assemble, Passage.text]

theorem assemble_masked_cons (p : Passage) (passages : List Passage) (last : List Char) :
    assemble Passage.masked (p :: passages) last = p.before ++
      '"' :: '"' :: (List.replicate (p.block.count '\n') '\n' ++
        assemble Passage.masked passages last) := by
  simp [assemble, Passage.masked]

theorem noBlockIn_nil (rest : List Char) : NoBlockIn [] rest := by
  intro front back h hback
  exact absurd (List.append_eq_nil_iff.mp h.symm).2 hback

theorem NoBlockIn.cons {part rest : List Char} (h : NoBlockIn part rest)
    (hc : ∀ block, IsTextBlock block → ¬block <+: c :: (part ++ rest)) :
    NoBlockIn (c :: part) rest := by
  intro front back he hback
  cases front with
  | nil =>
    obtain rfl : c :: part = back := he
    exact hc
  | cons d front => exact h front back (List.cons.inj he).2 hback

theorem exists_isCut (source : List Char) : ∃ passages last, IsCut passages last ∧
    assemble Passage.text passages last = source ∧
    assemble Passage.masked passages last = maskTextBlocks source := by
  fun_induction maskTextBlocks source with
  | case1 => exact ⟨[], [], .last (noBlockIn_nil _), rfl, rfl⟩
  | case2 c rest feeds after hblock _ ih =>
    obtain ⟨passages, last, hcut, htext, hmasked⟩ := ih
    obtain ⟨block, hfound, hsource, rfl⟩ := isFoundBlock_of_textBlock? hblock
    rw [hsource] at hfound
    subst htext
    refine ⟨⟨[], block⟩ :: passages, last, .passage (noBlockIn_nil _) hfound hcut, ?_, ?_⟩
    · rw [assemble_text_cons, hsource]
      rfl
    · rw [assemble_masked_cons, hmasked]
      rfl
  | case3 c rest hnone ih =>
    obtain ⟨passages, last, hcut, htext, hmasked⟩ := ih
    have hc := fun block ↦ @not_prefix_of_textBlock?_eq_none _ block hnone
    subst htext
    cases hcut with
    | last hlast =>
      refine ⟨[], c :: last, .last (hlast.cons ?_), rfl, ?_⟩
      · simpa [assemble] using hc
      · rw [← hmasked]
        rfl
    | @passage p passages _ hbefore hfound hcut =>
      refine ⟨{ p with before := c :: p.before } :: passages, last,
        .passage (hbefore.cons ?_) hfound hcut, ?_, ?_⟩
      · rwa [assemble_text_cons] at hc
      · rw [assemble_text_cons, assemble_text_cons]
        rfl
      · rw [assemble_masked_cons, ← hmasked, assemble_masked_cons]
        rfl

theorem count_assemble_masked (passages : List Passage) (last : List Char) :
    (assemble Passage.masked passages last).count '\n' =
      (assemble Passage.text passages last).count '\n' := by
  induction passages with
  | nil => rfl
  | cons p passages ih =>
    have hquote : ('"' == '\n') = false := rfl
    rw [assemble_text_cons, assemble_masked_cons]
    simp [List.count_append, ih]

theorem assemble_prefix {form : Passage → List Char} (hform : ∀ p, p.before <+: form p)
    {later : List Passage} {front back : List Char}
    (h : nextPart later last = front ++ c :: back) (earlier : List Passage) :
    assemble form earlier front ++ [c] <+: assemble form (earlier ++ later) last := by
  have hnext : nextPart later last <+: assemble form later last := by
    cases later with
    | nil => exact List.prefix_rfl
    | cons p later =>
      rw [assemble, List.flatMap_cons, List.append_assoc]
      exact (hform p).trans (List.prefix_append _ _)
  have hfront : front ++ [c] <+: nextPart later last := ⟨back, by simp [h]⟩
  rw [assemble, assemble, List.flatMap_append, List.append_assoc, List.append_assoc]
  exact (List.prefix_append_right_inj _).mpr (hfront.trans hnext)

theorem IsCut.eq_nil (h : IsCut passages last)
    (hno : NoBlockIn (assemble Passage.text passages last) []) : passages = [] := by
  cases h with
  | last => rfl
  | @passage p passages _ hbefore hfound hcut =>
    refine absurd (List.prefix_append p.block (assemble Passage.text passages last ++ [])) ?_
    have hne : p.block ++ assemble Passage.text passages last ≠ [] := by
      obtain ⟨blanks, feed, inside, hblock, -⟩ := hfound.isTextBlock
      simp [hblock, tripleQuote]
    rw [← List.append_assoc]
    exact hno p.before _ (assemble_text_cons p passages last) hne _ hfound.isTextBlock

end Cut

/-- Masking changes a source at its text blocks and nowhere else: a search from the left cuts the
source at them, and each leaves an empty literal and its line feeds. What stands between them stays
on its lines, and a source without text blocks is not changed. -/
theorem maskTextBlocks_cut (source : List Char) :
    (maskTextBlocks source).count '\n' = source.count '\n' ∧
      (∃ passages last, IsCut passages last ∧ assemble Passage.text passages last = source ∧
        assemble Passage.masked passages last = maskTextBlocks source ∧
        ∀ earlier later, passages = earlier ++ later →
          ∀ front c back, nextPart later last = front ++ c :: back →
            assemble Passage.text earlier front ++ [c] <+: source ∧
            assemble Passage.masked earlier front ++ [c] <+: maskTextBlocks source ∧
            (assemble Passage.masked earlier front).count '\n' =
              (assemble Passage.text earlier front).count '\n') ∧
      (NoBlockIn source [] → maskTextBlocks source = source) := by
  obtain ⟨passages, last, hcut, htext, hmasked⟩ := exists_isCut source
  refine ⟨?_, ⟨passages, last, hcut, htext, hmasked, ?_⟩, fun hno ↦ ?_⟩
  · rw [← hmasked, ← htext, count_assemble_masked]
  · rintro earlier later rfl front c back hnext
    refine ⟨?_, ?_, count_assemble_masked earlier front⟩
    · rw [← htext]
      exact assemble_prefix (fun p ↦ List.prefix_append _ _) hnext earlier
    · rw [← hmasked]
      exact assemble_prefix (fun p ↦ List.prefix_append _ _) hnext earlier
  · rw [← htext] at hno
    obtain rfl := hcut.eq_nil hno
    exact hmasked.symm.trans htext

end Boilerplate.Source
