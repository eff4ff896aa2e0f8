import Boilerplate.Text.Tidy
import Mathlib.Data.List.Basic

namespace Boilerplate.Text

section Split

variable {α : Type} [DecidableEq α] {mark : α}

theorem not_mem_of_mem_split {cs part : List α} (h : part ∈ split mark cs) : mark ∉ part := by
  induction cs generalizing part with
  | nil =>
    obtain rfl := List.mem_singleton.mp h
    exact List.not_mem_nil
  | cons c rest ih =>
    rw [split] at h
    split at h
    · rcases List.mem_cons.mp h with rfl | h
      · exact List.not_mem_nil
      · exact ih h
    · next hc =>
      split at h
      · next hr => exact absurd hr (split_ne_nil mark rest)
      · next first parts hr =>
        rcases List.mem_cons.mp h with rfl | h
        · have hfirst : mark ∉ first := ih (by simp [hr])
          simpa [Ne.symm hc] using hfirst
        · exact ih (by simp [hr, h])

theorem split_intercalate {parts : List (List α)} (hne : parts ≠ [])
    (h : ∀ part ∈ parts, mark ∉ part) : split mark (List.intercalate [mark] parts) = parts := by
  have hsplit := List.splitOn_intercalate mark (fun part ↦ not_mem_of_mem_split)
    (split_ne_nil mark (List.intercalate [mark] parts))
  rw [intercalate_split, List.splitOn_intercalate mark h hne] at hsplit
  exact hsplit.symm

theorem split_append_cons {part : List α} (h : mark ∉ part) (rest : List α) :
    split mark (part ++ mark :: rest) = part :: split mark rest := by
  induction part with
  | nil => rw [List.nil_append, split, if_pos rfl]
  | cons c part ih =>
    obtain ⟨hc, hpart⟩ := not_or.mp (mt List.mem_cons.mpr h)
    rw [List.cons_append, split, if_neg (Ne.symm hc), ih hpart]

end Split

def linesText (lines : List String) : String := String.join (lines.map (· ++ "\n"))

def padded (width : Nat) (line : String) : String :=
  String.ofList (List.replicate width ' ') ++ line

def IsOneLine (s : String) : Prop := '\n' ∉ s.toList

/-- Whether a text is one line that does not end with a blank. -/
def IsCodeLine (line : String) : Prop :=
  IsOneLine line ∧ ∃ c ∈ line.toList.getLast?, isBlank c = false

instance (s : String) : Decidable (IsOneLine s) := inferInstanceAs (Decidable ('\n' ∉ s.toList))

-- Only the last character is looked at, where another instance would try all characters.
instance (line : String) : Decidable (IsCodeLine line) :=
  @instDecidableAnd _ _ _ (Option.decidableExistsMem line.toList.getLast?)

/-- Lines of code in groups, with one empty line between every two groups. -/
inductive Paragraphs : List String → Prop
  | group {lines : List String} : lines ≠ [] → (∀ line ∈ lines, IsCodeLine line) → Paragraphs lines
  | gap {lines more : List String} :
      Paragraphs lines → Paragraphs more → Paragraphs (lines ++ "" :: more)

section Lines

variable {s line last : String} {lines : List String} {spaces : Int}

@[simp] theorem isOneLine_append : IsOneLine (s ++ line) ↔ IsOneLine s ∧ IsOneLine line := by
  simp only [IsOneLine, String.toList_append, List.mem_append, not_or]

theorem isOneLine_ofList {cs : List Char} : IsOneLine (String.ofList cs) ↔ '\n' ∉ cs := by
  rw [IsOneLine, String.toList_ofList]

@[simp] theorem isCodeLine_append (h : IsCodeLine line) :
    IsCodeLine (s ++ line) ↔ IsOneLine s := by
  constructor
  · intro hs
    exact (isOneLine_append.mp hs.1).1
  · intro hs
    obtain ⟨hline, c, hc, hblank⟩ := h
    refine ⟨isOneLine_append.mpr ⟨hs, hline⟩, c, ?_, hblank⟩
    rw [String.toList_append, List.getLast?_append, hc]
    rfl

theorem linesText_nil : linesText [] = "" := rfl

theorem linesText_cons (line : String) (lines : List String) :
    linesText (line :: lines) = line ++ "\n" ++ linesText lines := by
  rw [linesText, List.map_cons, String.join_cons, linesText]

theorem linesText_append (lines more : List String) :
    linesText (lines ++ more) = linesText lines ++ linesText more := by
  induction lines with
  | nil => simp [linesText_nil]
  | cons line lines ih => simp [linesText_cons, ih, String.append_assoc]

theorem linesText_flatMap {α : Type} (block : α → List String) (xs : List α) :
    linesText (xs.flatMap block) = String.join (xs.map fun x ↦ linesText (block x)) := by
  induction xs with
  | nil => rfl
  | cons x xs ih => rw [List.flatMap_cons, linesText_append, ih, List.map_cons, String.join_cons]

theorem toList_linesText_append (lines : List String) (last : String) :
    (linesText lines ++ last).toList = joinLines (lines.map String.toList ++ [last.toList]) := by
  induction lines with
  | nil => simp [linesText_nil, joinLines]
  | cons line lines ih =>
    rw [List.map_cons, List.cons_append, joinLines, List.intercalate_cons_of_ne_nil (by simp),
      ← joinLines, ← ih, linesText_cons]
    simp

theorem splitLines_linesText_append (h : ∀ line ∈ lines ++ [last], IsOneLine line) :
    splitLines (linesText lines ++ last).toList = lines.map String.toList ++ [last.toList] := by
  rw [toList_linesText_append, splitLines, joinLines, split_intercalate (by simp)]
  intro part hpart
  rw [← List.map_singleton, ← List.map_append] at hpart
  obtain ⟨line, hline, rfl⟩ := List.mem_map.mp hpart
  exact h line hline

theorem IsCodeLine.toList_ne_nil (h : IsCodeLine line) : line.toList ≠ [] := by
  obtain ⟨-, c, hc, -⟩ := h
  exact List.ne_nil_of_mem (List.mem_of_mem_getLast? hc)

theorem IsCodeLine.isBlankLine_eq_false (h : IsCodeLine line) :
    isBlankLine line.toList = false := by
  obtain ⟨-, c, hc, hblank⟩ := h
  rw [isBlankLine, List.all_eq_false]
  exact ⟨c, List.mem_of_mem_getLast? hc, by simp [hblank]⟩

theorem IsCodeLine.trimEnd_eq (h : IsCodeLine line) : trimEnd line.toList = line.toList := by
  obtain ⟨-, c, hc, hblank⟩ := h
  obtain ⟨before, hbefore⟩ := List.getLast?_eq_some_iff.mp hc
  rw [hbefore, trimEnd_append_of_not_isBlank hblank]

theorem prependToLines_linesText_append (start : String)
    (h : ∀ line ∈ lines ++ [last], IsCodeLine line) :
    String.ofList (prependToLines start.toList (linesText lines ++ last).toList) =
      linesText (lines.map (start ++ ·)) ++ (start ++ last) := by
  have hstart : ∀ line ∈ lines ++ [last], (if isBlankLine line.toList then line.toList
      else start.toList ++ line.toList) = (start ++ line).toList := by
    intro line hline
    rw [if_neg (by simp [(h line hline).isBlankLine_eq_false]), String.toList_append]
  rw [prependToLines, splitLines_linesText_append fun line hline ↦ (h line hline).1,
    ← String.toList_inj, toList_linesText_append, String.toList_ofList, List.map_append,
    List.map_map, List.map_map, List.map_singleton]
  congr 2
  · exact List.map_congr_left fun line hline ↦ hstart line (List.mem_append_left _ hline)
  · exact congrArg ([·]) (hstart last (by simp))

theorem indent_linesText_append (h : ∀ line ∈ lines ++ [last], IsCodeLine line) :
    indent spaces (linesText lines ++ last) =
      linesText (lines.map (padded spaces.toNat)) ++ padded spaces.toNat last := by
  rw [indent, ← String.toList_ofList (l := List.replicate spaces.toNat ' '),
    prependToLines_linesText_append _ h]
  rfl

theorem indent_eq_padded (h : IsCodeLine line) :
    indent spaces line = padded spaces.toNat line := by
  simpa [linesText_nil] using @indent_linesText_append line [] spaces (by simpa)

theorem lineComment_eq (h : IsCodeLine line) : lineComment "//" line = "// " ++ line := by
  have hcomment := @prependToLines_linesText_append line [] "// " (by simpa)
  simpa [linesText_nil, lineComment] using hcomment

theorem padded_padded (width depth : Nat) (line : String) :
    padded width (padded depth line) = padded (width + depth) line := by
  rw [padded, padded, padded, ← String.append_assoc, ← String.ofList_append,
    List.replicate_append_replicate]

theorem IsCodeLine.padded (h : IsCodeLine line) (width : Nat) : IsCodeLine (padded width line) := by
  rw [Text.padded, isCodeLine_append h, isOneLine_ofList]
  exact fun hmem ↦ absurd (List.eq_of_mem_replicate hmem) (by decide)

theorem intercalate_linesText (blocks : List (List String)) :
    "\n".intercalate (blocks.map linesText) = linesText ([""].intercalate blocks) := by
  induction blocks with
  | nil => rfl
  | cons block blocks ih =>
    cases blocks with
    | nil => simp
    | cons next blocks =>
      rw [List.map_cons, List.map_cons, String.intercalate_cons_cons, ← List.map_cons, ih,
        List.intercalate_cons_cons, linesText_append, linesText_append]
      rfl

end Lines

section Tidy

variable {lines : List String}

theorem Paragraphs.flatMap {α : Type} {block : α → List String} {xs : List α}
    (h : Paragraphs lines) (hxs : ∀ x ∈ xs, Paragraphs (block x)) :
    Paragraphs (lines ++ xs.flatMap fun x ↦ "" :: block x) := by
  induction xs generalizing lines with
  | nil => simpa using h
  | cons x xs ih =>
    rw [List.flatMap_cons, ← List.append_assoc]
    exact ih (h.gap (hxs x (.head _))) fun y hy ↦ hxs y (.tail _ hy)

theorem Paragraphs.intercalate {blocks : List (List String)} (hne : blocks ≠ [])
    (h : ∀ block ∈ blocks, Paragraphs block) : Paragraphs ([""].intercalate blocks) := by
  induction blocks with
  | nil => exact absurd rfl hne
  | cons block blocks ih =>
    cases blocks with
    | nil =>
      rw [List.intercalate_singleton]
      exact h block (.head _)
    | cons next blocks =>
      rw [List.intercalate_cons_cons, List.append_assoc]
      exact (h block (.head _)).gap (ih (by simp) fun block hb ↦ h block (.tail _ hb))

theorem Paragraphs.eq_empty_or (h : Paragraphs lines) :
    ∀ line ∈ lines, line = "" ∨ IsCodeLine line := by
  induction h with
  | group _ hall => exact fun line hline ↦ .inr (hall line hline)
  | gap _ _ ih ih' =>
    intro line hline
    rcases List.mem_append.mp hline with hline | hline
    · exact ih line hline
    rcases List.mem_cons.mp hline with rfl | hline
    · exact .inl rfl
    · exact ih' line hline

theorem Paragraphs.exists_cons (h : Paragraphs lines) :
    ∃ first rest, lines = first :: rest ∧ IsCodeLine first := by
  induction h with
  | @group lines hne hall =>
    obtain ⟨first, rest, rfl⟩ := List.exists_cons_of_ne_nil hne
    exact ⟨first, rest, rfl, hall first (.head _)⟩
  | gap _ _ ih _ =>
    obtain ⟨first, rest, rfl, hfirst⟩ := ih
    exact ⟨first, _, rfl, hfirst⟩

theorem Paragraphs.exists_concat (h : Paragraphs lines) :
    ∃ before last, lines = before ++ [last] ∧ IsCodeLine last := by
  induction h with
  | @group lines hne hall =>
    obtain ⟨before, last, rfl⟩ := List.eq_nil_or_concat' lines |>.resolve_left hne
    exact ⟨before, last, rfl, hall last (by simp)⟩
  | @gap lines more _ _ _ ih =>
    obtain ⟨before, last, rfl, hlast⟩ := ih
    exact ⟨lines ++ "" :: before, last, by simp, hlast⟩

theorem limitBlankLines_cons_of_ne_nil {line : List Char} (h : line ≠ []) (run : Nat)
    (more : List (List Char)) :
    limitBlankLines run (line :: more) = line :: limitBlankLines 0 more := by
  rw [limitBlankLines, if_neg (by simpa using h)]

theorem limitBlankLines_nil_cons {run : Nat} (h : run < maxBlankLines) (more : List (List Char)) :
    limitBlankLines run ([] :: more) = [] :: limitBlankLines (run + 1) more := by
  rw [limitBlankLines, List.isEmpty_nil, if_pos rfl, if_pos h]

/-- No empty line is left out of paragraphs, whatever stands in front of them or behind. -/
theorem Paragraphs.limitBlankLines_append (h : Paragraphs lines) (run : Nat)
    (more : List (List Char)) :
    limitBlankLines run (lines.map String.toList ++ more) =
      lines.map String.toList ++ limitBlankLines 0 more := by
  induction h generalizing run more with
  | @group lines hne hall =>
    induction lines generalizing run with
    | nil => exact absurd rfl hne
    | cons line lines ih =>
      rw [List.map_cons, List.cons_append,
        limitBlankLines_cons_of_ne_nil (hall line (.head _)).toList_ne_nil]
      cases lines with
      | nil => rfl
      | cons next lines =>
        rw [ih (by simp) fun line hline ↦ hall line (.tail _ hline)]
        rfl
  | @gap lines next _ _ ih ih' =>
    have hgap : limitBlankLines 0 ("".toList :: (next.map String.toList ++ more)) =
        "".toList :: (next.map String.toList ++ limitBlankLines 0 more) := by
      rw [String.toList_empty, limitBlankLines_nil_cons (by decide), ih']
    rw [List.map_append, List.append_assoc, ih, List.map_cons, List.cons_append, hgap]
    simp

theorem trimFeeds_concat {cs : List Char} (hfirst : ∃ c ∈ (cs ++ ['\n']).head?, c ≠ '\n')
    (hlast : ∃ c ∈ cs.getLast?, c ≠ '\n') : trimFeeds (cs ++ ['\n']) = cs := by
  have hdrop : (cs ++ ['\n']).dropWhile (· == '\n') = cs ++ ['\n'] := by
    obtain ⟨c, hc, hne⟩ := hfirst
    obtain ⟨rest, hrest⟩ := List.head?_eq_some_iff.mp hc
    rw [hrest, List.dropWhile_cons_of_neg (by simpa using hne)]
  obtain ⟨c, hc, hne⟩ := hlast
  obtain ⟨before, rfl⟩ := List.getLast?_eq_some_iff.mp hc
  rw [trimFeeds, hdrop]
  simp [hne]

theorem Paragraphs.lines_tidy (h : Paragraphs lines) :
    limitBlankLines 0 ((splitLines (linesText lines).toList).map trimEnd) =
      lines.map String.toList ++ [[]] := by
  have hfeed : ∀ line ∈ lines ++ [""], IsOneLine line := by
    intro line hline
    rcases List.mem_append.mp hline with hline | hline
    · rcases h.eq_empty_or line hline with rfl | hcode
      · decide
      · exact hcode.1
    · obtain rfl := List.mem_singleton.mp hline
      decide
  have htrim : ∀ line ∈ lines, trimEnd line.toList = line.toList := by
    intro line hline
    rcases h.eq_empty_or line hline with rfl | hcode
    · rfl
    · exact hcode.trimEnd_eq
  have hsplit : splitLines (linesText lines).toList = lines.map String.toList ++ [[]] := by
    simpa using splitLines_linesText_append hfeed
  have hmap : (lines.map String.toList).map trimEnd = lines.map String.toList := by
    rw [List.map_map]
    exact List.map_congr_left htrim
  rw [hsplit, List.map_append, hmap]
  exact h.limitBlankLines_append 0 [[]]

theorem Paragraphs.toList_linesText (h : Paragraphs lines) :
    ∃ text, (linesText lines).toList = text ++ ['\n'] ∧ ∃ c ∈ text.getLast?, c ≠ '\n' := by
  obtain ⟨before, last, rfl, -, c, hc, hblank⟩ := h.exists_concat
  refine ⟨(linesText before ++ last).toList, ?_, c, ?_, ?_⟩
  · rw [linesText_append, linesText_cons, linesText_nil]
    simp
  · rw [String.toList_append, List.getLast?_append, hc]
    rfl
  · rintro rfl
    exact absurd hblank (by decide)

theorem Paragraphs.head?_linesText (h : Paragraphs lines) :
    ∃ c ∈ (linesText lines).toList.head?, c ≠ '\n' := by
  obtain ⟨first, rest, rfl, hline⟩ := h.exists_cons
  have hne := hline.toList_ne_nil
  refine ⟨first.toList.head hne, ?_, ?_⟩
  · rw [linesText_cons, String.append_assoc, String.toList_append,
      List.head?_append_of_ne_nil _ hne]
    exact List.head?_eq_some_head hne
  · intro hfeed
    exact hline.1 (hfeed ▸ List.head_mem hne)

theorem Paragraphs.tidy_eq (h : Paragraphs lines) : tidy (linesText lines) = linesText lines := by
  have hjoin : joinLines (lines.map String.toList ++ [[]]) = (linesText lines).toList := by
    simpa using (toList_linesText_append lines "").symm
  obtain ⟨text, hend, hlast⟩ := h.toList_linesText
  have hfirst := h.head?_linesText
  rw [hend] at hfirst
  rw [tidy, h.lines_tidy, hjoin, hend, trimFeeds_concat hfirst hlast, ← hend, String.ofList_toList]

theorem prefix_trimFeeds {start : List Char} (hfirst : ∃ c ∈ start.head?, c ≠ '\n')
    (hlast : ∃ c ∈ start.getLast?, c ≠ '\n') (rest : List Char) :
    start <+: trimFeeds (start ++ rest) := by
  obtain ⟨c, hc, hne⟩ := hfirst
  obtain ⟨more, rfl⟩ := List.head?_eq_some_iff.mp hc
  have hdrop : ((c :: more) ++ rest).dropWhile (· == '\n') = (c :: more) ++ rest :=
    List.dropWhile_cons_of_neg (by simpa using hne)
  obtain ⟨d, hd, hne'⟩ := hlast
  obtain ⟨before, hbefore⟩ := List.getLast?_eq_some_iff.mp hd
  have hkeep : (c :: more).reverse.dropWhile (· == '\n') = (c :: more).reverse := by
    rw [hbefore, List.reverse_concat, List.dropWhile_cons_of_neg (by simpa using hne')]
  rw [trimFeeds, hdrop, List.reverse_append, List.dropWhile_append, hkeep]
  split
  · exact (List.reverse_reverse (c :: more)).symm ▸ List.prefix_rfl
  · rw [List.reverse_append, List.reverse_reverse]
    exact List.prefix_append _ _

theorem IsCodeLine.prefix_tidy {line : String} (h : IsCodeLine line) (rest : String) :
    line.toList <+: (tidy (line ++ "\n" ++ rest)).toList := by
  obtain ⟨more, hmore⟩ : ∃ more, limitBlankLines 0
      ((splitLines (line ++ "\n" ++ rest).toList).map trimEnd) = line.toList :: more := by
    have hsplit : splitLines (line ++ "\n" ++ rest).toList =
        line.toList :: splitLines rest.toList := by
      simpa [splitLines] using split_append_cons h.1 rest.toList
    rw [hsplit, List.map_cons, h.trimEnd_eq, limitBlankLines_cons_of_ne_nil h.toList_ne_nil]
    exact ⟨_, rfl⟩
  obtain ⟨tail, htail⟩ : ∃ tail, joinLines (line.toList :: more) = line.toList ++ tail := by
    rw [joinLines]
    cases more with
    | nil => exact ⟨[], by simp⟩
    | cons next more => exact ⟨_, by rw [List.intercalate_cons_cons, List.append_assoc]⟩
  have hnil := h.toList_ne_nil
  obtain ⟨hfeed, c, hc, hblank⟩ := h
  have hne (d : Char) (hd : d ∈ line.toList) : d ≠ '\n' := fun he ↦ hfeed (he ▸ hd)
  rw [tidy, hmore, htail, String.toList_ofList]
  refine (prefix_trimFeeds ⟨_, List.head?_eq_some_head hnil, ?_⟩ ⟨c, hc, ?_⟩ tail).trans
    (List.prefix_append _ _)
  · exact hne _ (List.head_mem hnil)
  · exact hne c (List.mem_of_mem_getLast? hc)

end Tidy

end Boilerplate.Text
