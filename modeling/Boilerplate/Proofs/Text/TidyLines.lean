import Boilerplate.Proofs.Text.Lines
import Mathlib.Data.List.DropRight

namespace Boilerplate.Text

def codeLines (lines : List (List Char)) : List (List Char) := lines.filter (!isBlankLine ·)

def trimLines (lines : List (List Char)) : List (List Char) :=
  (lines.dropWhile List.isEmpty).rdropWhile List.isEmpty

/-- The lines that tidying leaves of a text, none of a blank one. -/
def tidyLines (cs : List Char) : List (List Char) :=
  trimLines (limitBlankLines 0 ((splitLines cs).map trimEnd))

/-- Lines without blanks at their ends and without more than two blank lines in a row, of which the
first and the last are not blank. -/
structure IsTidy (lines : List (List Char)) : Prop where
  no_feed : ∀ line ∈ lines, '\n' ∉ line
  no_blank_end : ∀ line ∈ lines, ∀ c ∈ line.getLast?, isBlank c = false
  few_blank : ∀ run, run <:+: lines → (∀ line ∈ run, isBlankLine line = true) → run.length ≤ 2
  first : ∀ line ∈ lines.head?, isBlankLine line = false
  last : ∀ line ∈ lines.getLast?, isBlankLine line = false

section Blanks

variable {cs line : List Char} {lines : List (List Char)}

theorem trimEnd_idem (cs : List Char) : trimEnd (trimEnd cs) = trimEnd cs :=
  List.rdropWhile_idempotent isBlank cs

theorem trimEnd_isPrefix (cs : List Char) : trimEnd cs <+: cs := List.rdropWhile_prefix isBlank cs

theorem trimEnd_eq_nil_iff : trimEnd cs = [] ↔ isBlankLine cs = true := by
  rw [isBlankLine, List.all_eq_true]
  exact List.rdropWhile_eq_nil_iff

theorem isEmpty_trimEnd (cs : List Char) : (trimEnd cs).isEmpty = isBlankLine cs := by
  rw [Bool.eq_iff_iff, List.isEmpty_iff, trimEnd_eq_nil_iff]

theorem trimEnd_eq_self (h : ∀ c ∈ cs.getLast?, isBlank c = false) : trimEnd cs = cs := by
  refine List.rdropWhile_eq_self_iff.mpr fun hne ↦ ?_
  simp [h _ (List.getLast?_eq_some_getLast hne)]

theorem isBlankLine_of_trimmed (h : trimEnd line = line) : isBlankLine line = line.isEmpty := by
  rw [← isEmpty_trimEnd, h]

theorem isBlankLine_trimEnd (cs : List Char) : isBlankLine (trimEnd cs) = isBlankLine cs := by
  rw [isBlankLine_of_trimmed (trimEnd_idem cs), isEmpty_trimEnd]

theorem codeLines_map_trimEnd (lines : List (List Char)) :
    codeLines (lines.map trimEnd) = (codeLines lines).map trimEnd := by
  rw [codeLines, List.filter_map, codeLines]
  congr 1
  exact List.filter_congr fun line _ ↦ congrArg Bool.not (isBlankLine_trimEnd line)

theorem codeLines_append (lines more : List (List Char)) :
    codeLines (lines ++ more) = codeLines lines ++ codeLines more := List.filter_append lines more

theorem codeLines_eq_nil_iff : codeLines lines = [] ↔ ∀ line ∈ lines, isBlankLine line = true := by
  simp [codeLines]

theorem codeLines_of_isEmpty (h : ∀ line ∈ lines, line.isEmpty = true) : codeLines lines = [] := by
  refine codeLines_eq_nil_iff.mpr fun line hline ↦ ?_
  rw [List.isEmpty_iff.mp (h line hline)]
  rfl

/-- A text is blank if all of its lines are, since a line feed is blank too. -/
theorem isBlankLine_iff_splitLines (cs : List Char) :
    isBlankLine cs = true ↔ ∀ line ∈ splitLines cs, isBlankLine line = true := by
  rw [splitLines]
  induction cs with
  | nil => simp [split]
  | cons c cs ih =>
    rw [split]
    split
    · next hc =>
      subst hc
      have hblank : isBlank '\n' = true := by decide
      simpa [isBlankLine, hblank] using ih
    · cases hsplit : split '\n' cs with
      | nil => exact absurd hsplit (split_ne_nil '\n' cs)
      | cons part parts =>
        rw [hsplit] at ih
        simp only [isBlankLine, List.all_cons, Bool.and_eq_true, List.forall_mem_cons] at ih ⊢
        rw [ih, and_assoc]

end Blanks

section Limit

variable {line : List Char} {lines before more : List (List Char)} {run : Nat}

theorem limitBlankLines_nil_cons_of_le (h : maxBlankLines ≤ run) (more : List (List Char)) :
    limitBlankLines run ([] :: more) = limitBlankLines run more := by
  rw [limitBlankLines, List.isEmpty_nil, if_pos rfl, if_neg (Nat.not_lt.mpr h)]

theorem limitBlankLines_sublist (run : Nat) (lines : List (List Char)) :
    (limitBlankLines run lines).Sublist lines := by
  fun_induction limitBlankLines run lines with
  | case1 => exact .slnil
  | case2 run line lines hempty hlt ih => exact ih.cons_cons line
  | case3 run line lines hempty hle ih => exact ih.cons line
  | case4 run line lines hne ih => exact ih.cons_cons line

theorem codeLines_limitBlankLines (run : Nat) (lines : List (List Char)) :
    codeLines (limitBlankLines run lines) = codeLines lines := by
  fun_induction limitBlankLines run lines with
  | case1 => rfl
  | case2 run line lines hempty hlt ih =>
    obtain rfl := List.isEmpty_iff.mp hempty
    exact ih
  | case3 run line lines hempty hle ih =>
    obtain rfl := List.isEmpty_iff.mp hempty
    exact ih
  | case4 run line lines hne ih =>
    rw [← List.singleton_append, codeLines_append, ih, ← codeLines_append, List.singleton_append]

theorem limitBlankLines_append_cons (h : line ≠ []) (run : Nat) (before more : List (List Char)) :
    limitBlankLines run (before ++ line :: more) =
      limitBlankLines run before ++ line :: limitBlankLines 0 more := by
  fun_induction limitBlankLines run before with
  | case1 run => exact limitBlankLines_cons_of_ne_nil h run more
  | case2 run first before hempty hlt ih =>
    obtain rfl := List.isEmpty_iff.mp hempty
    rw [List.cons_append, limitBlankLines_nil_cons hlt, ih, List.cons_append]
  | case3 run first before hempty hle ih =>
    obtain rfl := List.isEmpty_iff.mp hempty
    rw [List.cons_append, limitBlankLines_nil_cons_of_le (Nat.not_lt.mp hle), ih]
  | case4 run first before hne ih =>
    rw [List.cons_append, limitBlankLines_cons_of_ne_nil (by simpa using hne), ih,
      List.cons_append]

/-- Of the empty lines in front of a line of code as many are kept as there is room for. -/
theorem limitBlankLines_replicate (h : line ≠ []) (count run : Nat) (more : List (List Char)) :
    limitBlankLines run (List.replicate count [] ++ line :: more) =
      List.replicate (min (maxBlankLines - run) count) [] ++ line :: limitBlankLines 0 more := by
  induction count generalizing run with
  | zero =>
    rw [Nat.min_zero]
    exact limitBlankLines_cons_of_ne_nil h run more
  | succ count ih =>
    rw [List.replicate_succ, List.cons_append]
    by_cases hlt : run < maxBlankLines
    · have hmin : min (maxBlankLines - run) (count + 1) =
          min (maxBlankLines - (run + 1)) count + 1 := by omega
      rw [limitBlankLines_nil_cons hlt, ih, hmin, List.replicate_succ, List.cons_append]
    · have hmin : min (maxBlankLines - run) (count + 1) = min (maxBlankLines - run) count := by
        omega
      rw [limitBlankLines_nil_cons_of_le (Nat.not_lt.mp hlt), ih, hmin]

theorem le_of_replicate_prefix_limitBlankLines {count : Nat}
    (h : List.replicate count [] <+: limitBlankLines run lines) : count ≤ maxBlankLines - run := by
  fun_induction limitBlankLines run lines generalizing count with
  | case1 => simp_all
  | case2 run line lines hempty hlt ih =>
    cases count with
    | zero => exact Nat.zero_le _
    | succ count =>
      have hle := ih (List.cons_prefix_cons.mp h).2
      omega
  | case3 run line lines hempty hle ih => exact ih h
  | case4 run line lines hne ih =>
    cases count with
    | zero => exact Nat.zero_le _
    | succ count =>
      obtain rfl := (List.cons_prefix_cons.mp h).1
      exact absurd rfl hne

theorem le_of_replicate_infix_limitBlankLines {count : Nat}
    (h : List.replicate count [] <:+: limitBlankLines run lines) : count ≤ maxBlankLines := by
  -- A row of empty lines starts at the first line that is kept, or behind it.
  have hstart {run : Nat} {lines : List (List Char)}
      (h : List.replicate count [] <+: limitBlankLines run lines) : count ≤ maxBlankLines :=
    (le_of_replicate_prefix_limitBlankLines h).trans (Nat.sub_le _ _)
  induction lines generalizing run with
  | nil =>
    obtain rfl := (List.replicate_eq_nil_iff _).mp (List.infix_nil.mp h)
    exact Nat.zero_le _
  | cons line lines ih =>
    by_cases hempty : line = []
    · subst hempty
      by_cases hlt : run < maxBlankLines
      · rw [limitBlankLines_nil_cons hlt, List.infix_cons_iff, ← limitBlankLines_nil_cons hlt] at h
        exact h.elim hstart ih
      · rw [limitBlankLines_nil_cons_of_le (Nat.not_lt.mp hlt)] at h
        exact ih h
    · rw [limitBlankLines_cons_of_ne_nil hempty, List.infix_cons_iff,
        ← limitBlankLines_cons_of_ne_nil hempty run] at h
      exact h.elim hstart ih

theorem limitBlankLines_eq_self
    (h : ∀ count, List.replicate count [] <:+: List.replicate run [] ++ lines →
      count ≤ maxBlankLines) : limitBlankLines run lines = lines := by
  induction lines generalizing run with
  | nil => rfl
  | cons line lines ih =>
    by_cases hempty : line = []
    · subst hempty
      have hrow : List.replicate run [] ++ [] :: lines = List.replicate (run + 1) [] ++ lines := by
        rw [List.replicate_succ', List.append_assoc, List.singleton_append]
      rw [hrow] at h
      have hlt : run < maxBlankLines := h (run + 1) (List.prefix_append _ _).isInfix
      rw [limitBlankLines_nil_cons hlt, ih h]
    · rw [limitBlankLines_cons_of_ne_nil hempty, ih fun count hcount ↦ h count ?_]
      exact hcount.trans ((List.suffix_cons line lines).trans (List.suffix_append _ _)).isInfix

end Limit

section Trim

variable {line : List Char} {lines before more : List (List Char)}

theorem mem_of_mem_trimLines (h : line ∈ trimLines lines) : line ∈ lines :=
  (List.dropWhile_suffix _).subset ((List.rdropWhile_prefix _ _).subset h)

theorem trimLines_isInfix (lines : List (List Char)) : trimLines lines <:+: lines :=
  (List.rdropWhile_prefix _ _).isInfix.trans (List.dropWhile_suffix _).isInfix

theorem dropWhile_append_cons {α : Type} {p : α → Bool} {x : α} (h : ¬p x = true)
    (before more : List α) :
    (before ++ x :: more).dropWhile p = before.dropWhile p ++ x :: more := by
  rw [List.dropWhile_append]
  split
  · next hnil => rw [List.isEmpty_iff.mp hnil, List.dropWhile_cons_of_neg h, List.nil_append]
  · rfl

theorem rdropWhile_append_cons {α : Type} {p : α → Bool} {x : α} (h : ¬p x = true)
    (before more : List α) :
    (before ++ x :: more).rdropWhile p = before ++ x :: more.rdropWhile p := by
  rw [List.rdropWhile, List.reverse_append, List.reverse_cons, List.append_assoc,
    List.singleton_append, dropWhile_append_cons h]
  simp [List.rdropWhile]

theorem trimLines_append_cons (h : line ≠ []) (before more : List (List Char)) :
    trimLines (before ++ line :: more) =
      before.dropWhile List.isEmpty ++ line :: more.rdropWhile List.isEmpty := by
  have hline : ¬line.isEmpty = true := by simpa using h
  rw [trimLines, dropWhile_append_cons hline, rdropWhile_append_cons hline]

theorem getLast?_rdropWhile_not {α : Type} (p : α → Bool) (xs : List α) :
    ∀ x ∈ (xs.rdropWhile p).getLast?, p x = false := by
  intro x hx
  have hhead := List.head?_dropWhile_not p xs.reverse
  rw [← List.getLast?_reverse] at hhead
  change match (xs.rdropWhile p).getLast? with | some x => p x = false | none => True at hhead
  rwa [hx] at hhead

theorem head_trimLines_ne_nil (lines : List (List Char)) :
    ∀ line ∈ (trimLines lines).head?, line ≠ [] := by
  intro line hline
  obtain ⟨more, hmore⟩ := List.rdropWhile_prefix List.isEmpty (lines.dropWhile List.isEmpty)
  have hhead := List.head?_dropWhile_not List.isEmpty lines
  rw [← hmore, List.head?_append, ← trimLines, hline] at hhead
  simpa using hhead

theorem last_trimLines_ne_nil (lines : List (List Char)) :
    ∀ line ∈ (trimLines lines).getLast?, line ≠ [] := by
  intro line hline
  simpa using getLast?_rdropWhile_not List.isEmpty _ line hline

theorem codeLines_dropWhile (lines : List (List Char)) :
    codeLines (lines.dropWhile List.isEmpty) = codeLines lines := by
  conv_rhs => rw [← List.takeWhile_append_dropWhile (p := List.isEmpty) (l := lines)]
  rw [codeLines_append, codeLines_of_isEmpty fun line ↦ List.mem_takeWhile_imp, List.nil_append]

theorem codeLines_rdropWhile (lines : List (List Char)) :
    codeLines (lines.rdropWhile List.isEmpty) = codeLines lines := by
  conv_rhs => rw [← List.rdropWhile_append_rtakeWhile (p := List.isEmpty) (l := lines)]
  rw [codeLines_append, codeLines_of_isEmpty fun line ↦ List.mem_rtakeWhile_imp, List.append_nil]

end Trim

section Feeds

variable {line : List Char} {lines : List (List Char)}

theorem joinLines_cons (h : lines ≠ []) (line : List Char) :
    joinLines (line :: lines) = line ++ '\n' :: joinLines lines := by
  rw [joinLines, List.intercalate_cons_of_ne_nil h, List.append_assoc, List.singleton_append,
    joinLines]

theorem joinLines_concat (h : lines ≠ []) (last : List Char) :
    joinLines (lines ++ [last]) = joinLines lines ++ '\n' :: last := by
  induction lines with
  | nil => exact absurd rfl h
  | cons line lines ih =>
    by_cases hnil : lines = []
    · subst hnil
      simp [joinLines]
    · rw [List.cons_append, joinLines_cons (by simp), joinLines_cons hnil, ih hnil,
        List.append_assoc, List.cons_append]

/-- Line feeds in front of a text belong to empty lines. -/
theorem dropWhile_joinLines (h : ∀ line ∈ lines, '\n' ∉ line) :
    (joinLines lines).dropWhile (· == '\n') = joinLines (lines.dropWhile List.isEmpty) := by
  induction lines with
  | nil => rfl
  | cons line lines ih =>
    have hlines : ∀ line ∈ lines, '\n' ∉ line := fun line hline ↦ h line (.tail _ hline)
    cases line with
    | nil =>
      rw [List.dropWhile_cons_of_pos rfl, ← ih hlines]
      by_cases hnil : lines = []
      · subst hnil
        rfl
      · rw [joinLines_cons hnil, List.nil_append, List.dropWhile_cons_of_pos rfl]
    | cons c line =>
      have hc : ¬(c == '\n') = true := fun he ↦
        h _ (.head _) (by rw [eq_of_beq he]; exact .head _)
      rw [List.dropWhile_cons_of_neg (by simp)]
      by_cases hnil : lines = []
      · subst hnil
        rw [joinLines, List.intercalate_singleton]
        exact List.dropWhile_cons_of_neg hc
      · rw [joinLines_cons hnil, List.cons_append]
        exact List.dropWhile_cons_of_neg hc

theorem rdropWhile_joinLines (h : ∀ line ∈ lines, '\n' ∉ line) :
    (joinLines lines).rdropWhile (· == '\n') = joinLines (lines.rdropWhile List.isEmpty) := by
  induction lines using List.reverseRecOn with
  | nil => rfl
  | append_singleton lines line ih =>
    have hlines : ∀ line ∈ lines, '\n' ∉ line := fun line hline ↦
      h line (List.mem_append_left _ hline)
    rcases List.eq_nil_or_concat' line with rfl | ⟨start, c, rfl⟩
    · rw [List.rdropWhile_concat_pos _ _ _ rfl, ← ih hlines]
      by_cases hnil : lines = []
      · subst hnil
        rfl
      · rw [joinLines_concat hnil, List.rdropWhile_concat_pos _ _ _ rfl]
    · have hc : ¬(c == '\n') = true := fun he ↦
        h _ (List.mem_append_right _ (.head _)) (by rw [eq_of_beq he]; simp)
      rw [List.rdropWhile_concat_neg _ _ _ (by simp)]
      by_cases hnil : lines = []
      · subst hnil
        rw [List.nil_append, joinLines, List.intercalate_singleton]
        exact List.rdropWhile_concat_neg _ _ _ hc
      · rw [joinLines_concat hnil, ← List.cons_append, ← List.append_assoc]
        exact List.rdropWhile_concat_neg _ _ _ hc

theorem getLast?_trimFeeds (cs : List Char) : ∀ c ∈ (trimFeeds cs).getLast?, c ≠ '\n' := by
  intro c hc
  simpa using getLast?_rdropWhile_not (· == '\n') _ c hc

theorem trimFeeds_joinLines (h : ∀ line ∈ lines, '\n' ∉ line) :
    trimFeeds (joinLines lines) = joinLines (trimLines lines) := by
  rw [trimLines, ← rdropWhile_joinLines fun line hline ↦
    h line ((List.dropWhile_suffix _).subset hline), ← dropWhile_joinLines h]
  rfl

end Feeds

section Tidy

variable {cs : List Char} {lines : List (List Char)}

theorem limitedLines_spec (cs : List Char) :
    ∀ line ∈ limitBlankLines 0 ((splitLines cs).map trimEnd),
      '\n' ∉ line ∧ ∀ c ∈ line.getLast?, isBlank c = false := by
  intro line hline
  obtain ⟨part, hpart, rfl⟩ := List.mem_map.mp ((limitBlankLines_sublist _ _).subset hline)
  refine ⟨fun hfeed ↦ ?_, getLast?_rdropWhile_not isBlank part⟩
  exact not_mem_of_mem_split hpart ((trimEnd_isPrefix part).subset hfeed)

theorem isBlankLine_limited {line : List Char}
    (h : line ∈ limitBlankLines 0 ((splitLines cs).map trimEnd)) :
    isBlankLine line = line.isEmpty :=
  isBlankLine_of_trimmed (trimEnd_eq_self (limitedLines_spec cs line h).2)

theorem toList_tidy (code : String) :
    (tidy code).toList = joinLines (tidyLines code.toList) ++ ['\n'] := by
  rw [tidy, String.toList_ofList, tidyLines,
    trimFeeds_joinLines fun line hline ↦ (limitedLines_spec _ line hline).1]

theorem isTidy_tidyLines (cs : List Char) : IsTidy (tidyLines cs) where
  no_feed line hline := (limitedLines_spec cs line (mem_of_mem_trimLines hline)).1
  no_blank_end line hline := (limitedLines_spec cs line (mem_of_mem_trimLines hline)).2
  few_blank run hrun hblank := by
    have hlimited := hrun.trans (trimLines_isInfix _)
    have hempty : run = List.replicate run.length [] := by
      refine List.eq_replicate_iff.mpr ⟨rfl, fun line hline ↦ ?_⟩
      rw [← List.isEmpty_iff, ← isBlankLine_limited (hlimited.subset hline), hblank line hline]
    rw [hempty] at hlimited
    exact le_of_replicate_infix_limitBlankLines hlimited
  first line hline := by
    rw [isBlankLine_limited (mem_of_mem_trimLines (List.mem_of_mem_head? hline))]
    simpa using head_trimLines_ne_nil _ line hline
  last line hline := by
    rw [isBlankLine_limited (mem_of_mem_trimLines (List.mem_of_mem_getLast? hline))]
    simpa using last_trimLines_ne_nil _ line hline

theorem codeLines_tidyLines (cs : List Char) :
    codeLines (tidyLines cs) = (codeLines (splitLines cs)).map trimEnd := by
  rw [tidyLines, trimLines, codeLines_rdropWhile, codeLines_dropWhile, codeLines_limitBlankLines,
    codeLines_map_trimEnd]

theorem tidyLines_eq_nil_iff (cs : List Char) :
    tidyLines cs = [] ↔ isBlankLine cs = true := by
  have hcode : codeLines (tidyLines cs) = [] ↔ isBlankLine cs = true := by
    rw [codeLines_tidyLines, List.map_eq_nil_iff, codeLines_eq_nil_iff, isBlankLine_iff_splitLines]
  refine ⟨fun h ↦ hcode.mp (by rw [h]; rfl), fun h ↦ ?_⟩
  cases hlines : tidyLines cs with
  | nil => rfl
  | cons line lines =>
    have hmem : line ∈ tidyLines cs := by rw [hlines]; exact .head _
    have hfirst := (isTidy_tidyLines cs).first line (by rw [hlines]; rfl)
    rw [codeLines_eq_nil_iff.mp (hcode.mpr h) line hmem] at hfirst
    cases hfirst

/-- Between two lines of code as many empty lines are left as there are blank ones, but two at
most. -/
theorem tidyLines_gap {x y : List Char} {before blanks after : List (List Char)}
    (h : splitLines cs = before ++ x :: (blanks ++ y :: after)) (hx : isBlankLine x = false)
    (hblanks : ∀ line ∈ blanks, isBlankLine line = true) (hy : isBlankLine y = false) :
    ∃ before' after', tidyLines cs = before' ++ trimEnd x ::
        (List.replicate (min 2 blanks.length) [] ++ trimEnd y :: after') ∧
      codeLines before' = (codeLines before).map trimEnd ∧
      codeLines after' = (codeLines after).map trimEnd := by
  have hne {line : List Char} (hline : isBlankLine line = false) : trimEnd line ≠ [] := by
    rw [Ne, trimEnd_eq_nil_iff, hline]
    exact Bool.false_ne_true
  have hempty : blanks.map trimEnd = List.replicate blanks.length [] := by
    rw [List.eq_replicate_iff, List.length_map]
    refine ⟨rfl, fun line hline ↦ ?_⟩
    obtain ⟨blank, hblank, rfl⟩ := List.mem_map.mp hline
    exact trimEnd_eq_nil_iff.mpr (hblanks blank hblank)
  refine ⟨(limitBlankLines 0 (before.map trimEnd)).dropWhile List.isEmpty,
    (limitBlankLines 0 (after.map trimEnd)).rdropWhile List.isEmpty, ?_, ?_, ?_⟩
  · rw [tidyLines, h, List.map_append, List.map_cons, List.map_append, List.map_cons, hempty,
      limitBlankLines_append_cons (hne hx), limitBlankLines_replicate (hne hy),
      trimLines_append_cons (hne hx), rdropWhile_append_cons (by simpa using hne hy)]
    rfl
  · rw [codeLines_dropWhile, codeLines_limitBlankLines, codeLines_map_trimEnd]
  · rw [codeLines_rdropWhile, codeLines_limitBlankLines, codeLines_map_trimEnd]

theorem IsTidy.tidyLines_eq (h : IsTidy lines) : tidyLines (joinLines lines ++ ['\n']) = lines := by
  rcases List.eq_nil_or_concat' lines with rfl | ⟨before, last, rfl⟩
  · rfl
  have hne {line : List Char} (hline : isBlankLine line = false) : line ≠ [] := by
    rintro rfl
    cases hline
  have hlast : last ≠ [] := hne (h.last last List.getLast?_concat)
  have hsplit : splitLines (joinLines (before ++ [last]) ++ ['\n']) =
      (before ++ [last]) ++ [[]] := by
    have hfeed : ∀ line ∈ (before ++ [last]) ++ [[]], '\n' ∉ line :=
      List.forall_mem_append.mpr ⟨h.no_feed, by simp⟩
    rw [← joinLines_concat (by simp), splitLines, joinLines, split_intercalate (by simp) hfeed]
  have htrim : ((before ++ [last]) ++ [[]]).map trimEnd = before ++ last :: [[]] := by
    have hsame : ∀ line ∈ (before ++ [last]) ++ [[]], trimEnd line = id line := by
      refine List.forall_mem_append.mpr ⟨fun line hline ↦ ?_, by simp [trimEnd_nil]⟩
      exact trimEnd_eq_self (h.no_blank_end line hline)
    rw [List.map_congr_left hsame, List.map_id, List.append_assoc, List.singleton_append]
  have hlimit : limitBlankLines 0 before = before := by
    refine limitBlankLines_eq_self fun count hcount ↦ ?_
    have hfew := h.few_blank _ (hcount.trans (List.prefix_append before [last]).isInfix)
      fun line hline ↦ by rw [List.eq_of_mem_replicate hline]; rfl
    rwa [List.length_replicate] at hfew
  have hfirst : before.dropWhile List.isEmpty = before := by
    cases before with
    | nil => rfl
    | cons line before =>
      exact List.dropWhile_cons_of_neg (by simpa using hne (h.first line rfl))
  rw [tidyLines, hsplit, htrim, limitBlankLines_append_cons hlast, hlimit,
    trimLines_append_cons hlast, hfirst]
  rfl

/-- A tidy text is made of tidy lines, each with a line feed behind it, or is a line feed alone. -/
theorem tidy_normalForm (code : String) :
    ∃ lines, (tidy code).toList = joinLines lines ++ ['\n'] ∧
      (∀ c ∈ (joinLines lines).getLast?, c ≠ '\n') ∧ IsTidy lines ∧
      (lines = [] ↔ isBlankLine code.toList = true) ∧
      codeLines lines = (codeLines (splitLines code.toList)).map trimEnd ∧
      (∀ before x blanks y after,
        splitLines code.toList = before ++ x :: (blanks ++ y :: after) →
        isBlankLine x = false → (∀ line ∈ blanks, isBlankLine line = true) →
        isBlankLine y = false →
        ∃ before' after', lines = before' ++ trimEnd x ::
            (List.replicate (min 2 blanks.length) [] ++ trimEnd y :: after') ∧
          codeLines before' = (codeLines before).map trimEnd ∧
          codeLines after' = (codeLines after).map trimEnd) ∧
      tidy (tidy code) = tidy code := by
  have htidy := isTidy_tidyLines code.toList
  refine ⟨tidyLines code.toList, toList_tidy code, ?_, htidy, tidyLines_eq_nil_iff _,
    codeLines_tidyLines _, fun before x blanks y after ↦ tidyLines_gap, ?_⟩
  · rw [tidyLines, ← trimFeeds_joinLines fun line hline ↦ (limitedLines_spec _ line hline).1]
    exact getLast?_trimFeeds _
  · rw [← String.toList_inj, toList_tidy, toList_tidy, htidy.tidyLines_eq]

example : tidy "\n\n  a = 1; \t\n\n \n\n\n b\n \n" = "  a = 1;\n\n\n b\n" := by decide

end Tidy

end Boilerplate.Text
