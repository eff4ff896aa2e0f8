import Boilerplate.Proofs.Source.StatementPlace

namespace Boilerplate.Source

/-- Whether a symbol stands in a run outside all brackets. -/
def HasOutside (mark : String) (run : List Token) : Prop :=
  ∃ before t, before ++ [t] <+: run ∧ bracketDepth before = 0 ∧ t.isSymbol mark = true

/-- A run that no token in it ends, with so many brackets left open. Outside all brackets it has no
semicolon, and an opening brace only behind an equals sign. -/
structure IsUnended (depth : Nat) (run : List Token) : Prop where
  isOpen : IsOpen depth run
  no_semicolon : ¬HasOutside ";" run
  brace_behind_sign : ∀ before t, before ++ [t] <+: run → bracketDepth before = 0 →
    t.isSymbol "\x7b" = true → HasOutside "=" before

/-- A statement on a line: what is dropped in front of it, its tokens and its semicolon. -/
structure StatementPart where
  gap : List Token
  run : List Token
  mark : Token
  isUnended : IsUnended 0 run
  mark_isSymbol : mark.isSymbol ";" = true

def StatementPart.tokens (part : StatementPart) : List Token :=
  part.gap ++ (part.run ++ [part.mark])

section Runs

variable {depth next : Nat} {mark : String} {run start : List Token} {t : Token}

theorem HasOutside.of_start (h : HasOutside mark start) (hs : start <+: run) :
    HasOutside mark run := by
  obtain ⟨before, t, hb, hrest⟩ := h
  exact ⟨before, t, hb.trans hs, hrest⟩

theorem not_hasOutside_nil : ¬HasOutside mark [] := by
  intro h
  obtain ⟨before, t, hb, -⟩ := h
  simp at hb

theorem not_hasOutside_of_forall (h : ∀ t ∈ run, t.isSymbol mark = false) :
    ¬HasOutside mark run := by
  intro ho
  obtain ⟨before, t, hb, -, ht⟩ := ho
  rw [h t (hb.subset (by simp))] at ht
  cases ht

theorem hasOutside_concat_iff : HasOutside mark (run ++ [t]) ↔
    HasOutside mark run ∨ bracketDepth run = 0 ∧ t.isSymbol mark = true := by
  constructor
  · intro h
    obtain ⟨before, u, hb, hdepth, hu⟩ := h
    rcases List.prefix_concat_iff.mp hb with he | hb
    · obtain ⟨rfl, ht⟩ := List.append_inj' he rfl
      obtain rfl := List.singleton_inj.mp ht
      exact .inr ⟨hdepth, hu⟩
    · exact .inl ⟨before, u, hb, hdepth, hu⟩
  · intro h
    rcases h with h | ⟨hdepth, ht⟩
    · exact h.of_start (List.prefix_append _ _)
    · exact ⟨run, t, List.prefix_rfl, hdepth, ht⟩

theorem isUnended_nil : IsUnended 0 [] := by
  refine ⟨isOpen_nil, not_hasOutside_nil, fun before t hb ↦ ?_⟩
  simp at hb

theorem IsUnended.concat (h : IsUnended depth run) (hnext : bracketDepth (run ++ [t]) = next)
    (hsemicolon : depth = 0 → t.isSymbol ";" = false)
    (hbrace : depth = 0 → t.isSymbol "\x7b" = true → HasOutside "=" run) :
    IsUnended next (run ++ [t]) := by
  have hzero : bracketDepth run = 0 → depth = 0 := by
    intro hd
    rw [h.isOpen.1] at hd
    exact_mod_cast hd
  refine ⟨h.isOpen.concat hnext, fun ho ↦ ?_, fun before u hb hdepth hu ↦ ?_⟩
  · rcases hasOutside_concat_iff.mp ho with ho | ⟨hd, ht⟩
    · exact h.no_semicolon ho
    · rw [hsemicolon (hzero hd)] at ht
      cases ht
  · rcases List.prefix_concat_iff.mp hb with he | hb
    · obtain ⟨rfl, ht⟩ := List.append_inj' he rfl
      obtain rfl := List.singleton_inj.mp ht
      exact hbrace (hzero hdepth) hu
    · exact h.brace_behind_sign before u hb hdepth hu

theorem IsUnended.of_start (h : IsUnended depth run) (hs : start <+: run) :
    ∃ depth, IsUnended depth start := by
  have hdepth := (Int.toNat_of_nonneg (h.isOpen.2 start hs)).symm
  refine ⟨(bracketDepth start).toNat, ⟨hdepth, ?_⟩, ?_, ?_⟩
  · exact fun start' hs' ↦ h.isOpen.2 start' (hs'.trans hs)
  · exact fun ho ↦ h.no_semicolon (ho.of_start hs)
  · exact fun before t hb ↦ h.brace_behind_sign before t (hb.trans hs)

end Runs

section Reading

variable {depth next : Nat} {run line rest start : List Token} {t : Token} {initializer : Bool}

theorem statementsFrom_joins (h : IsUnended depth run) (h' : IsUnended next (run ++ [t]))
    (hi : initializer = true ↔ HasOutside "=" run) :
    ∃ initializer', (initializer' = true ↔ HasOutside "=" (run ++ [t])) ∧ ∀ rest,
      statementsFrom run.reverse depth initializer (t :: rest) =
        statementsFrom (run ++ [t]).reverse next initializer' rest := by
  have hdepth := h.isOpen.1
  have hnext := h'.isOpen.1
  rw [bracketDepth_concat, hdepth] at hnext
  rw [List.reverse_append, List.reverse_singleton, List.singleton_append]
  by_cases hsemicolon : t.isSymbol ";" = true ∧ depth = 0
  · obtain ⟨ht, rfl⟩ := hsemicolon
    exact absurd (hasOutside_concat_iff.mpr (.inr ⟨hdepth, ht⟩)) h'.no_semicolon
  by_cases hsign : t.isSymbol "=" = true ∧ depth = 0
  · obtain ⟨ho, hc⟩ := not_bracket_of_isSymbol hsign.1 (by decide)
    obtain rfl : depth = next := Int.ofNat_inj.mp (by simpa [ho, hc] using hnext)
    refine ⟨true, ?_, fun rest ↦ ?_⟩
    · simpa using hasOutside_concat_iff.mpr (.inr ⟨by simp [hdepth, hsign.2], hsign.1⟩)
    · rw [statementsFrom.eq_def]
      simp only [if_neg hsemicolon, if_pos hsign]
  have hi' : initializer = true ↔ HasOutside "=" (run ++ [t]) := by
    rw [hasOutside_concat_iff, hi]
    refine ⟨.inl, fun ho ↦ ho.resolve_right fun hx ↦ hsign ⟨hx.2, ?_⟩⟩
    rw [hdepth] at hx
    exact_mod_cast hx.1
  refine ⟨initializer, hi', fun rest ↦ ?_⟩
  have hbrace : ¬(t.isSymbol "\x7b" = true ∧ depth = 0 ∧ (!initializer) = true) := by
    intro hx
    obtain ⟨ht, rfl, hno⟩ := hx
    have hbehind := h'.brace_behind_sign run t List.prefix_rfl hdepth ht
    simp [hi.mpr hbehind] at hno
  rw [statementsFrom.eq_def]
  simp only [if_neg hsemicolon, if_neg hsign, if_neg hbrace]
  by_cases ho : t.isOpener = true
  · have hc := isCloser_eq_false_of_isOpener ho
    obtain rfl : depth + 1 = next := Int.ofNat_inj.mp (by simpa [ho, hc] using hnext)
    rw [if_pos ho]
  by_cases hc : t.isCloser = true
  · rw [if_neg ho, if_pos hc]
    cases depth with
    | zero => simp [ho, hc] at hnext
    | succ depth =>
      obtain rfl : depth = next := Int.ofNat_inj.mp (by simpa [ho, hc] using hnext)
      rfl
  · obtain rfl : depth = next := Int.ofNat_inj.mp (by simpa [ho, hc] using hnext)
    rw [if_neg ho, if_neg hc]

theorem statements_append (h : IsUnended depth run) :
    ∃ initializer, (initializer = true ↔ HasOutside "=" run) ∧
      ∀ rest, statements (run ++ rest) = statementsFrom run.reverse depth initializer rest := by
  induction run using List.reverseRecOn generalizing depth with
  | nil =>
    obtain rfl : depth = 0 := by simpa [bracketDepth] using h.isOpen.1.symm
    exact ⟨false, by simp [not_hasOutside_nil], fun rest ↦ rfl⟩
  | append_singleton run t ih =>
    obtain ⟨before, hbefore⟩ := h.of_start (List.prefix_append run [t])
    obtain ⟨initializer, hi, hread⟩ := ih hbefore
    obtain ⟨initializer', hi', hjoin⟩ := statementsFrom_joins hbefore h hi
    refine ⟨initializer', hi', fun rest ↦ ?_⟩
    rw [List.append_assoc, List.singleton_append, hread, hjoin]

theorem statements_append_semicolon (h : IsUnended 0 run) (ht : t.isSymbol ";" = true) :
    statements (run ++ t :: rest) = run :: statements rest := by
  obtain ⟨initializer, -, hread⟩ := statements_append h
  rw [hread, statementsFrom, if_pos ⟨ht, rfl⟩, List.reverse_reverse]
  rfl

theorem statements_append_brace (h : IsUnended 0 run) (hsign : ¬HasOutside "=" run)
    (ht : t.isSymbol "\x7b" = true) : statements (run ++ t :: rest) = statements rest := by
  obtain ⟨initializer, hi, hread⟩ := statements_append h
  obtain rfl : initializer = false := by simpa [hsign] using hi
  rw [hread, statementsFrom, if_neg (by simp [Token.isSymbol_eq_false ht]),
    if_neg (by simp [Token.isSymbol_eq_false ht]), if_pos ⟨ht, rfl, rfl⟩]
  rfl

theorem statements_append_closer (h : IsUnended 0 run) (ht : t.isCloser = true) :
    statements (run ++ t :: rest) = statements rest := by
  obtain ⟨initializer, -, hread⟩ := statements_append h
  rw [hread, statementsFrom, if_neg (by simp [isSymbol_eq_false_of_isCloser ht]),
    if_neg (by simp [isSymbol_eq_false_of_isCloser ht]),
    if_neg (by simp [isSymbol_eq_false_of_isCloser ht]),
    if_neg (by simp [isOpener_eq_false_of_isCloser ht]), if_pos ht]
  rfl

theorem statements_unended (h : IsUnended depth run) : statements run = [] := by
  obtain ⟨initializer, -, hread⟩ := statements_append h
  rw [← List.append_nil run, hread, statementsFrom]

def EndsRun (run : List Token) (t : Token) : Prop :=
  t.isSymbol ";" = true ∨ (t.isSymbol "\x7b" = true ∧ ¬HasOutside "=" run) ∨ t.isCloser = true

/-- A line goes up to the first token that ends a run, or has none. -/
theorem exists_first_end (line : List Token) : (∃ depth, IsUnended depth line) ∨
    ∃ run t rest, line = run ++ t :: rest ∧ IsUnended 0 run ∧ EndsRun run t := by
  induction line using List.reverseRecOn with
  | nil => exact .inl ⟨0, isUnended_nil⟩
  | append_singleton line t ih =>
    rcases ih with ⟨depth, h⟩ | ⟨run, u, rest, rfl, h, hu⟩
    · by_cases hend : depth = 0 ∧ EndsRun line t
      · obtain ⟨rfl, hend⟩ := hend
        exact .inr ⟨line, t, [], rfl, h, hend⟩
      have hnonneg : 0 ≤ bracketDepth (line ++ [t]) := by
        rw [bracketDepth_concat, h.isOpen.1]
        by_cases hc : t.isCloser = true
        · have hd : depth ≠ 0 := fun hd ↦ hend ⟨hd, .inr (.inr hc)⟩
          rw [if_neg (by simp [isOpener_eq_false_of_isCloser hc]), if_pos hc]
          omega
        · rw [if_neg hc]
          split <;> omega
      refine .inl ⟨_, h.concat (Int.toNat_of_nonneg hnonneg).symm (fun hd ↦ ?_) fun hd ht ↦ ?_⟩
      · by_contra ht
        exact hend ⟨hd, .inl (by simpa using ht)⟩
      · by_contra hsign
        exact hend ⟨hd, .inr (.inl ⟨ht, hsign⟩)⟩
    · exact .inr ⟨run, u, rest ++ [t], by simp, h, hu⟩

theorem exists_statementParts (line : List Token) : ∃ (parts : List StatementPart)
    (rest : List Token), line = parts.flatMap (·.tokens) ++ rest ∧
      statements line = parts.map (·.run) := by
  induction hlength : line.length using Nat.strong_induction_on generalizing line with
  | _ length ih =>
  rcases exists_first_end line with ⟨depth, h⟩ | ⟨run, t, rest, rfl, h, hend⟩
  · exact ⟨[], line, rfl, statements_unended h⟩
  have hshort : rest.length < length := by
    rw [← hlength, List.length_append, List.length_cons]
    omega
  obtain ⟨parts, last, hrest, hparts⟩ := ih rest.length hshort rest rfl
  -- What ends without a semicolon joins the gap in front of the next statement.
  have hdrop (he : statements (run ++ t :: rest) = statements rest) :
      ∃ (parts : List StatementPart) (last : List Token),
        run ++ t :: rest = parts.flatMap (·.tokens) ++ last ∧
          statements (run ++ t :: rest) = parts.map (·.run) := by
    rw [he, hparts, hrest]
    cases parts with
    | nil => exact ⟨[], run ++ t :: last, rfl, rfl⟩
    | cons part parts =>
      refine ⟨⟨run ++ t :: part.gap, part.run, part.mark, part.isUnended, part.mark_isSymbol⟩ ::
        parts, last, ?_, rfl⟩
      simp [StatementPart.tokens]
  rcases hend with ht | ⟨ht, hsign⟩ | ht
  · refine ⟨⟨[], run, t, h, ht⟩ :: parts, last, ?_, ?_⟩
    · rw [hrest]
      simp [StatementPart.tokens]
    · rw [statements_append_semicolon h ht, hparts]
      rfl
  · exact hdrop (statements_append_brace h hsign ht)
  · exact hdrop (statements_append_closer h ht)

/-- Statements are what semicolons end outside all brackets. An opening brace that belongs to no
initializer, or a bracket that is not opened on the line, drops what stands in front of it. -/
theorem statements_split :
    (∀ run t rest, IsUnended 0 run → t.isSymbol ";" = true →
      statements (run ++ t :: rest) = run :: statements rest) ∧
    (∀ run t rest, IsOpen 0 run → (∀ mark ∈ [";", "=", "\x7b"], ¬HasOutside mark run) →
      t.isSymbol "\x7b" = true → statements (run ++ t :: rest) = statements rest) ∧
    (∀ run t rest, IsUnended 0 run → t.isCloser = true →
      statements (run ++ t :: rest) = statements rest) ∧
    (∀ run start, IsUnended 0 run → start <+: run → statements start = []) ∧
    ∀ line, ∃ (parts : List StatementPart) (rest : List Token),
      line = parts.flatMap (·.tokens) ++ rest ∧ statements line = parts.map (·.run) := by
  refine ⟨fun run t rest h ht ↦ statements_append_semicolon h ht, fun run t rest h hno ht ↦ ?_,
    fun run t rest h ht ↦ statements_append_closer h ht, fun run start h hs ↦ ?_,
    exists_statementParts⟩
  · simp only [List.forall_mem_cons] at hno
    obtain ⟨hsemicolon, hsign, hbrace, -⟩ := hno
    exact statements_append_brace
      ⟨h, hsemicolon, fun before u hb hd hu ↦ absurd ⟨before, u, hb, hd, hu⟩ hbrace⟩ hsign ht
  · obtain ⟨depth, hstart⟩ := h.of_start hs
    exact statements_unended hstart

theorem statements_split_initializer :
    let name : Token := ⟨.word, "a", 1, []⟩
    let sign (mark : String) : Token := ⟨.symbol, mark, 1, []⟩
    let run := [name, sign "=", sign "\x7b", sign ";", sign "\x7d"]
    let header := [name, sign "(", sign ")"]
    IsUnended 0 run ∧ IsOpen 0 header ∧
      (∀ mark ∈ [";", "=", "\x7b"], ¬HasOutside mark header) ∧
      statements (header ++ sign "\x7b" :: (run ++ sign ";" :: (run ++ sign "\x7d" :: run))) =
        [run] := by
  intro name sign run header
  have hname : IsUnended 0 [name] :=
    isUnended_nil.concat (by decide) (fun _ ↦ by decide) (fun _ h ↦ absurd h (by decide))
  have hsign : IsUnended 0 [name, sign "="] :=
    hname.concat (by decide) (fun _ ↦ by decide) (fun _ h ↦ absurd h (by decide))
  have hopen : IsUnended 1 [name, sign "=", sign "\x7b"] :=
    hsign.concat (by decide) (fun _ ↦ by decide)
      (fun _ _ ↦ ⟨[name], sign "=", List.prefix_rfl, by decide, by decide⟩)
  have hinside : IsUnended 1 [name, sign "=", sign "\x7b", sign ";"] :=
    hopen.concat (by decide) (fun h ↦ absurd h (by decide)) (fun h ↦ absurd h (by decide))
  have hrun : IsUnended 0 run :=
    hinside.concat (by decide) (fun h ↦ absurd h (by decide)) (fun h ↦ absurd h (by decide))
  have hround : IsUnended 1 [name, sign "("] :=
    hname.concat (by decide) (fun _ ↦ by decide) (fun _ h ↦ absurd h (by decide))
  have hheader : IsUnended 0 header :=
    hround.concat (by decide) (fun h ↦ absurd h (by decide)) (fun h ↦ absurd h (by decide))
  have hno : ∀ mark ∈ [";", "=", "\x7b"], ¬HasOutside mark header := by
    have hall : ∀ mark ∈ [";", "=", "\x7b"], ∀ t ∈ header, t.isSymbol mark = false := by decide
    exact fun mark hm ↦ not_hasOutside_of_forall (hall mark hm)
  obtain ⟨hsemicolon, hbrace, hcloser, hprefix, -⟩ := statements_split
  refine ⟨hrun, hheader.isOpen, hno, ?_⟩
  rw [hbrace _ _ _ hheader.isOpen hno (by decide), hsemicolon _ _ _ hrun (by decide),
    hcloser _ _ _ hrun (by decide), hprefix run run hrun List.prefix_rfl]

end Reading

end Boilerplate.Source
