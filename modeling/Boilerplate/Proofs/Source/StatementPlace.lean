import Boilerplate.Proofs.Source.Findings

namespace Boilerplate.Source

section Lines

variable {line : Nat} {ts : List Token} {placed : List Placed}

theorem scan_sorted {surrogates : List (Nat × Nat)} {marked cs : List Char}
    (h : scan surrogates marked line cs = .ok placed) :
    List.IsChain (· ≤ ·) (line :: placed.map (·.line)) := by
  fun_induction scan surrogates marked line cs generalizing placed with
  | case1 =>
    obtain rfl : [] = placed := Except.ok.inj h
    exact .singleton _
  | case2 marked line c rest feeds after hs _ ih =>
    exact (ih h).imp_head fun hle ↦ (Nat.le_add_right _ _).trans hle
  | case3 marked line c rest l after hs _ ih =>
    obtain ⟨more, hscan, rfl⟩ := map_eq_ok_iff.mp h
    exact .cons_cons le_rfl (ih hscan)
  | case4 => cases h

theorem qualifiedName_suffix (name : String) (placed : List Placed) :
    (qualifiedName name placed).2 <:+ placed := by
  fun_induction qualifiedName name placed with
  | case1 name dot part rest next hpart hdot ih =>
    exact ih.trans ((List.suffix_cons part rest).trans (List.suffix_cons dot (part :: rest)))
  | case2 | case3 => exact List.suffix_rfl

theorem line_of_mem_ofLexeme {l : Lexeme} {t : Token} (h : t ∈ Token.ofLexeme line l) :
    t.line = line := by
  cases l with
  | operator mark =>
    simp only [Token.ofLexeme] at h
    split at h
    · obtain ⟨-, rfl⟩ := List.mem_replicate.mp h
      rfl
    · obtain rfl := List.mem_singleton.mp h
      rfl
  | _ =>
    obtain rfl := List.mem_singleton.mp h
    rfl

theorem isChain_lines_append {first : Nat} {us : List Token} (hu : ∀ t ∈ us, t.line = line)
    (hle : first ≤ line) (h : List.IsChain (· ≤ ·) (line :: ts.map (·.line))) :
    List.IsChain (· ≤ ·) (first :: (us ++ ts).map (·.line)) := by
  induction us generalizing first with
  | nil => exact h.imp_head fun h ↦ hle.trans h
  | cons u us ih =>
    have hline : u.line = line := hu u (.head _)
    exact .cons_cons (hle.trans hline.ge) (ih (fun t ht ↦ hu t (.tail _ ht)) hline.le)

theorem ofLexemes_sorted {first : Nat}
    (h : List.IsChain (· ≤ ·) (first :: placed.map (·.line))) :
    List.IsChain (· ≤ ·) (first :: (Token.ofLexemes placed).map (·.line)) := by
  -- Each lexeme leaves the lexemes of a suffix, and these stand on its line or below.
  have hsuffix {line : Nat} {rest after : List Placed} (hs : after <:+ rest)
      (h : List.IsChain (· ≤ ·) (line :: rest.map (·.line))) :
      List.IsChain (· ≤ ·) (line :: after.map (·.line)) :=
    h.sublist ((hs.sublist.map _).cons_cons line)
  fun_induction Token.ofLexemes placed generalizing first with
  | case1 => exact h
  | case2 line name line' rest _ ih =>
    obtain ⟨hle, hrest⟩ := List.isChain_cons_cons.mp h
    refine .cons_cons hle (ih (hsuffix ?_ hrest))
    exact (qualifiedName_suffix name rest).trans (List.suffix_cons _ rest)
  | case3 line other rest _ ih =>
    obtain ⟨hle, hrest⟩ := List.isChain_cons_cons.mp h
    exact .cons_cons hle (ih (hsuffix (List.suffix_cons other rest) hrest))
  | case4 name line rest _ ih =>
    obtain ⟨hle, hrest⟩ := List.isChain_cons_cons.mp h
    exact .cons_cons hle (ih (hsuffix (qualifiedName_suffix name rest) hrest))
  | case5 l line rest _ _ _ ih =>
    obtain ⟨hle, hrest⟩ := List.isChain_cons_cons.mp h
    exact isChain_lines_append (fun t ht ↦ line_of_mem_ofLexeme ht) hle (ih hrest)

theorem tokens_sorted {source : String} (h : tokens source = .ok ts) :
    ts.Pairwise (·.line ≤ ·.line) := by
  obtain ⟨surrogates, cs, placed, hs, rfl⟩ := exists_scan h
  exact List.pairwise_map.mp (ofLexemes_sorted (scan_sorted hs)).tail.pairwise

theorem line_eq_of_mem_byLine {run : List Token} (h : run ∈ byLine ts) :
    ∀ a ∈ run, ∀ b ∈ run, a.line = b.line := by
  have hchain : (run.map (·.line)).IsChain (· = ·) :=
    (List.isChain_map _).mpr ((List.isChain_of_mem_splitBy h).imp fun _ _ hab ↦ eq_of_beq hab)
  intro a ha b hb
  exact hchain.pairwise.forall_of_forall (fun _ _ ↦ rfl) (List.mem_map_of_mem ha)
    (List.mem_map_of_mem hb)

theorem mem_byLine_split {run : List Token} (hs : ts.Pairwise (·.line ≤ ·.line))
    (h : run ∈ byLine ts) : ∃ before after line, ts = before ++ (run ++ after) ∧
      (∀ t ∈ run, t.line = line) ∧ ∀ t ∈ before, t.line < line := by
  obtain ⟨first, rest, hsplit⟩ := List.append_of_mem h
  have hne : run ≠ [] := List.ne_nil_of_mem_splitBy h
  have hts : ts = first.flatten ++ (run ++ rest.flatten) := by
    rw [← List.flatten_cons, ← List.flatten_append, ← hsplit, byLine, List.flatten_splitBy]
  refine ⟨first.flatten, rest.flatten, (run.head hne).line, hts,
    fun t ht ↦ line_eq_of_mem_byLine h t ht _ (List.head_mem hne), ?_⟩
  intro t ht
  rcases List.eq_nil_or_concat' first with rfl | ⟨firsts, last, rfl⟩
  · cases ht
  have hchain := List.isChain_getLast_head_splitBy (fun a b : Token ↦ a.line == b.line) ts
  rw [← byLine, hsplit] at hchain
  obtain ⟨hlast, _, hother⟩ := (List.isChain_append.mp hchain).2.2 last (by simp) run rfl
  rw [List.flatten_append, List.flatten_singleton] at ht hts
  obtain ⟨hbefore, -, hbelow⟩ := List.pairwise_append.mp (hts ▸ hs)
  have hle := hbefore.rel_getLast ht
  rw [List.getLast_append_of_ne_nil _ hlast] at hle
  have hhead := hbelow _ (List.mem_append_right _ (List.getLast_mem hlast)) (run.head hne)
    (List.mem_append_left _ (List.head_mem hne))
  exact hle.trans_lt (lt_of_le_of_ne hhead (beq_eq_false_iff_ne.mp hother))

end Lines

def statementBounds : List String := [";", "\x7b", "\x7d"]

/-- Whether what stands in front of a statement on its line is cut off from it: every end of it
that has no semicolon and no brace closes a bracket that it does not open. -/
def IsCutOff (before : List Token) : Prop :=
  ∀ part, part ≠ [] → part <:+ before →
    (∀ t ∈ part, ∀ mark ∈ statementBounds, t.isSymbol mark = false) →
    ∃ start, start <+: part ∧ bracketDepth start < 0

/-- A run that closes no bracket but those that it opens, of which `depth` are left open. -/
def IsOpen (depth : Nat) (run : List Token) : Prop :=
  bracketDepth run = depth ∧ ∀ start, start <+: run → 0 ≤ bracketDepth start

section Statements

variable {depth next : Nat} {run before part ts : List Token} {t : Token}

theorem isOpen_nil : IsOpen 0 [] := by
  refine ⟨rfl, fun start h ↦ ?_⟩
  obtain rfl := List.prefix_nil.mp h
  exact Int.le_refl 0

theorem bracketDepth_concat (run : List Token) (t : Token) : bracketDepth (run ++ [t]) =
    bracketDepth run + (if t.isOpener then 1 else 0) - if t.isCloser then 1 else 0 := by
  have hnil : bracketDepth [] = 0 := rfl
  rw [bracketDepth_append, bracketDepth_cons, hnil]
  omega

theorem IsOpen.concat (h : IsOpen depth run) (hnext : bracketDepth (run ++ [t]) = next) :
    IsOpen next (run ++ [t]) := by
  refine ⟨hnext, fun start hs ↦ ?_⟩
  rcases List.prefix_concat_iff.mp hs with rfl | hs
  · omega
  · exact h.2 start hs

theorem suffix_append_cons (h : part <:+ run ++ t :: before) :
    part <:+ before ∨ ∃ tail, tail <:+ run ∧ part = tail ++ t :: before := by
  obtain ⟨front, h⟩ := h
  rcases List.append_eq_append_iff.mp h with ⟨tail, rfl, rfl⟩ | ⟨tail, rfl, hb⟩
  · exact .inr ⟨tail, List.suffix_append front tail, rfl⟩
  · cases tail with
    | nil => exact .inr ⟨[], List.nil_suffix, hb.symm⟩
    | cons u tail =>
      obtain ⟨rfl, rfl⟩ := List.cons.inj hb
      exact .inl (List.suffix_append tail part)

theorem isCutOff_nil : IsCutOff [] := by
  intro part hne h
  exact absurd (List.suffix_nil.mp h) hne

theorem IsCutOff.bound {mark : String} (h : IsCutOff before) (hm : mark ∈ statementBounds)
    (ht : t.isSymbol mark = true) : IsCutOff (run ++ t :: before) := by
  intro part hne hs hfree
  rcases suffix_append_cons hs with hs | ⟨tail, -, rfl⟩
  · exact h part hne hs hfree
  · rw [hfree t (by simp) mark hm] at ht
    cases ht

theorem IsCutOff.closer (h : IsCutOff before) (hrun : IsOpen 0 run) (ht : t.isCloser = true) :
    IsCutOff (run ++ t :: before) := by
  intro part hne hs hfree
  rcases suffix_append_cons hs with hs | ⟨tail, ⟨front, rfl⟩, rfl⟩
  · exact h part hne hs hfree
  · refine ⟨tail ++ [t], ⟨before, by simp⟩, ?_⟩
    have hfront := hrun.2 front (List.prefix_append front tail)
    have hall := hrun.1
    rw [bracketDepth_append] at hall
    rw [bracketDepth_concat, if_neg (by simp [isOpener_eq_false_of_isCloser ht]), if_pos ht]
    omega

theorem mem_statementsFrom_split {statement : List Token} {initializer : Bool}
    (hrun : IsOpen depth run.reverse) (h : statement ∈ statementsFrom run depth initializer ts) :
    ∃ before after, run.reverse ++ ts = before ++ (statement ++ after) ∧ IsCutOff before := by
  have hjoin {depth next : Nat} {run rest : List Token} {t : Token}
      (hrun : IsOpen depth run.reverse)
      (hnext : depth + (if t.isOpener then 1 else 0) - (if t.isCloser then 1 else 0) = (next : Int))
      (ih : IsOpen next (t :: run).reverse → ∃ before after,
        (t :: run).reverse ++ rest = before ++ (statement ++ after) ∧ IsCutOff before) :
      ∃ before after, run.reverse ++ t :: rest = before ++ (statement ++ after) ∧
        IsCutOff before := by
    rw [← hrun.1, ← bracketDepth_concat] at hnext
    simpa using ih (List.reverse_cons ▸ hrun.concat hnext)
  have hcut {run rest : List Token} {t : Token}
      (hcut : ∀ {before}, IsCutOff before → IsCutOff (run.reverse ++ t :: before))
      (ih : ∃ before after, [].reverse ++ rest = before ++ (statement ++ after) ∧
        IsCutOff before) :
      ∃ before after, run.reverse ++ t :: rest = before ++ (statement ++ after) ∧
        IsCutOff before := by
    obtain ⟨before, after, he, hb⟩ := ih
    refine ⟨run.reverse ++ t :: before, after, ?_, hcut hb⟩
    rw [List.reverse_nil, List.nil_append] at he
    rw [he, List.append_assoc, List.cons_append]
  fun_induction statementsFrom run depth initializer ts with
  | case1 => cases h
  | case2 run depth initializer t rest hc ih =>
    rcases List.mem_cons.mp h with rfl | h
    · exact ⟨[], t :: rest, rfl, isCutOff_nil⟩
    · exact hcut (fun hb ↦ hb.bound (by decide) hc.1) (ih isOpen_nil h)
  | case3 run depth initializer t rest _ hc ih =>
    obtain ⟨ho, hc⟩ := not_bracket_of_isSymbol hc.1 (by decide)
    exact hjoin hrun (by simp [ho, hc]) (ih · h)
  | case4 run depth initializer t rest _ _ hc ih =>
    exact hcut (fun hb ↦ hb.bound (by decide) hc.1) (ih isOpen_nil h)
  | case5 run depth initializer t rest _ _ _ hc ih =>
    exact hjoin hrun (by simp [hc, isCloser_eq_false_of_isOpener hc]) (ih · h)
  | case6 run initializer t rest _ hc _ _ _ ih =>
    exact hcut (fun hb ↦ hb.closer hrun hc) (ih isOpen_nil h)
  | case7 run initializer t rest ho hc depth _ _ _ ih =>
    exact hjoin hrun (by simp [ho, hc]) (ih · h)
  | case8 run depth initializer t rest _ _ _ ho hc ih =>
    exact hjoin hrun (by simp [ho, hc]) (ih · h)

theorem mem_allStatements_split {source : String} {statement : List Token}
    (h : tokens source = .ok ts) (hs : statement ∈ allStatements ts) :
    ∃ above before after line, ts = above ++ (before ++ (statement ++ after)) ∧
      (∀ t ∈ above, t.line < line) ∧ (∀ t ∈ statement, t.line = line) ∧ IsCutOff before := by
  obtain ⟨run, hrun, hstatement⟩ := List.mem_flatMap.mp (List.mem_filter.mp hs).1
  obtain ⟨above, below, line, hts, hline, habove⟩ := mem_byLine_split (tokens_sorted h) hrun
  obtain ⟨before, after, he, hcut⟩ := mem_statementsFrom_split isOpen_nil hstatement
  rw [List.reverse_nil, List.nil_append] at he
  refine ⟨above, before, after ++ below, line, ?_, habove, fun t ht ↦ hline t ?_, hcut⟩
  · rw [hts, he]
    simp
  · rw [he]
    exact List.mem_append_right _ (List.mem_append_left _ ht)

end Statements

end Boilerplate.Source
