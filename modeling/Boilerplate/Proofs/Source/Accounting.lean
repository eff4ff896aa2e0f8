import Boilerplate.Proofs.Lists
import Boilerplate.Proofs.Source.FieldDeclaration
import Mathlib.Data.List.SplitBy

namespace Boilerplate.Source

open scoped Classical
open Text (CodePoints)

/-- Modifiers of a private field that is kept, and a word that can start its type. -/
def StartsField (ts : List Token) : Prop :=
  ∃ words run start rest, ts = run ++ start :: rest ∧ ModifierRun words run ∧
    "private" ∈ words ∧ (∀ word ∈ excludedModifiers, word ∉ words) ∧ IsTypeStart start

def OpensParameters (ts : List Token) : Prop :=
  (∃ t ∈ ts.head?, t.isSymbol "(" = true) ∨
    ∃ name t rest, ts = name :: t :: rest ∧ name.isWord = true ∧ '.' ∉ name.text.toList ∧
      t.isSymbol "(" = true

def IsHeader (ts : List Token) : Prop :=
  ∃ words run type rest, ts = run ++ (type ++ rest) ∧ ModifierRun words run ∧ IsTypeRun type ∧
    OpensParameters rest

def LeavesTrace (ts : List Token) : Prop := StartsField ts ∧ ¬IsHeader ts

/-- The fields that a statement adds, its warnings, and the fields that lack the prefix. -/
inductive Trace (statement : List Token) : List Field → List CodePoints → List Field → Prop
  | field (f : Field) : Trace statement [f] [] []
  | mismatch (f : Field) : Trace statement [] [] [f]
  | warning (rest : CodePoints) : Trace statement []
      [.ofString ("line " ++ toString (statementLine statement) ++ ": ") ++ rest] []

def Contributes (statement : List Token) (trace : List Field × List CodePoints × List Field) : Prop :=
  if LeavesTrace statement then Trace statement trace.1 trace.2.1 trace.2.2
  else trace = ([], [], [])

def Verdict.IsRecorded : Verdict → Prop
  | .silent | .excluded _ => False
  | .rejected _ | .declares .. => True

section Verdicts

variable {ts : List Token}

theorem readDeclarator_isRecorded_iff (type : List Token) :
    (readDeclarator type ts).IsRecorded ↔ ¬OpensParameters ts := by
  cases ts with
  | nil => simp [readDeclarator, Verdict.IsRecorded, OpensParameters]
  | cons name rest =>
    rw [readDeclarator]
    by_cases ho : name.isSymbol "(" = true
    · rw [if_pos ho]
      exact ⟨False.elim, fun h ↦ h (.inl ⟨name, rfl, ho⟩)⟩
    rw [if_neg ho]
    by_cases hn : name.isWord = false ∨ '.' ∈ name.text.toList
    · rw [if_pos hn]
      refine ⟨fun _ ↦ ?_, fun _ ↦ trivial⟩
      intro hx
      rcases hx with ⟨t, ht, hs⟩ | ⟨name', t, more, he, hw, hp, -⟩
      · obtain rfl : name = t := by simpa using ht
        exact ho hs
      · obtain ⟨rfl, rfl⟩ := List.cons.inj he
        rcases hn with hn | hn
        · simp [hn] at hw
        · exact hp hn
    rw [if_neg hn]
    obtain ⟨hw, hp⟩ := not_or.mp hn
    have hopens : OpensParameters (name :: rest) ↔ ∃ t ∈ rest.head?, t.isSymbol "(" = true := by
      constructor
      · intro hx
        rcases hx with ⟨t, ht, hs⟩ | ⟨name', t, more, he, -, -, hs⟩
        · obtain rfl : name = t := by simpa using ht
          exact absurd hs ho
        · obtain ⟨rfl, rfl⟩ := List.cons.inj he
          exact ⟨t, rfl, hs⟩
      · intro hx
        obtain ⟨t, ht, hs⟩ := hx
        obtain ⟨more, rfl⟩ : ∃ more, rest = t :: more := by
          cases rest with
          | nil => simp at ht
          | cons u more => exact ⟨more, by simpa using ht⟩
        exact .inr ⟨name, t, more, rfl, by simpa using hw, hp, hs⟩
    rw [hopens]
    by_cases hr : rest.head?.any (·.isSymbol "(") = true
    · rw [if_pos hr]
      exact ⟨False.elim, fun h ↦ h (Option.any_eq_true _ _ |>.mp hr)⟩
    · rw [if_neg hr]
      refine ⟨fun _ h ↦ hr (Option.any_eq_true _ _ |>.mpr h), fun _ ↦ ?_⟩
      split <;> trivial

theorem OpensParameters.head? {t : Token} (h : OpensParameters ts) (ht : t ∈ ts.head?) :
    t.isSymbol "(" = true ∨ t.isWord = true := by
  rcases h with ⟨u, hu, hs⟩ | ⟨name, u, rest, rfl, hw, -⟩
  · obtain rfl : t = u := Option.some.inj (ht.symm.trans hu)
    exact .inl hs
  · obtain rfl : name = t := by simpa using ht
    exact .inr hw

theorem OpensParameters.not_isSymbol {t : Token} {mark : String} (h : OpensParameters ts)
    (ht : t ∈ ts.head?) (hm : mark ≠ "(") : t.isSymbol mark = false := by
  rcases h.head? ht with hs | hw
  · exact Token.isSymbol_eq_false hs hm.symm
  · exact Token.isSymbol_eq_false_of_isWord mark hw

theorem readTyped_isRecorded_iff {start : Token} (hs : IsTypeStart start)
    (hwf : ∀ t ∈ ts, t.WellFormed) : (readTyped (start :: ts)).IsRecorded ↔
      ¬∃ type rest, start :: ts = type ++ rest ∧ IsTypeRun type ∧ OpensParameters rest := by
  rw [readTyped, if_neg (by simp [hs.1, hs.2.2])]
  have hread : (∃ type rest, start :: ts = type ++ rest ∧ IsTypeRun type ∧ OpensParameters rest) ↔
      ∃ type rest, readType start ts = .ok (type, rest) ∧ OpensParameters rest := by
    constructor
    · intro hx
      obtain ⟨-, rest, he, ⟨start', arguments, dimensions, rfl, -, ha, hd⟩, ho⟩ := hx
      rw [List.cons_append, List.cons_append, List.append_assoc] at he
      obtain ⟨rfl, rfl⟩ := List.cons.inj he
      refine ⟨_, rest, readType_append ha hd hwf (fun t ht ↦ ho.not_isSymbol ht (by decide)) ?_, ho⟩
      intro a b more hx hopen
      subst hx
      rw [ho.not_isSymbol rfl (by decide)] at hopen
      exact absurd hopen Bool.false_ne_true
    · intro hx
      obtain ⟨type, rest, h, ho⟩ := hx
      obtain ⟨arguments, dimensions, rfl, rfl, ha, hd⟩ := exists_of_readType h hwf
      exact ⟨_, rest, by simp, ⟨start, arguments, dimensions, rfl, hs, ha, hd⟩, ho⟩
  rw [hread]
  cases h : readType start ts with
  | error reason => simp [Verdict.IsRecorded]
  | ok found =>
    obtain ⟨type, rest⟩ := found
    simp [readDeclarator_isRecorded_iff]

theorem startsField_iff : StartsField ts ↔
    "private" ∈ (readModifiers ts).1 ∧
      (∀ word ∈ excludedModifiers, word ∉ (readModifiers ts).1) ∧
      ∃ start rest, (readModifiers ts).2 = start :: rest ∧ IsTypeStart start := by
  constructor
  · intro h
    obtain ⟨words, run, start, rest, rfl, hrun, hp, hex, hs⟩ := h
    rw [readModifiers_append hrun hs.endsModifiers]
    exact ⟨hp, hex, start, rest, rfl, hs⟩
  · intro h
    obtain ⟨hp, hex, start, rest, hrest, hs⟩ := h
    have hne : (readModifiers ts).2 ≠ [] := by simp [hrest]
    obtain ⟨run, hts, hrun⟩ := exists_modifierRun hne
    exact ⟨_, run, start, rest, hrest ▸ hts, hrun, hp, hex, hs⟩

theorem isHeader_iff : IsHeader ts ↔
    ∃ type rest, (readModifiers ts).2 = type ++ rest ∧ IsTypeRun type ∧ OpensParameters rest := by
  constructor
  · intro h
    obtain ⟨words, run, type, rest, rfl, hrun, ht, ho⟩ := h
    obtain ⟨start, more, rfl, hs⟩ := ht.exists_cons
    rw [List.cons_append, readModifiers_append hrun hs.endsModifiers]
    exact ⟨_, rest, rfl, ht, ho⟩
  · intro h
    obtain ⟨type, rest, hrest, ht, ho⟩ := h
    obtain ⟨start, more, rfl, hs⟩ := ht.exists_cons
    have hne : (readModifiers ts).2 ≠ [] := by simp [hrest]
    obtain ⟨run, hts, hrun⟩ := exists_modifierRun hne
    exact ⟨_, run, _, rest, hrest ▸ hts, hrun, ht, ho⟩

theorem readDeclaration_isRecorded_iff_readTyped : (readDeclaration ts).IsRecorded ↔
    "private" ∈ (readModifiers ts).1 ∧
      (∀ word ∈ excludedModifiers, word ∉ (readModifiers ts).1) ∧
      (readTyped (readModifiers ts).2).IsRecorded := by
  rw [← excludedModifiers_filter_eq_nil_iff, readDeclaration]
  by_cases hp : "private" ∈ (readModifiers ts).1
  · simp only [hp, not_true_eq_false, ↓reduceIte, true_and]
    cases excludedModifiers.filter (· ∈ (readModifiers ts).1) <;> simp [Verdict.IsRecorded]
  · simp [hp, Verdict.IsRecorded]

theorem readDeclaration_isRecorded_iff (hwf : ∀ t ∈ ts, t.WellFormed) :
    (readDeclaration ts).IsRecorded ↔ LeavesTrace ts := by
  rw [readDeclaration_isRecorded_iff_readTyped, LeavesTrace, startsField_iff, isHeader_iff,
    and_assoc, and_assoc]
  refine and_congr_right fun _ ↦ and_congr_right fun _ ↦ ?_
  cases hrest : (readModifiers ts).2 with
  | nil => simp [readTyped, Verdict.IsRecorded]
  | cons start rest =>
    have hwf' : ∀ t ∈ rest, t.WellFormed := by
      intro t ht
      by_cases hne : (readModifiers ts).2 = []
      · simp [hne] at hrest
      · obtain ⟨run, hts, -⟩ := exists_modifierRun hne
        exact hwf t (by rw [hts, hrest]; simp [ht])
    have hhead : (readModifiers ts).2.head? = some start := by
      rw [hrest]
      rfl
    have hmod := (readModifiers_head hhead).2
    by_cases hs : IsTypeStart start
    · rw [readTyped_isRecorded_iff hs hwf']
      exact ⟨fun h ↦ ⟨⟨start, rest, rfl, hs⟩, h⟩, fun h ↦ h.2⟩
    · have hsilent : start.isWord = false ∨ start.text ∈ classKeywords := by
        by_contra hc
        obtain ⟨hw, hk⟩ := not_or.mp hc
        have hw' : start.isWord = true := by simpa using hw
        exact hs ⟨hw', hmod hw', hk⟩
      rw [readTyped, if_pos hsilent]
      refine ⟨False.elim, ?_⟩
      intro hx
      obtain ⟨⟨start', rest', he, hs'⟩, -⟩ := hx
      obtain ⟨rfl, -⟩ := List.cons.inj he
      exact hs hs'

end Verdicts

section Statements

theorem mem_of_mem_statementsFrom {ts run statement : List Token} {depth : Nat} {inside : Bool}
    (h : statement ∈ statementsFrom run depth inside ts) :
    ∀ t ∈ statement, t ∈ run ∨ t ∈ ts := by
  -- A token is kept in the run, or the run is given up and starts afresh behind it.
  have hkeep {run : List Token} {u : Token} {us : List Token} {t : Token}
      (ht : t ∈ u :: run ∨ t ∈ us) : t ∈ run ∨ t ∈ u :: us := by
    rcases ht with ht | ht
    · rcases List.mem_cons.mp ht with rfl | ht
      · exact .inr (.head _)
      · exact .inl ht
    · exact .inr (.tail _ ht)
  have hfresh {run : List Token} {u : Token} {us : List Token} {t : Token}
      (ht : t ∈ ([] : List Token) ∨ t ∈ us) : t ∈ run ∨ t ∈ u :: us :=
    .inr (.tail _ (ht.resolve_left List.not_mem_nil))
  intro t ht
  fun_induction statementsFrom run depth inside ts with
  | case1 => simp at h
  | case2 run _ _ u us _ ih =>
    rcases List.mem_cons.mp h with rfl | h
    · exact .inl (List.mem_reverse.mp ht)
    · exact hfresh (ih h)
  | case3 _ _ _ _ _ _ _ ih => exact hkeep (ih h)
  | case4 _ _ _ _ _ _ _ _ ih => exact hfresh (ih h)
  | case5 _ _ _ _ _ _ _ _ _ ih => exact hkeep (ih h)
  | case6 _ _ _ _ _ _ _ _ _ ih => exact hfresh (ih h)
  | case7 _ _ _ _ _ _ _ _ _ _ ih => exact hkeep (ih h)
  | case8 _ _ _ _ _ _ _ _ _ _ ih => exact hkeep (ih h)

theorem mem_of_mem_allStatements {ts statement : List Token} (h : statement ∈ allStatements ts) :
    ∀ t ∈ statement, t ∈ ts := by
  intro t ht
  obtain ⟨line, hline, hs⟩ := List.mem_flatMap.mp (List.mem_filter.mp h).1
  have hmem := (mem_of_mem_statementsFrom hs t ht).resolve_left List.not_mem_nil
  have hflat : t ∈ (byLine ts).flatten := List.mem_flatten.mpr ⟨line, hline, hmem⟩
  rwa [byLine, List.flatten_splitBy] at hflat

end Statements

section Extractions

variable {ts statement : List Token} {start : CodePoints}

def Finding.trace (finding : Finding) : List Field × List CodePoints × List Field :=
  match finding with
  | .none | .excluded .. => ([], [], [])
  | .rejected statement reason => ([], [warningText statement reason], [])
  | .mismatch f => ([], [], [f])
  | .field f => ([f], [], [])

theorem warningText_eq (statement : List Token) (reason : Rejection) : ∃ rest,
    warningText statement reason =
      .ofString ("line " ++ toString (statementLine statement) ++ ": ") ++ rest := by
  refine ⟨.ofString "skipped '" ++ (List.intercalate (CodePoints.ofString " ")
    (statement.map (·.points)) ++ .ofString (";' (" ++ reason.message ++ ")")), ?_⟩
  rw [warningText, ← List.append_assoc, ← CodePoints.ofString_append, @String.append_assoc _ ": " _,
    List.append_assoc]
  rfl

/-- A statement of tokens that a source can have is always read to the end, and what it
contributes is decided by its form. -/
theorem findingOf_trace (hwf : ∀ t ∈ statement, t.WellFormed) :
    ∃ finding, findingOf start statement = .ok finding ∧ Contributes statement finding.trace := by
  have hrecorded := readDeclaration_isRecorded_iff hwf
  cases hv : readDeclaration statement with
  | silent =>
    rw [hv] at hrecorded
    refine ⟨.none, by rw [findingOf, hv], ?_⟩
    rw [Contributes, if_neg (fun h ↦ hrecorded.mpr h)]
    rfl
  | excluded modifiers =>
    rw [hv] at hrecorded
    refine ⟨.excluded modifiers (statementLine statement), by rw [findingOf, hv], ?_⟩
    rw [Contributes, if_neg (fun h ↦ hrecorded.mpr h)]
    rfl
  | rejected reason =>
    rw [hv] at hrecorded
    refine ⟨.rejected statement reason, by rw [findingOf, hv], ?_⟩
    rw [Contributes, if_pos (hrecorded.mp trivial)]
    obtain ⟨rest, hrest⟩ := warningText_eq statement reason
    simp only [Finding.trace, hrest]
    exact .warning rest
  | declares type name line =>
    rw [hv] at hrecorded
    obtain ⟨d, rfl, rfl, rfl, rfl⟩ := (readDeclaration_eq_declares_iff hwf).mp hv
    obtain ⟨f, hf⟩ := d.make?_eq_ok hwf
    refine ⟨_, by rw [findingOf_of_declares hv, hf]; rfl, ?_⟩
    rw [Contributes, if_pos (hrecorded.mp trivial)]
    split
    · exact .field f
    · exact .mismatch f

theorem Extraction.fields_eq (x : Extraction) : x.fields = x.findings.flatMap (·.trace.1) := by
  unfold Extraction.fields
  induction x.findings with
  | nil => rfl
  | cons finding findings ih =>
    rw [List.filterMap_cons, List.flatMap_cons, ← ih]
    cases finding <;> rfl

theorem Extraction.warnings_eq (x : Extraction) :
    x.warnings = x.findings.flatMap (·.trace.2.1) := by
  unfold Extraction.warnings Extraction.rejections
  induction x.findings with
  | nil => rfl
  | cons finding findings ih =>
    rw [List.filterMap_cons, List.flatMap_cons, ← ih]
    cases finding <;> rfl

theorem Extraction.prefixMismatches_eq (x : Extraction) :
    x.prefixMismatches = (x.findings.flatMap (·.trace.2.2)).length := by
  unfold Extraction.prefixMismatches
  induction x.findings with
  | nil => rfl
  | cons finding findings ih =>
    rw [List.countP_cons, List.flatMap_cons, List.length_append, ← ih]
    cases finding <;> simp [Finding.trace, Nat.add_comm]

theorem Trace.length_eq_one {fields : List Field} {warnings : List CodePoints}
    {mismatches : List Field} (h : Trace statement fields warnings mismatches) :
    fields.length + warnings.length + mismatches.length = 1 := by
  cases h <;> rfl

theorem length_traces {statements : List (List Token)}
    {traces : List (List Field × List CodePoints × List Field)}
    (h : List.Forall₂ Contributes statements traces) :
    (traces.flatMap (·.1)).length + (traces.flatMap (·.2.1)).length +
      (traces.flatMap (·.2.2)).length = statements.countP (LeavesTrace ·) := by
  induction h with
  | nil => rfl
  | @cons statement trace statements traces h hs ih =>
    simp only [List.flatMap_cons, List.length_append, List.countP_cons, decide_eq_true_eq]
    unfold Contributes at h
    split at h
    · next hl =>
      have hone := h.length_eq_one
      rw [if_pos hl]
      omega
    · next hl =>
      subst h
      rw [if_neg hl]
      simpa using ih

/-- A source that lexes is extracted. Its statements contribute one after the other, and each one
that leaves a trace gives one field, one warning with its line or one mismatch. -/
theorem extract_accounts {source : String} (h : tokens source = .ok ts) (start : CodePoints) :
    ∃ x traces, extract source start = .ok x ∧
      List.Forall₂ Contributes (allStatements ts) traces ∧
      x.fields = traces.flatMap (·.1) ∧ x.warnings = traces.flatMap (·.2.1) ∧
      x.prefixMismatches = (traces.flatMap (·.2.2)).length ∧
      x.fields.length + x.warnings.length + x.prefixMismatches =
        (allStatements ts).countP (LeavesTrace ·) := by
  have hwf := tokens_wellFormed h
  have hfinding : ∀ statement ∈ allStatements ts, ∃ finding,
      findingOf start statement = .ok finding ∧ Contributes statement finding.trace :=
    fun statement hs ↦ findingOf_trace fun t ht ↦ hwf t (mem_of_mem_allStatements hs t ht)
  obtain ⟨findings, hm, hall⟩ := mapM_eq_ok_of_forall hfinding
  have htraces : List.Forall₂ Contributes (allStatements ts) (findings.map Finding.trace) :=
    List.forall₂_map_right_iff.mpr hall
  have hx : extract source start = .ok ⟨findings⟩ := by
    simp only [extract, h, hm]
  refine ⟨⟨findings⟩, findings.map Finding.trace, hx, htraces, ?_, ?_, ?_, ?_⟩
  · rw [Extraction.fields_eq, List.flatMap_map]
  · rw [Extraction.warnings_eq, List.flatMap_map]
  · rw [Extraction.prefixMismatches_eq, List.flatMap_map]
  · rw [← length_traces htraces, Extraction.fields_eq, Extraction.warnings_eq,
      Extraction.prefixMismatches_eq, List.flatMap_map, List.flatMap_map, List.flatMap_map]

theorem extract_accounts_class :
    let source := "class A \x7b\n private int a, b; private int f(int x);\n private int c;\n\x7d"
    ∃ ts x, tokens source = .ok ts ∧ extract source "" = .ok x ∧ (allStatements ts).length = 3 ∧
      x.fields.length + x.warnings.length + x.prefixMismatches =
        (allStatements ts).countP (LeavesTrace ·) ∧
      (allStatements ts).countP (LeavesTrace ·) = 2 := by
  intro source
  have hlex : (tokens source).toOption.any (fun ts ↦ (allStatements ts).length == 3) = true := by
    decide +kernel
  have hrun : (extract source "").toOption.any (fun x ↦
      x.fields.length + x.warnings.length + x.prefixMismatches == 2) = true := by
    decide +kernel
  obtain ⟨ts, hts, hlength⟩ := Option.any_eq_true _ _ |>.mp hlex
  obtain ⟨x, traces, hx, -, -, -, -, hcount⟩ := extract_accounts (eq_ok_of_toOption hts) ""
  rw [hx] at hrun
  have hsum : x.fields.length + x.warnings.length + x.prefixMismatches = 2 := by
    simpa [Except.toOption] using hrun
  exact ⟨ts, x, eq_ok_of_toOption hts, hx, by simpa using hlength, hcount, hcount ▸ hsum⟩

end Extractions

end Boilerplate.Source
