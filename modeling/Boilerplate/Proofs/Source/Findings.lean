import Boilerplate.Proofs.Source.Accounting

namespace Boilerplate.Source

variable {source : String} {start : Text.CodePoints} {ts : List Token} {x : Extraction}

theorem exists_findingOf {statement : List Token} (h : tokens source = .ok ts)
    (hs : statement ∈ allStatements ts) (start : Text.CodePoints) : ∃ finding,
      findingOf start statement = .ok finding ∧ Contributes statement finding.trace :=
  findingOf_trace fun t ht ↦ tokens_wellFormed h t (mem_of_mem_allStatements hs t ht)

theorem exists_extract (h : tokens source = .ok ts) (start : Text.CodePoints) :
    ∃ x, extract source start = .ok x := by
  obtain ⟨findings, hm, -⟩ := mapM_eq_ok_of_forall fun _ hs ↦ exists_findingOf h hs start
  refine ⟨⟨findings⟩, ?_⟩
  simp only [extract, h, hm]

theorem extract_split {statement : List Token} {before after : List (List Token)}
    {finding : Finding} (h : tokens source = .ok ts)
    (hs : allStatements ts = before ++ statement :: after)
    (hfinding : findingOf start statement = .ok finding) : ∃ front back,
      before.mapM (findingOf start) = .ok front ∧ after.mapM (findingOf start) = .ok back ∧
        extract source start = .ok ⟨front ++ finding :: back⟩ := by
  obtain ⟨front, hfront, -⟩ := mapM_eq_ok_of_forall fun statement hmem ↦
    exists_findingOf h (hs ▸ List.mem_append_left _ hmem : statement ∈ allStatements ts) start
  obtain ⟨back, hback, -⟩ := mapM_eq_ok_of_forall fun statement hmem ↦
    exists_findingOf h (hs ▸ List.mem_append_right _ (.tail _ hmem) : statement ∈ allStatements ts)
      start
  have hall : (allStatements ts).mapM (findingOf start) = .ok (front ++ finding :: back) := by
    rw [hs, List.mapM_append, List.mapM_cons, hfront, hfinding, hback]
    rfl
  refine ⟨front, back, hfront, hback, ?_⟩
  simp only [extract, h, hall]

theorem exists_findingOf_of_not_isRecorded {statement : List Token}
    (h : ¬(readDeclaration statement).IsRecorded) (start : Text.CodePoints) :
    ∃ finding, findingOf start statement = .ok finding ∧ finding.trace = ([], [], []) := by
  cases hv : readDeclaration statement with
  | silent => exact ⟨.none, by rw [findingOf, hv], rfl⟩
  | excluded modifiers =>
    exact ⟨.excluded modifiers (statementLine statement), by rw [findingOf, hv], rfl⟩
  | rejected | declares =>
    rw [hv] at h
    exact absurd trivial h

theorem mem_findings_iff (h : tokens source = .ok ts) (hx : extract source start = .ok x)
    {finding : Finding} : finding ∈ x.findings ↔
      ∃ statement ∈ allStatements ts, findingOf start statement = .ok finding := by
  simp only [extract, h] at hx
  cases hm : (allStatements ts).mapM (findingOf start) with
  | error e =>
    rw [hm] at hx
    cases hx
  | ok findings =>
    rw [hm] at hx
    obtain rfl : ⟨findings⟩ = x := Except.ok.inj hx
    exact mem_of_mapM_eq_ok hm

theorem mem_fields_iff {f : Field} : f ∈ x.fields ↔ .field f ∈ x.findings := by
  rw [Extraction.fields, List.mem_filterMap]
  constructor
  · intro hx
    obtain ⟨finding, hmem, hf⟩ := hx
    cases finding with
    | field g =>
      obtain rfl : g = f := Option.some.inj hf
      exact hmem
    | none | excluded | rejected | mismatch => cases hf
  · intro hmem
    exact ⟨.field f, hmem, rfl⟩

theorem readDeclaration_of_findingOf {statement : List Token} {f : Field}
    (h : findingOf start statement = .ok (.field f)) :
    readDeclaration statement = .declares f.type f.name f.line := by
  cases hv : readDeclaration statement with
  | silent | excluded | rejected => simp [findingOf, hv] at h
  | declares type name line =>
    rw [findingOf_of_declares hv] at h
    obtain ⟨g, hg, he⟩ := map_eq_ok_iff.mp h
    split at he
    · obtain rfl := Finding.field.inj he
      obtain ⟨rfl, rfl, rfl⟩ := Field.make?_eq_ok_iff.mp hg
      rfl
    · cases he

theorem exists_declaration {f : Field} (h : tokens source = .ok ts)
    (hx : extract source start = .ok x) (hf : f ∈ x.fields) :
    ∃ d : FieldDeclaration, d.tokens ∈ allStatements ts ∧
      findingOf start d.tokens = .ok (.field f) ∧ d.name.text = f.name ∧ d.name.line = f.line := by
  obtain ⟨statement, hs, hfinding⟩ := (mem_findings_iff h hx).mp (mem_fields_iff.mp hf)
  have hwf := tokens_wellFormed h
  obtain ⟨d, rfl, -, hname, hline⟩ := (readDeclaration_eq_declares_iff fun t ht ↦
    hwf t (mem_of_mem_allStatements hs t ht)).mp (readDeclaration_of_findingOf hfinding)
  exact ⟨d, hs, hfinding, hname, hline⟩

theorem warningText_mem_warnings {statement : List Token} {reason : Rejection}
    (h : .rejected statement reason ∈ x.findings) :
    warningText statement reason ∈ x.warnings := by
  rw [Extraction.warnings, Extraction.rejections, List.mem_map]
  exact ⟨(statement, reason), List.mem_filterMap.mpr ⟨_, h, rfl⟩, rfl⟩

end Boilerplate.Source
