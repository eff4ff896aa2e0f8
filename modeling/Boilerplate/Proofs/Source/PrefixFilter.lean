import Boilerplate.Proofs.Source.Findings

namespace Boilerplate.Source

/-- Sets a field aside unless its name starts with `start`. -/
def Finding.restrict (start : Text.CodePoints) : Finding → Finding
  | field f => if hasPrefix start f.name then field f else mismatch f
  | finding => finding

def Extraction.restrict (start : Text.CodePoints) (x : Extraction) : Extraction :=
  ⟨x.findings.map (Finding.restrict start)⟩

variable {source : String} {start : Text.CodePoints} {x : Extraction}

theorem findingOf_eq_map_restrict (start : Text.CodePoints) (statement : List Token) :
    findingOf start statement = (findingOf "" statement).map (Finding.restrict start) := by
  cases hv : readDeclaration statement with
  | silent | excluded | rejected => simp only [findingOf, hv, Except.map, Finding.restrict]
  | declares type name line =>
    rw [findingOf_of_declares hv, findingOf_of_declares hv]
    cases hf : Field.make? type name line with
    | error e => rfl
    | ok f =>
      obtain ⟨-, rfl, -⟩ := Field.make?_eq_ok_iff.mp hf
      simp only [Except.map, hasPrefix_empty, if_true, Finding.restrict]

/-- One reading of the source serves all prefixes. -/
theorem extract_eq_map_restrict (source : String) (start : Text.CodePoints) :
    extract source start = (extract source "").map (Extraction.restrict start) := by
  have hfinding : findingOf start = fun statement ↦
      (findingOf "" statement).map (Finding.restrict start) :=
    funext (findingOf_eq_map_restrict start)
  rw [extract, extract]
  cases tokens source with
  | error e => rfl
  | ok ts =>
    simp only [hfinding, mapM_map]
    cases (allStatements ts).mapM (findingOf "") <;> rfl

theorem Extraction.fields_restrict (start : Text.CodePoints) (x : Extraction) :
    (x.restrict start).fields = x.fields.filter (hasPrefix start ·.name) := by
  rw [fields, fields, restrict, List.filterMap_map, List.filter_filterMap]
  refine List.filterMap_congr fun finding _ ↦ ?_
  cases finding with
  | none | excluded | rejected | mismatch => rfl
  | field f =>
    by_cases hf : hasPrefix start f.name = true
    · simp [Finding.restrict, hf, Option.filter]
    · simp [Finding.restrict, hf, Option.filter]

theorem Extraction.rejections_restrict (start : Text.CodePoints) (x : Extraction) :
    (x.restrict start).rejections = x.rejections := by
  rw [rejections, rejections, restrict, List.filterMap_map]
  refine List.filterMap_congr fun finding _ ↦ ?_
  cases finding with
  | none | excluded | rejected | mismatch => rfl
  | field f =>
    by_cases hf : hasPrefix start f.name = true
    · simp [Finding.restrict, hf]
    · simp [Finding.restrict, hf]

theorem Extraction.prefixMismatches_restrict (start : Text.CodePoints) (x : Extraction) :
    (x.restrict start).fields.length + (x.restrict start).prefixMismatches =
      x.fields.length + x.prefixMismatches := by
  obtain ⟨findings⟩ := x
  simp only [restrict, fields, prefixMismatches]
  induction findings with
  | nil => rfl
  | cons finding findings ih =>
    cases finding with
    | none | excluded | rejected => simpa [Finding.restrict] using ih
    | mismatch f =>
      simp only [List.map_cons, Finding.restrict, List.filterMap_cons, List.countP_cons]
      simp only [if_true]
      omega
    | field f =>
      simp only [List.map_cons, Finding.restrict, List.filterMap_cons, List.countP_cons]
      by_cases hf : hasPrefix start f.name = true
      · simp only [hf, if_true, List.length_cons]
        simp only [Bool.false_eq_true, if_false]
        omega
      · simp only [hf, Bool.false_eq_true, if_false, if_true, List.length_cons]
        omega

theorem Extraction.prefixMismatches_eq_zero (h : extract source "" = .ok x) :
    x.prefixMismatches = 0 := by
  cases ht : tokens source with
  | error e => simp [extract, ht] at h
  | ok ts =>
    refine List.countP_eq_zero.mpr fun finding hmem ↦ ?_
    obtain ⟨statement, -, hfinding⟩ := (mem_findings_iff ht h).mp hmem
    cases hv : readDeclaration statement with
    | silent | excluded | rejected =>
      rw [findingOf, hv] at hfinding
      obtain rfl := Except.ok.inj hfinding
      simp
    | declares type name line =>
      rw [findingOf_of_declares hv] at hfinding
      obtain ⟨f, -, rfl⟩ := map_eq_ok_iff.mp hfinding
      simp [hasPrefix]

/-- Extractions with a prefix and without it fail alike, or else the fields with the prefix are
kept, the other ones are counted, and the warnings are the same. -/
theorem extract_eq_error_or_ok (source : String) (start : Text.CodePoints) :
    (∃ e, extract source start = .error e ∧ extract source "" = .error e) ∨
      ∃ x all, extract source start = .ok x ∧ extract source "" = .ok all ∧
        x.warnings = all.warnings ∧ x.fields = all.fields.filter (hasPrefix start ·.name) ∧
        x.fields.length + x.prefixMismatches = all.fields.length := by
  cases hall : extract source "" with
  | error e =>
    refine .inl ⟨e, ?_, rfl⟩
    rw [extract_eq_map_restrict, hall]
    rfl
  | ok all =>
    refine .inr ⟨all.restrict start, all, ?_, rfl, ?_, all.fields_restrict start, ?_⟩
    · rw [extract_eq_map_restrict, hall]
      rfl
    · rw [Extraction.warnings, Extraction.warnings, all.rejections_restrict]
    · rw [all.prefixMismatches_restrict, Extraction.prefixMismatches_eq_zero hall, Nat.add_zero]

end Boilerplate.Source
