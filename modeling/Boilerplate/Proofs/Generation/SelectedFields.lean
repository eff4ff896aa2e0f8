import Boilerplate.Generation.FromSource
import Boilerplate.Proofs.Generation.ReferenceLayout
import Boilerplate.Proofs.Source.PrefixFilter

namespace Boilerplate

open Text (CodePoints IsCodeLine IsOneLine padded lineFeed)

namespace Generator

variable {limits : Limits} {s : Settings} {c : ClassOutline}

theorem title_mem {comments : Bool} {part : Section} (h : part ∈ enabledSections comments s c) :
    part.title ∈ ["Getters", "Setters", "Copy Constructor", "Equals and HashCode"] := by
  obtain ⟨entry, hentry, rfl⟩ := List.mem_map.mp h
  have htitle : entry.2.title ∈ (switchedSections comments s c).map (·.2.title) :=
    List.mem_map_of_mem (List.mem_filter.mp hentry).1
  exact htitle

theorem exists_title_prefix (hany : s.anyEnabled = true) : ∃ width title,
    (padded width ("// --- " ++ title ++ " ---")).toList <+: (codeFor s c).toList := by
  have honeLine : ∀ title ∈ ["Getters", "Setters", "Copy Constructor", "Equals and HashCode"],
      IsOneLine title := by decide
  have hne : enabledSections s.comments.isTruthy s c ≠ [] := enabledSections_ne_nil hany
  obtain ⟨part, parts, hparts⟩ := List.exists_cons_of_ne_nil hne
  have hpart : part ∈ enabledSections s.comments.isTruthy s c := hparts ▸ .head _
  have htitle := honeLine part.title (title_mem hpart)
  have hline : IsCodeLine ("// --- " ++ part.title ++ " ---") := by simp +decide [htitle]
  refine ⟨s.indentSize.toNat, part.title, ?_⟩
  rw [codeFor, hparts, List.map_cons, sectionText, Layout.sectionText,
    Layout.sectionTitle_eq htitle]
  cases parts with
  | nil =>
    rw [List.map_nil, String.intercalate_singleton]
    exact (hline.padded _).prefix_tidy _
  | cons next parts =>
    rw [List.map_cons, String.intercalate_cons_cons, String.append_assoc, String.append_assoc,
      String.append_assoc]
    exact (hline.padded _).prefix_tidy _

theorem codeFor_ne (hany : s.anyEnabled = true) {message : CodePoints}
    (h : CodePoints.ofString "// No" <+: message) : CodePoints.ofString (codeFor s c) ≠ message := by
  rintro rfl
  obtain ⟨width, title, htitle⟩ := exists_title_prefix (c := c) hany
  obtain ⟨rest, hrest⟩ := h
  have htitle : CodePoints.ofString (padded width ("// --- " ++ title ++ " ---")) <+:
      CodePoints.ofString (codeFor s c) := htitle.map Char.toNat
  rw [← hrest, padded] at htitle
  cases width with
  | zero => simp [CodePoints.ofString, CodePoints.ofChars] at htitle
  | succ width => simp [CodePoints.ofString, CodePoints.ofChars, List.replicate_succ] at htitle

theorem isPrefix_noMatchMessage (start : CodePoints) :
    CodePoints.ofString "// No fields" <+: noMatchMessage start ++ [lineFeed] := by
  have hopening : CodePoints.ofString "// No fields" <+:
      CodePoints.ofString "// No fields found with the specified prefix '" := by decide
  unfold noMatchMessage
  rw [List.append_assoc, List.append_assoc]
  exact hopening.trans (List.prefix_append _ _)

theorem noMatchMessage_ne (start : CodePoints) :
    noMatchMessage start ++ [lineFeed] ≠ CodePoints.ofString noFieldsMessage ++ [lineFeed] := by
  intro h
  have hopening := h ▸ isPrefix_noMatchMessage start
  exact absurd hopening (by decide)

theorem run_of_no_fields (limits : Limits) (hany : s.anyEnabled = true) (hfields : c.fields = [])
    (hstart : s.naming.variablePrefix ≠ []) :
    ((ofSettings limits s true).run c).1.success = true ∧
      ((ofSettings limits s true).run c).1.code =
        (if c.prefixMismatches = 0 then CodePoints.ofString noFieldsMessage
          else noMatchMessage s.naming.variablePrefix) ++ [lineFeed] := by
  have hmessage : informational? s c = some (if c.prefixMismatches = 0
      then CodePoints.ofString noFieldsMessage else noMatchMessage s.naming.variablePrefix) := by
    by_cases hm : c.prefixMismatches = 0
    · simp [informational?, hany, hfields, hm]
    · simp [informational?, hany, hfields, hstart, hm]
  rw [run_of_informational (g := ofSettings limits s true) hmessage]
  exact ⟨rfl, rfl⟩

end Generator

variable {limits : Limits} {source : String} {className : Option String} {s : Settings} {r : Result}

/-- The name that a class is given, or else the one that its source gives it. -/
def ClassName (source : String) (className : Option String) (name : String) : Prop :=
  className = some name ∨ className = none ∧ Source.className? source = .ok (some name)

theorem exists_of_generateFrom (h : generateFrom limits source className s = .ok r) :
    ∃ name x, ClassName source className name ∧
      Source.extract source s.naming.variablePrefix = .ok x ∧ r = resultOf limits s name x := by
  have hname : ∃ name, ClassName source className name ∧
      generateFrom limits source className s = generateFrom limits source (some name) s := by
    cases className with
    | some name => exact ⟨name, .inl rfl, rfl⟩
    | none =>
      cases hc : Source.className? source with
      | error e =>
        rw [generateFrom, hc] at h
        cases h
      | ok found =>
        cases found with
        | none =>
          rw [generateFrom, hc] at h
          cases h
        | some name =>
          refine ⟨name, .inr ⟨rfl, hc⟩, ?_⟩
          simp only [generateFrom, hc]
  obtain ⟨name, hname, heq⟩ := hname
  rw [heq, generateFrom] at h
  cases hx : Source.extract source s.naming.variablePrefix with
  | error e =>
    rw [hx] at h
    cases h
  | ok x =>
    rw [hx] at h
    exact ⟨name, x, hname, rfl, (Except.ok.inj h).symm⟩

section Answer

variable {name : String} {x : Source.Extraction}

theorem runOn_eq (limits : Limits) (name : String) (hany : s.anyEnabled = true)
    (hfields : x.fields ≠ []) :
    runOn limits s name x = (Generator.writingFault? limits s).elim
      ⟨Generator.codeFor s (.ofExtraction name x),
        ((Generator.ofSettings limits s true).validate (.ofExtraction name x)).1.map .ofString,
        some ⟨name, x.fields.length⟩, none⟩ .failed :=
  Generator.run_eq (g := .ofSettings limits s true)
    (Generator.informational?_eq_none (c := .ofExtraction name x) hany hfields)

theorem resultOf_code (hany : s.anyEnabled = true) (hfields : x.fields ≠ [])
    (hwritable : s.IsWritable limits) :
    (resultOf limits s name x).success = true ∧
      (resultOf limits s name x).code = Generator.codeFor s (.ofExtraction name x) := by
  have hrun := runOn_eq limits name hany hfields
  rw [Generator.writingFault?_eq_none_iff.mpr hwritable, Option.elim_none] at hrun
  simp only [resultOf, Result.success, hrun]
  exact ⟨rfl, trivial⟩

theorem resultOf_failed (name : String) (hany : s.anyEnabled = true) (hfields : x.fields ≠ [])
    (hfails : ¬s.IsWritable limits) : ∃ e, Generator.writingFault? limits s = some e ∧
      (resultOf limits s name x).success = false ∧ (resultOf limits s name x).code = [] ∧
      (resultOf limits s name x).error = some e := by
  obtain ⟨e, he⟩ :=
    Option.ne_none_iff_exists'.mp (mt Generator.writingFault?_eq_none_iff.mp hfails)
  have hrun := runOn_eq limits name hany hfields
  rw [he, Option.elim_some] at hrun
  simp only [resultOf, Result.success, hrun]
  exact ⟨e, he, rfl, rfl, rfl⟩

theorem resultOf_code_ne (hany : s.anyEnabled = true) (hfields : x.fields ≠ [])
    {message : CodePoints} (h : CodePoints.ofString "// No" <+: message) :
    (resultOf limits s name x).code ≠ message := by
  by_cases hwritable : s.IsWritable limits
  · rw [(resultOf_code hany hfields hwritable).2]
    exact Generator.codeFor_ne hany h
  · obtain ⟨-, -, -, hcode, -⟩ := resultOf_failed name hany hfields hwritable
    rw [hcode]
    rintro rfl
    exact absurd h (by decide)

theorem resultOf_of_no_fields (hany : s.anyEnabled = true) (hfields : x.fields = [])
    (hstart : s.naming.variablePrefix ≠ []) :
    (resultOf limits s name x).success = true ∧ (resultOf limits s name x).code =
      (if x.prefixMismatches = 0 then CodePoints.ofString Generator.noFieldsMessage
        else Generator.noMatchMessage s.naming.variablePrefix) ++ [lineFeed] :=
  Generator.run_of_no_fields (c := .ofExtraction name x) limits hany hfields hstart

theorem resultOf_code_eq_noMatchMessage_iff (hany : s.anyEnabled = true)
    (hstart : s.naming.variablePrefix ≠ []) :
    (resultOf limits s name x).code =
        Generator.noMatchMessage s.naming.variablePrefix ++ [lineFeed] ↔
      x.fields = [] ∧ x.prefixMismatches ≠ 0 := by
  by_cases hnone : x.fields = []
  · rw [(resultOf_of_no_fields hany hnone hstart).2]
    by_cases hzero : x.prefixMismatches = 0
    · rw [if_pos hzero]
      have hne := (Generator.noMatchMessage_ne s.naming.variablePrefix).symm
      exact ⟨fun h ↦ absurd h hne, fun h ↦ absurd hzero h.2⟩
    · rw [if_neg hzero]
      exact ⟨fun _ ↦ ⟨hnone, hzero⟩, fun _ ↦ rfl⟩
  · have hmessage : CodePoints.ofString "// No" <+:
        Generator.noMatchMessage s.naming.variablePrefix ++ [lineFeed] :=
      List.IsPrefix.trans (by decide) (Generator.isPrefix_noMatchMessage _)
    exact ⟨fun h ↦ absurd h (resultOf_code_ne hany hnone hmessage), fun h ↦ absurd h.1 hnone⟩

theorem resultOf_code_eq_noFieldsMessage_iff (hany : s.anyEnabled = true)
    (hstart : s.naming.variablePrefix ≠ []) :
    (resultOf limits s name x).code =
        CodePoints.ofString Generator.noFieldsMessage ++ [lineFeed] ↔
      x.fields = [] ∧ x.prefixMismatches = 0 := by
  by_cases hnone : x.fields = []
  · rw [(resultOf_of_no_fields hany hnone hstart).2]
    by_cases hzero : x.prefixMismatches = 0
    · rw [if_pos hzero]
      exact ⟨fun _ ↦ ⟨hnone, hzero⟩, fun _ ↦ rfl⟩
    · rw [if_neg hzero]
      have hne := Generator.noMatchMessage_ne s.naming.variablePrefix
      exact ⟨fun h ↦ absurd h hne, fun h ↦ absurd h.2 hzero⟩
  · have hmessage : CodePoints.ofString "// No" <+:
        CodePoints.ofString Generator.noFieldsMessage ++ [lineFeed] := by decide
    exact ⟨fun h ↦ absurd h (resultOf_code_ne hany hnone hmessage), fun h ↦ absurd h.1 hnone⟩

end Answer

section Sample

def prefixedSource : String := "class A \x7b\n private int m_a;\n private int b;\n\x7d"

def prefixedSettings : Settings :=
  { Settings.default with naming := ⟨"m_", "is"⟩, getters := .bool true }

end Sample

end Boilerplate
