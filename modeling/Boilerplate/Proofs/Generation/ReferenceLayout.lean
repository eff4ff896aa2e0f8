import Boilerplate.Proofs.Generation.Sections
import Boilerplate.Proofs.Method.CodeLines

namespace Boilerplate

open Text (CodePoints IsOneLine IsCodeLine Paragraphs linesText padded)

structure Section.IsCode (part : Section) : Prop where
  title : IsOneLine part.title
  methods : ∀ m ∈ part.methods, m.IsCode

namespace Layout

def docBlock (comments : Bool) (doc : List String) : List String :=
  if comments ∧ doc ≠ [] then
    "/**" :: doc.map (fun line ↦ if line = "" then " *" else " * " ++ line) ++ [" */"]
  else []

def headBlock (comments : Bool) (m : Method) : List String :=
  docBlock comments m.doc ++ m.annotations ++ [m.signature ++ " \x7b"]

/-- The lines of a method. Its body is indented twice. -/
def methodBlock (width : Nat) (comments : Bool) (m : Method) : List String :=
  (headBlock comments m).map (padded width) ++ m.body.map (padded (2 * width)) ++
    [padded width "\x7d"]

/-- The lines of a section: its title, and each method behind an empty line. -/
def sectionBlock (width : Nat) (comments : Bool) (part : Section) : List String :=
  padded width ("// --- " ++ part.title ++ " ---") ::
    part.methods.flatMap fun m ↦ "" :: methodBlock width comments m

variable {spaces : Int} {width : Nat} {comments : Bool} {m : Method} {part : Section}

theorem docText_eq (doc : List String) : docText doc = linesText (docBlock true doc) := by
  have hline : docLine = fun line ↦ (if line = "" then " *" else " * " ++ line) ++ "\n" := by
    funext line
    rw [docLine]
    split
    · rfl
    · simp [← String.toList_inj]
  by_cases hdoc : doc = []
  · subst hdoc
    rfl
  · rw [docText, docBlock, if_neg (by simpa using hdoc), if_pos ⟨rfl, hdoc⟩, List.cons_append,
      Text.linesText_cons, Text.linesText_append, linesText, linesText, List.map_map, hline,
      String.append_assoc]
    rfl

theorem isCodeLine_of_mem_docBlock {doc : List String}
    (h : ∀ line ∈ doc, line = "" ∨ IsCodeLine line) :
    ∀ line ∈ docBlock comments doc, IsCodeLine line := by
  intro line hline
  rw [docBlock] at hline
  split at hline
  · rcases List.mem_cons.mp hline with rfl | hline
    · decide
    rcases List.mem_append.mp hline with hline | hline
    · obtain ⟨text, htext, rfl⟩ := List.mem_map.mp hline
      split
      · decide
      · next hne =>
        have htext := (h text htext).resolve_left hne
        simp +decide [htext]
    · obtain rfl := List.mem_singleton.mp hline
      decide
  · cases hline

theorem isCodeLine_of_mem_headBlock (h : m.IsCode) :
    ∀ line ∈ headBlock comments m, IsCodeLine line := by
  intro line hline
  rcases List.mem_append.mp hline with hline | hline
  · rcases List.mem_append.mp hline with hline | hline
    · exact isCodeLine_of_mem_docBlock h.doc line hline
    · exact h.annotations line hline
  · obtain rfl := List.mem_singleton.mp hline
    simp +decide [h.signature]

theorem methodText_eq (h : m.IsCode) : methodText spaces m =
    linesText (headBlock true m ++ m.body.map (padded spaces.toNat)) ++ "\x7d" := by
  have hbody : String.join (m.body.map fun line ↦ Text.indent spaces line ++ "\n") =
      linesText (m.body.map (padded spaces.toNat)) := by
    rw [linesText, List.map_map]
    refine congrArg String.join (List.map_congr_left fun line hline ↦ ?_)
    rw [Text.indent_eq_padded (h.body line hline)]
    rfl
  rw [methodText, hbody, docText_eq, headBlock, Text.linesText_append, Text.linesText_append,
    Text.linesText_append, Text.linesText_cons, Text.linesText_nil]
  simp [linesText, String.append_assoc]

theorem indent_methodText (h : m.IsCode) : Text.indent spaces (methodText spaces m) ++ "\n" =
    linesText (methodBlock spaces.toNat true m) := by
  have hcode : ∀ line ∈ headBlock true m ++ m.body.map (padded spaces.toNat) ++ ["\x7d"],
      IsCodeLine line := by
    intro line hline
    rcases List.mem_append.mp hline with hline | hline
    · rcases List.mem_append.mp hline with hline | hline
      · exact isCodeLine_of_mem_headBlock h line hline
      · obtain ⟨text, htext, rfl⟩ := List.mem_map.mp hline
        exact (h.body text htext).padded spaces.toNat
    · obtain rfl := List.mem_singleton.mp hline
      decide
  have hbody : (m.body.map (padded spaces.toNat)).map (padded spaces.toNat) =
      m.body.map (padded (2 * spaces.toNat)) := by
    rw [List.map_map, Nat.two_mul]
    exact List.map_congr_left fun line _ ↦ Text.padded_padded _ _ line
  rw [methodText_eq h, Text.indent_linesText_append hcode, List.map_append, hbody, methodBlock,
    Text.linesText_append _ [_], Text.linesText_cons, Text.linesText_nil, String.append_empty,
    String.append_assoc]

theorem isCodeLine_of_mem_methodBlock (h : m.IsCode) :
    ∀ line ∈ methodBlock width comments m, IsCodeLine line := by
  intro line hline
  rcases List.mem_append.mp hline with hline | hline
  · rcases List.mem_append.mp hline with hline | hline
    · obtain ⟨text, htext, rfl⟩ := List.mem_map.mp hline
      exact (isCodeLine_of_mem_headBlock h text htext).padded width
    · obtain ⟨text, htext, rfl⟩ := List.mem_map.mp hline
      exact (h.body text htext).padded (2 * width)
  · obtain rfl := List.mem_singleton.mp hline
    exact IsCodeLine.padded (by decide) width

theorem sectionBlock_paragraphs (h : part.IsCode) :
    Paragraphs (sectionBlock width comments part) := by
  have hline : IsCodeLine ("// --- " ++ part.title ++ " ---") := by simp +decide [h.title]
  have htitle : Paragraphs [padded width ("// --- " ++ part.title ++ " ---")] :=
    .group (by simp) (List.forall_mem_singleton.mpr (hline.padded width))
  refine htitle.flatMap fun m hm ↦ .group ?_ (isCodeLine_of_mem_methodBlock (h.methods m hm))
  simp [methodBlock]

theorem sectionTitle_eq {title : String} (h : IsOneLine title) : sectionTitle spaces title =
    padded spaces.toNat ("// --- " ++ title ++ " ---") ++ "\n" := by
  have htitle : IsCodeLine ("--- " ++ title ++ " ---") := by simp +decide [h]
  have hcomment : IsCodeLine ("// " ++ ("--- " ++ title ++ " ---")) := by simp +decide [htitle]
  have hjoin : "// " ++ ("--- " ++ title ++ " ---") = "// --- " ++ title ++ " ---" := by
    simp [← String.toList_inj]
  rw [sectionTitle, Text.lineComment_eq htitle, Text.indent_eq_padded hcomment, hjoin]

theorem sectionText_eq (h : part.IsCode) : Generator.sectionText spaces part =
    linesText (sectionBlock spaces.toNat true part) := by
  have hmethod : ∀ m ∈ part.methods, "\n" ++ Text.indent spaces (methodText spaces m) ++ "\n" =
      linesText ("" :: methodBlock spaces.toNat true m) := by
    intro m hm
    rw [String.append_assoc, indent_methodText (h.methods m hm), Text.linesText_cons]
    rfl
  rw [Generator.sectionText, sectionText, sectionTitle_eq h.title, List.map_map, sectionBlock,
    Text.linesText_cons, Text.linesText_flatMap, ← List.map_congr_left hmethod]
  rfl

end Layout

namespace Generator

open Layout

variable {s : Settings} {c : ClassOutline} {cache : NameCache}

/-- The code for a class, line by line: the enabled sections with an empty line between every two
of them. Documentation is kept where comments are wanted. -/
def referenceLines (s : Settings) (c : ClassOutline) : List String :=
  [""].intercalate
    ((enabledSections true s c).map (sectionBlock s.indentSize.toNat s.comments.isTruthy))

theorem sectionBlock_documented (s : Settings) (c : ClassOutline) (width : Nat) (comments : Bool) :
    (enabledSections true s c).map (sectionBlock width comments) =
      (enabledSections comments s c).map (sectionBlock width true) := by
  cases comments with
  | true => rfl
  | false =>
    let strip (part : Section) : Section :=
      ⟨part.title, part.methods.map fun m ↦ { m with doc := [] }⟩
    have hstrip (part : Section) :
        sectionBlock width true (strip part) = sectionBlock width false part := by
      have hmethod (m : Method) : methodBlock width true { m with doc := [] } =
          methodBlock width false m := by
        simp [methodBlock, headBlock, docBlock]
      simp only [sectionBlock, strip, List.flatMap_map, hmethod]
    have hsections : switchedSections false s c =
        (switchedSections true s c).map fun (switch, part) ↦ (switch, strip part) := by
      simp only [switchedSections, strip, List.map_cons, List.map_nil, List.map_map]
      rfl
    have henabled : enabledSections false s c = (enabledSections true s c).map strip := by
      rw [enabledSections, hsections, List.filter_map, enabledSections, List.map_map, List.map_map]
      rfl
    rw [henabled, List.map_map]
    exact List.map_congr_left fun part _ ↦ (hstrip part).symm

theorem enabledSections_isCode {comments : Bool} (hstart : IsOneLine s.naming.booleanPrefix)
    (hclass : IsOneLine c.displayName) (htypes : ∀ f ∈ c.fields, IsOneLine f.type) :
    ∀ part ∈ enabledSections comments s c, part.IsCode := by
  have hproperties : ∀ p ∈ c.fields.map s.naming.property, p.IsFlat := by
    intro p hp
    obtain ⟨f, hf, rfl⟩ := List.mem_map.mp hp
    exact Naming.property_isFlat hstart (htypes f hf)
  intro part hpart
  obtain ⟨⟨switch, part⟩, hmem, rfl⟩ := List.mem_map.mp hpart
  have hmem := (List.mem_filter.mp hmem).1
  simp only [switchedSections, List.mem_cons, Prod.mk.injEq, List.not_mem_nil, or_false] at hmem
  rcases hmem with ⟨-, rfl⟩ | ⟨-, rfl⟩ | ⟨-, rfl⟩ | ⟨-, rfl⟩
  · refine ⟨(by decide : IsOneLine "Getters"), fun m hm ↦ ?_⟩
    obtain ⟨p, hp, rfl⟩ := List.mem_map.mp hm
    exact Method.getter_isCode (hproperties p hp)
  · refine ⟨(by decide : IsOneLine "Setters"), fun m hm ↦ ?_⟩
    obtain ⟨p, hp, rfl⟩ := List.mem_map.mp hm
    exact Method.setter_isCode (hproperties p hp)
  · refine ⟨(by decide : IsOneLine "Copy Constructor"), List.forall_mem_singleton.mpr ?_⟩
    exact Method.copyConstructor_isCode hclass htypes
  · refine ⟨(by decide : IsOneLine "Equals and HashCode"), List.forall_mem_cons.mpr
      ⟨Method.equals_isCode hclass hproperties, List.forall_mem_singleton.mpr ?_⟩⟩
    exact Method.hashCode_isCode trivial hproperties

theorem intercalate_sectionText (spaces : Int) {parts : List Section}
    (h : ∀ part ∈ parts, part.IsCode) : "\n".intercalate (parts.map (sectionText spaces)) =
      linesText ([""].intercalate (parts.map (sectionBlock spaces.toNat true))) := by
  rw [← Text.intercalate_linesText, List.map_map]
  exact congrArg _ (List.map_congr_left fun part hpart ↦ sectionText_eq (h part hpart))

theorem booleanPrefix_of_ofMerged {merged : List (CodePoints × Json)}
    (h : Settings.ofMerged merged = .ok s) :
    s.naming.booleanPrefix = "is" ∨ s.naming.booleanPrefix = "get" := by
  rw [Settings.ofMerged] at h
  split at h
  · cases h
  · simp only at h
    split at h
    · next hstart _ _ _ =>
      obtain rfl := Except.ok.inj h
      simpa using List.mem_of_find?_eq_some hstart
    · cases h
  · cases h

theorem indentSize_of_ofMerged {merged : List (CodePoints × Json)}
    (h : Settings.ofMerged merged = .ok s) : 0 < s.indentSize := by
  rw [Settings.ofMerged] at h
  split at h
  · cases h
  · simp only at h
    split at h
    · next hindent _ =>
      obtain rfl := Except.ok.inj h
      simpa using (Option.filter_eq_some_iff.mp hindent).2
    · cases h
  · cases h

theorem isOneLine_displayName (h : ∀ name ∈ c.className, IsOneLine name) :
    IsOneLine c.displayName := by
  rw [ClassOutline.displayName]
  cases hc : c.className with
  | none => exact (by decide : IsOneLine "None")
  | some name => exact h name hc

def sample : ClassOutline := ⟨some "Sample", (Field.make? "int" "a" 1).toOption.toList, 0⟩

theorem ofMerged_multiplier {n : Int} (h : 0 < n) :
    Settings.ofMerged (Settings.merge
      [[("equals_hash", .bool true), ("hash_multiplier", .integer n)]]) =
        .ok { Settings.default with equalsHash := .bool true, hashMultiplier := n } := by
  have hvalue : (Json.member? "hash_multiplier" (Settings.merge
      [[("equals_hash", .bool true), ("hash_multiplier", .integer n)]])).getD .null =
        .integer n := rfl
  have hpositive : Settings.positive? (.integer n) = some n := by
    simp [Settings.positive?, Json.integer?, h]
  simp only [Settings.ofMerged, hvalue, hpositive]
  rfl

end Generator

end Boilerplate
