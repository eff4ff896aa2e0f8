import Boilerplate.Proofs.Generation.GetterWarnings
import Boilerplate.Proofs.Generation.ResultEnvelope
import Boilerplate.Proofs.Source.Findings

namespace Boilerplate

namespace Identifier

/-- Whether a name can be one of a variable: it reads as an identifier and is not taken. -/
structure IsLegal (name : String) : Prop where
  not_reserved : name ∉ reservedWords
  ne_lowLine : name ≠ "_"
  spelled : ∃ c rest, name.toList = c :: rest ∧ Text.isIdentifierStart c = true ∧
    ∀ d ∈ rest, Text.isIdentifierPart d = true

theorem isIdentifierStart_of_isPlainStart {c : Char} (h : Text.isLetter c ∨ c = '_' ∨ c = '$') :
    Text.isIdentifierStart c = true := by
  rcases h with h | rfl | rfl
  · simp [Text.isIdentifierStart, h]
  · decide +kernel
  · decide +kernel

theorem isLegal_of_faults_eq_nil {name : String}
    (hparts : ∀ d ∈ name.toList, Text.isIdentifierPart d = true) (h : faults name = []) :
    IsLegal name := by
  rw [faults] at h
  split at h
  · cases h
  · next c rest hname =>
    obtain ⟨htaken, hstart⟩ := List.append_eq_nil_iff.mp h
    rw [ite_eq_right_iff] at htaken
    rw [ite_eq_left_iff] at hstart
    have hfree : ¬(name ∈ reservedWords ∨ name = "_") := fun hw ↦
      List.cons_ne_nil _ _ (htaken hw)
    refine ⟨fun hw ↦ hfree (.inl hw), fun hw ↦ hfree (.inr hw), c, rest, hname, ?_, ?_⟩
    · by_contra hc
      exact List.cons_ne_nil _ _
        (hstart fun hplain ↦ hc (isIdentifierStart_of_isPlainStart hplain))
    · exact fun d hd ↦ hparts d (hname ▸ .tail c hd)

end Identifier

theorem Naming.mem_name_of_mem_plainName {n : Naming} {f : Field} {c : Char}
    (h : c ∈ (n.plainName f).toList) : c ∈ f.name.toList := by
  rw [plainName, stripStart] at h
  split at h
  · rw [String.toList_ofList] at h
    exact List.drop_subset _ _ h
  · exact h

namespace Source

variable {source : String} {start : Text.CodePoints} {x : Extraction}

theorem exists_tokens_of_extract (h : extract source start = .ok x) :
    ∃ ts, tokens source = .ok ts := by
  cases hts : tokens source with
  | error e =>
    rw [extract, hts] at h
    cases h
  | ok ts => exact ⟨ts, rfl⟩

theorem isIdentifierPart_of_mem_name (hx : extract source start = .ok x) {f : Field}
    (hf : f ∈ x.fields) : ∀ d ∈ f.name.toList, Text.isIdentifierPart d = true := by
  obtain ⟨ts, hts⟩ := exists_tokens_of_extract hx
  obtain ⟨d, hs, -, hname, -⟩ := exists_declaration hts hx hf
  have hmem : d.name ∈ ts := mem_of_mem_allStatements hs _ (by simp [FieldDeclaration.tokens])
  have hword : IsWordText d.name.text := (tokens_wellFormed hts _ hmem).isWordText d.name_isWord
  obtain ⟨c, rest, htext, hc, hrest⟩ := hword
  have hpoint := d.point_not_mem
  rw [← hname, htext]
  rw [htext] at hpoint
  intro e he
  rcases List.mem_cons.mp he with rfl | he'
  · exact Text.isIdentifierPart_of_isIdentifierStart hc
  · exact (hrest e he').resolve_right fun hp ↦ hpoint (hp ▸ he)

end Source

namespace Validation

variable {s : Settings} {c : ClassOutline} {f : Field} {w : String}

/-- A warning about the name that the parameter of a field's setter gets. -/
def IsParameterWarning (n : Naming) (f : Field) (w : String) : Prop :=
  w = "Field " ++ f.name ++ " is empty after removing prefix '" ++ n.variablePrefix.text ++ "'" ∨
    ∃ fault ∈ Identifier.faults (n.plainName f),
      w = "Setter parameter for " ++ f.name ++ ": " ++ fault.message

theorem exists_mem_nameWarnings (hs : s.setters.isTruthy = true) {fs : List Field} (hf : f ∈ fs)
    (hfaults : Identifier.faults (s.naming.plainName f) ≠ []) (earlier : List Property) :
    ∃ w ∈ nameWarnings s earlier (fs.map s.naming.property), IsParameterWarning s.naming f w := by
  induction fs generalizing earlier with
  | nil => cases hf
  | cons g fs ih =>
    rw [List.map_cons, nameWarnings]
    by_cases hempty : (s.naming.property g).names.plain = ""
    · rw [if_pos hempty]
      rcases List.mem_cons.mp hf with rfl | hf
      · exact ⟨_, .head _, .inl rfl⟩
      · obtain ⟨w, hw, habout⟩ := ih hf earlier
        exact ⟨w, .tail _ hw, habout⟩
    · rw [if_neg hempty, if_pos hs, List.append_assoc]
      rcases List.mem_cons.mp hf with rfl | hf
      · obtain ⟨fault, hfault⟩ := List.exists_mem_of_ne_nil _ hfaults
        exact ⟨_, List.mem_append_left _ (List.mem_map_of_mem hfault), .inr ⟨fault, hfault, rfl⟩⟩
      · obtain ⟨w, hw, habout⟩ := ih hf (s.naming.property g :: earlier)
        exact ⟨w, List.mem_append_right _ (List.mem_append_right _ hw), habout⟩

end Validation

namespace Generator

variable {s : Settings} {c : ClassOutline}

theorem setterSections (hs : s.setters.isTruthy = true) (comments : Bool) :
    (enabledSections comments s c).filter (·.title = "Setters") =
      [⟨"Setters", c.fields.map (Method.setter comments <| s.naming.property ·)⟩] := by
  have hskip (switch : Bool) (part : Section) (htitle : part.title ≠ "Setters") :
      (if switch then [part] else []).filter (·.title = "Setters") = [] := by
    cases switch <;> simp [htitle]
  simp only [enabledSections, switchedSections, map_filter_cons, List.filter_append]
  rw [if_pos hs, hskip _ _ (by simp), hskip _ _ (by simp), hskip _ _ (by simp)]
  simp

end Generator

/-- A result with code has one section of setters, with one setter for each field of the source.
If the parameter of one is no identifier that a variable can have, a warning names its field. -/
theorem setter_parameters_reported {limits : Limits} {source : String} {className : Option String}
    {s : Settings} {r : Result} (h : generateFrom limits source className s = .ok r)
    (hs : s.setters.isTruthy = true) (hsuccess : r.success = true) :
    ∃ name x, ClassName source className name ∧
      Source.extract source s.naming.variablePrefix = .ok x ∧
      (x.fields ≠ [] → r.code = Generator.codeFor s (.ofExtraction name x)) ∧
      ∃ part, (Generator.enabledSections s.comments.isTruthy s (.ofExtraction name x)).filter
          (·.title = "Setters") = [part] ∧
        List.Forall₂ (fun f m ↦
          m.signature = "public void " ++ s.naming.setterName f ++ "(" ++ f.type ++ " " ++
            s.naming.plainName f ++ ")" ∧
          m.body = ["this." ++ f.name ++ " = " ++ s.naming.plainName f ++ ";"] ∧
          (¬Identifier.IsLegal (s.naming.plainName f) →
            ∃ w, Text.CodePoints.ofString w ∈ r.warnings ∧ Validation.IsParameterWarning s.naming f w))
          x.fields part.methods := by
  obtain ⟨name, x, hname, hx, rfl⟩ := exists_of_generateFrom h
  have hany : s.anyEnabled = true := by simp [Settings.anyEnabled, hs]
  have hwritable (hne : x.fields ≠ []) : s.IsWritable limits := by
    by_contra hfails
    obtain ⟨-, -, hfailed, -⟩ := resultOf_failed name hany hne hfails
    rw [hfailed] at hsuccess
    cases hsuccess
  refine ⟨name, x, hname, hx, fun hne ↦ (resultOf_code hany hne (hwritable hne)).2, _,
    Generator.setterSections hs _, ?_⟩
  refine List.forall₂_map_right_iff.mpr (List.forall₂_same.mpr fun f hf ↦ ⟨rfl, rfl, ?_⟩)
  intro hlegal
  have hne : x.fields ≠ [] := List.ne_nil_of_mem hf
  have hfaults : Identifier.faults (s.naming.plainName f) ≠ [] := fun hnone ↦
    hlegal (Identifier.isLegal_of_faults_eq_nil (fun d hd ↦
      Source.isIdentifierPart_of_mem_name hx hf d (Naming.mem_name_of_mem_plainName hd)) hnone)
  obtain ⟨w, hw, habout⟩ := Validation.exists_mem_nameWarnings hs hf hfaults []
  refine ⟨w, List.mem_append_right _ ?_, habout⟩
  rw [runOn_eq limits _ hany hne, Generator.writingFault?_eq_none_iff.mpr (hwritable hne), Option.elim_none,
    Generator.validate_fst (Generator.ofSettings_sound ..)]
  exact List.mem_map_of_mem (List.mem_append_right _ hw)

section Sample

def illegalSource : String :=
  "class A \x7b private int m_class; private int m_1; private int m_; private int m_ok; \x7d"

theorem setter_parameters_reported_illegal :
    let limits := Limits.usual
    let s := { Settings.default with naming := ⟨"m_", "is"⟩, setters := .bool true }
    ∃ r x f w, generateFrom limits illegalSource none s = .ok r ∧ s.setters.isTruthy = true ∧
      r.success = true ∧ Source.extract illegalSource "m_" = .ok x ∧ f ∈ x.fields ∧
      s.naming.plainName f = "class" ∧ ¬Identifier.IsLegal "class" ∧
      Text.CodePoints.ofString w ∈ r.warnings ∧ Validation.IsParameterWarning s.naming f w ∧
      r.warnings = [.ofString "Setter parameter for m_class: 'class' is a Java reserved word",
        .ofString "Setter parameter for m_1: '1' does not start with a letter, '_' or '$'",
        .ofString "Field m_ is empty after removing prefix 'm_'"] := by
  intro limits s
  have hruns : (generateFrom limits illegalSource none s).toOption.any (fun r ↦ r.success = true ∧
      r.warnings = [.ofString "Setter parameter for m_class: 'class' is a Java reserved word",
        .ofString "Setter parameter for m_1: '1' does not start with a letter, '_' or '$'",
        .ofString "Field m_ is empty after removing prefix 'm_'"]) = true := by
    decide +kernel
  have hextracts : (Source.extract illegalSource "m_").toOption.any (fun x ↦
      x.fields.map s.naming.plainName = ["class", "1", "", "ok"]) = true := by
    decide +kernel
  obtain ⟨r, hr, hsuccess, hwarnings⟩ := Source.exists_eq_ok_of_any hruns
  obtain ⟨x, hx, hnames⟩ := Source.exists_eq_ok_of_any hextracts
  obtain ⟨-, x', -, hx', -, part, -, hsetters⟩ := setter_parameters_reported hr rfl hsuccess
  obtain rfl : x = x' := Except.ok.inj (hx.symm.trans hx')
  obtain ⟨f, rest, hfields, hf, -⟩ := List.map_eq_cons_iff.mp hnames
  rw [hfields] at hsetters
  obtain ⟨m, -, ⟨-, -, hreported⟩, -, -⟩ := List.forall₂_cons_left_iff.mp hsetters
  have hillegal : ¬Identifier.IsLegal "class" := fun hlegal ↦ hlegal.not_reserved (by decide)
  obtain ⟨w, hw, habout⟩ := hreported (hf.symm ▸ hillegal)
  exact ⟨r, x, f, w, hr, rfl, hsuccess, hx, by simp [hfields], hf, hillegal, hw, habout,
    hwarnings⟩

end Sample

end Boilerplate
