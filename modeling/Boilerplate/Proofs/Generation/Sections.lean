import Boilerplate.Proofs.Generation.ResolvedNames

namespace Boilerplate

/-- Whether code can be written for settings: the indentation is a count of spaces, and the
multiplier is not too long where it is written. -/
def Settings.IsWritable (limits : Limits) (s : Settings) : Prop :=
  Text.isCount s.indentSize = true ∧
    (s.equalsHash.isTruthy = true → limits.exceededBy? s.hashMultiplier = none)

instance (limits : Limits) (s : Settings) : Decidable (s.IsWritable limits) :=
  inferInstanceAs (Decidable (_ ∧ _))

namespace Generator

open Layout

variable {limits : Limits} {s : Settings} {c : ClassOutline} {comments : Bool} {spaces : Int}

section Faults

/-- An indentation that is no count shows at the first method with a body. -/
def indentFault? (s : Settings) : Option GenerationError :=
  if Text.isCount s.indentSize then none else some (.layout (.indent methodTemplate))

def multiplierFault? (limits : Limits) (s : Settings) : Option GenerationError :=
  if s.equalsHash.isTruthy then (limits.exceededBy? s.hashMultiplier).map .longMultiplier else none

def writesEarlier (s : Settings) : Bool :=
  s.getters.isTruthy || s.setters.isTruthy || s.copyConstructor.isTruthy

/-- What keeps the code for fields from being written, if anything does. A section is put into text
when it is complete. -/
def writingFault? (limits : Limits) (s : Settings) : Option GenerationError :=
  if writesEarlier s then (indentFault? s).or (multiplierFault? limits s)
  else (multiplierFault? limits s).or (indentFault? s)

theorem indentFault?_eq_none_iff : indentFault? s = none ↔ Text.isCount s.indentSize = true := by
  rw [indentFault?]
  split <;> simp_all

theorem multiplierFault?_eq_none_iff : multiplierFault? limits s = none ↔
    (s.equalsHash.isTruthy = true → limits.exceededBy? s.hashMultiplier = none) := by
  rw [multiplierFault?]
  split <;> simp_all

theorem writingFault?_eq_none_iff : writingFault? limits s = none ↔ s.IsWritable limits := by
  rw [Settings.IsWritable, ← indentFault?_eq_none_iff, ← multiplierFault?_eq_none_iff,
    writingFault?]
  split <;> simp only [Option.or_eq_none_iff]
  exact and_comm

end Faults

section Sections

def switchedSections (comments : Bool) (s : Settings) (c : ClassOutline) :
    List (Json × Section) :=
  let ps := c.fields.map s.naming.property
  [(s.getters, ⟨"Getters", ps.map (Method.getter comments)⟩),
    (s.setters, ⟨"Setters", ps.map (Method.setter comments)⟩),
    (s.copyConstructor,
      ⟨"Copy Constructor", [Method.copyConstructor s.immutableTypes comments c]⟩),
    (s.equalsHash, ⟨"Equals and HashCode",
      [Method.equals s.immutableTypes comments c ps,
        Method.hashCode s.immutableTypes (.integer s.hashMultiplier) comments ps]⟩)]

def enabledSections (comments : Bool) (s : Settings) (c : ClassOutline) : List Section :=
  ((switchedSections comments s c).filter (·.1.isTruthy)).map (·.2)

def earlierSections (comments : Bool) (s : Settings) (c : ClassOutline) : List Section :=
  (((switchedSections comments s c).take 3).filter (·.1.isTruthy)).map (·.2)

def equalsSection (comments : Bool) (s : Settings) (c : ClassOutline) : Section :=
  let ps := c.fields.map s.naming.property
  ⟨"Equals and HashCode",
    [Method.equals s.immutableTypes comments c ps,
      Method.hashCode s.immutableTypes (.integer s.hashMultiplier) comments ps]⟩

theorem map_filter_cons (switch : Json) (part : Section) (rest : List (Json × Section)) :
    (((switch, part) :: rest).filter (·.1.isTruthy)).map (·.2) =
      (if switch.isTruthy then [part] else []) ++ (rest.filter (·.1.isTruthy)).map (·.2) := by
  rw [List.filter_cons]
  split <;> rfl

theorem enabledSections_eq : enabledSections comments s c =
    earlierSections comments s c ++
      if s.equalsHash.isTruthy then [equalsSection comments s c] else [] := by
  simp only [enabledSections, earlierSections, switchedSections, List.take, map_filter_cons,
    List.filter_nil, List.map_nil, List.append_nil, List.append_assoc, equalsSection]

theorem sections_eq (limits : Limits) (s : Settings) (c : ClassOutline) :
    sections limits s c (directProperties s c) =
      (earlierSections s.comments.isTruthy s c).map .ok ++
        if s.equalsHash.isTruthy then [equalitySection limits s c (directProperties s c)]
        else [] := by
  have hmap (switch : Bool) (part : Section) :
      (if switch then [part] else []).map Except.ok =
        if switch then [(.ok part : Except GenerationError Section)] else [] := by
    cases switch <;> rfl
  simp only [sections, earlierSections, switchedSections, directProperties, List.take,
    map_filter_cons, List.filter_nil, List.map_nil, List.append_nil, List.map_append, hmap,
    List.append_assoc]

theorem equalitySection_eq (limits : Limits) (s : Settings) (hfields : c.fields ≠ []) :
    equalitySection limits s c (directProperties s c) =
      ((limits.exceededBy? s.hashMultiplier).map .longMultiplier).elim
        (.ok (equalsSection s.comments.isTruthy s c)) .error := by
  have hne : (directProperties s c).isEmpty = false := by simpa [directProperties] using hfields
  simp only [equalitySection, Method.hashCode?, hne, Bool.false_eq_true, if_false]
  cases limits.exceededBy? s.hashMultiplier <;> rfl

theorem enabledSections_ne_nil {comments : Bool} (h : s.anyEnabled = true) :
    enabledSections comments s c ≠ [] := by
  rw [enabledSections, ne_eq, List.map_eq_nil_iff, List.filter_eq_nil_iff]
  intro hnone
  simp only [switchedSections, List.forall_mem_cons] at hnone
  simp only [Settings.anyEnabled, Bool.or_eq_true] at h
  rcases h with ((h | h) | h) | h
  · exact hnone.1 h
  · exact hnone.2.1 h
  · exact hnone.2.2.1 h
  · exact hnone.2.2.2.1 h

def HasFirstBody (part : Section) : Prop := ∃ m rest, part.methods = m :: rest ∧ m.body ≠ []

theorem enabledSections_hasFirstBody (s : Settings) (comments : Bool) (h : c.fields ≠ []) :
    ∀ part ∈ enabledSections comments s c, HasFirstBody part := by
  obtain ⟨f, fs, hfs⟩ := List.exists_cons_of_ne_nil h
  intro part hpart
  obtain ⟨⟨switch, part⟩, hmem, rfl⟩ := List.mem_map.mp hpart
  have hmem := (List.mem_filter.mp hmem).1
  simp only [switchedSections, List.mem_cons, Prod.mk.injEq, List.not_mem_nil, or_false, hfs,
    List.map_cons] at hmem
  rcases hmem with ⟨-, rfl⟩ | ⟨-, rfl⟩ | ⟨-, rfl⟩ | ⟨-, rfl⟩
  · exact ⟨_, _, rfl, List.cons_ne_nil _ _⟩
  · exact ⟨_, _, rfl, List.cons_ne_nil _ _⟩
  · refine ⟨_, _, rfl, ?_⟩
    rw [Method.copyConstructor, Method.copyBody, hfs]
    exact List.cons_ne_nil _ _
  · exact ⟨_, _, rfl, List.cons_ne_nil _ _⟩

end Sections

section Texts

variable {part : Section} {e : GenerationError}

theorem partText?_eq_error (h : Text.isCount spaces = false) (hbody : HasFirstBody part) :
    partText? spaces (.ok part) = .error (.layout (.indent methodTemplate)) := by
  obtain ⟨m, ms, hms, hbody⟩ := hbody
  have hmethod : methodText? spaces m = .error (.indent methodTemplate) := by
    simp [methodText?, h, hbody]
  simp only [partText?, Except.bind, sectionText?, hms, List.mapM_cons, hmethod, bind]
  rfl

theorem sectionsText?_cons_error {part : Except GenerationError Section}
    (h : partText? spaces part = .error e) (rest : List (Except GenerationError Section)) :
    sectionsText? spaces (part :: rest) = .error e := by
  simp only [sectionsText?, List.mapM_cons, h, bind, Except.bind, Except.map]

theorem sectionsText?_append_error (h : Text.isCount spaces = true) (parts : List Section)
    (e : GenerationError) : sectionsText? spaces (parts.map .ok ++ [.error e]) = .error e := by
  have htexts : (parts.map Except.ok ++ [Except.error e]).mapM (partText? spaces) = .error e := by
    induction parts with
    | nil => rfl
    | cons part parts ih =>
      rw [List.map_cons, List.cons_append, List.mapM_cons, partText?_eq_ok h, ih]
      rfl
  rw [sectionsText?, htexts]
  rfl

theorem earlierSections_eq_nil_iff :
    earlierSections comments s c = [] ↔ writesEarlier s = false := by
  simp only [writesEarlier, earlierSections, switchedSections, List.take, map_filter_cons, List.filter_nil,
    List.map_nil, List.append_nil, List.append_eq_nil_iff, Bool.or_eq_false_iff, ite_eq_right_iff,
    List.cons_ne_nil, imp_false, Bool.not_eq_true, and_assoc]

theorem sectionsText?_sections (hany : s.anyEnabled = true) (hfields : c.fields ≠ []) :
    sectionsText? s.indentSize (sections limits s c (directProperties s c)) =
      (writingFault? limits s).elim
        (.ok ("\n".intercalate
          ((enabledSections s.comments.isTruthy s c).map (sectionText s.indentSize)))) .error := by
  have hequality := equalitySection_eq limits s hfields
  rw [sections_eq, enabledSections_eq, writingFault?]
  cases hcount : Text.isCount s.indentSize with
  | true =>
    have hindent : indentFault? s = none := indentFault?_eq_none_iff.mpr hcount
    rw [hindent, Option.none_or, Option.or_none, ite_self, multiplierFault?]
    by_cases he : s.equalsHash.isTruthy = true
    · rw [if_pos he, if_pos he, if_pos he, hequality]
      cases limits.exceededBy? s.hashMultiplier with
      | some most => exact sectionsText?_append_error hcount _ _
      | none =>
        have hlast : [Except.ok (equalsSection s.comments.isTruthy s c)] =
            [equalsSection s.comments.isTruthy s c].map
              (Except.ok : Section → Except GenerationError Section) := rfl
        rw [Option.map_none, Option.elim_none, Option.elim_none, hlast, ← List.map_append]
        exact sectionsText?_eq_ok hcount _
    · rw [if_neg he, if_neg he, if_neg he, List.append_nil, List.append_nil]
      exact sectionsText?_eq_ok hcount _
  | false =>
    have hindent : indentFault? s = some (.layout (.indent methodTemplate)) := by
      rw [indentFault?, hcount]
      rfl
    have hbodies := enabledSections_hasFirstBody s s.comments.isTruthy hfields
    rw [enabledSections_eq] at hbodies
    cases hparts : earlierSections s.comments.isTruthy s c with
    | cons part parts =>
      have hearlier : writesEarlier s = true := by
        have hne : earlierSections s.comments.isTruthy s c ≠ [] := hparts ▸ List.cons_ne_nil _ _
        rwa [ne_eq, earlierSections_eq_nil_iff, Bool.not_eq_false] at hne
      rw [if_pos hearlier, hindent]
      exact sectionsText?_cons_error
        (partText?_eq_error hcount (hbodies part (by simp [hparts]))) _
    | nil =>
      -- the section with the multiplier is the only one
      have hearlier := earlierSections_eq_nil_iff.mp hparts
      have he : s.equalsHash.isTruthy = true := by
        rw [Settings.anyEnabled, ← writesEarlier, hearlier] at hany
        exact hany
      rw [if_neg (Bool.eq_false_iff.mp hearlier), multiplierFault?, if_pos he, if_pos he, if_pos he,
        hequality, hindent]
      cases limits.exceededBy? s.hashMultiplier with
      | some most => rfl
      | none =>
        exact sectionsText?_cons_error
          (partText?_eq_error hcount (hbodies _ (by simp [he]))) _

end Texts

section Runs

def fault? (g : Generator) : Option GenerationError :=
  if g.hasTemplates then writingFault? g.limits g.settings
  else some (.missingTemplate methodTemplate)

def codeFor (s : Settings) (c : ClassOutline) : String :=
  Text.tidy ("\n".intercalate
    ((enabledSections s.comments.isTruthy s c).map (sectionText s.indentSize)))

theorem informational?_eq_none (hany : s.anyEnabled = true) (hfields : c.fields ≠ []) :
    informational? s c = none := by
  simp [informational?, hany, hfields]

theorem informational?_eq_none_iff :
    informational? s c = none ↔ s.anyEnabled = true ∧ c.fields ≠ [] := by
  refine ⟨fun h ↦ ?_, fun h ↦ informational?_eq_none h.1 h.2⟩
  rw [informational?] at h
  split at h
  · cases h
  · next hany =>
    refine ⟨by simpa using hany, fun hfields ↦ ?_⟩
    rw [if_pos (by simp [hfields])] at h
    split at h <;> cases h

variable {g : Generator}

theorem generate_eq (hany : g.settings.anyEnabled = true) (hfields : c.fields ≠ []) :
    (g.generate c).1 = g.fault?.elim
      (.ok ("\n".intercalate ((enabledSections g.settings.comments.isTruthy g.settings c).map
        (sectionText g.settings.indentSize)))) .error := by
  rw [generate_fst, fault?]
  split
  · exact sectionsText?_sections hany hfields
  · rfl

theorem run_eq (h : informational? g.settings c = none) :
    (g.run c).1 = g.fault?.elim
      ⟨codeFor g.settings c, (g.validate c).1.map .ofString, some ⟨c.className, c.fields.length⟩,
        none⟩
      .failed := by
  obtain ⟨hany, hfields⟩ := informational?_eq_none_iff.mp h
  have hgenerate : ((g.validate c).2.generate c).1 = _ := generate_eq hany hfields
  have hfault : (g.validate c).2.fault? = g.fault? := rfl
  rw [run_fst h, hgenerate, hfault]
  cases g.fault? <;> rfl

end Runs

end Generator

end Boilerplate
