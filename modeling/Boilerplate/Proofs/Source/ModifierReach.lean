import Boilerplate.Proofs.Source.StatementPlace

namespace Boilerplate.Source

/-- Whether a place in a run of tokens, between `before` and `rest`, lies in a group that follows
an owner. -/
def InGroup (isOwner : Token → Prop) (opening closing : String) (before rest : List Token) :
    Prop :=
  ∃ outside owner opened closed after, before = outside ++ owner :: opened ∧
    rest = closed ++ after ∧ closed ≠ [] ∧ isOwner owner ∧
    IsGroup opening closing (opened ++ closed)

def InAnnotation (before rest : List Token) : Prop :=
  InGroup (·.kind = .atName) "(" ")" before rest

def InTypeArguments (before rest : List Token) : Prop :=
  InGroup (·.isWord = true) "<" ">" before rest

/-- Whether a token in front of the name of a field is out of reach of its modifiers: it stands on
a line above, in the arguments of an annotation or of the type, or a bracket is closed behind it
that is not opened there. -/
def IsOutOfReach (line : Nat) (before : List Token) (t : Token) (between : List Token) : Prop :=
  t.line < line ∨ InAnnotation before (t :: between) ∨ InTypeArguments before (t :: between) ∨
    ∃ start, start <+: between ∧ bracketDepth start < 0

section Groups

variable {isOwner : Token → Prop} {opening closing : String} {words : List String} {t : Token}
  {before rest run type : List Token}

theorem InGroup.append_left (h : InGroup isOwner opening closing before rest)
    (front : List Token) : InGroup isOwner opening closing (front ++ before) rest := by
  obtain ⟨outside, owner, opened, closed, after, rfl, hgroup⟩ := h
  exact ⟨front ++ outside, owner, opened, closed, after, by simp, hgroup⟩

theorem InGroup.append_right (h : InGroup isOwner opening closing before rest)
    (more : List Token) : InGroup isOwner opening closing before (rest ++ more) := by
  obtain ⟨outside, owner, opened, closed, after, hbefore, rfl, hgroup⟩ := h
  exact ⟨outside, owner, opened, closed, after ++ more, hbefore, by simp, hgroup⟩

theorem ModifierRun.inAnnotation (h : ModifierRun words run) (hsplit : run = before ++ t :: rest)
    (hw : t.isWord = true) (ht : t.text ∉ words) : InAnnotation before (t :: rest) := by
  have hname {u : Token} (hu : u.kind = .atName) : u ≠ t := by
    rintro rfl
    simp [Token.isWord, hu] at hw
  induction h generalizing before with
  | nil => simp at hsplit
  | @word u words ts hu hmem hts ih =>
    rcases List.append_eq_cons_iff.mp hsplit.symm with ⟨rfl, hrest⟩ | ⟨before, rfl, hrest⟩
    · obtain ⟨rfl, -⟩ := List.cons.inj hrest
      exact absurd (.head _) ht
    · exact (ih hrest fun hmem ↦ ht (.tail _ hmem)).append_left [u]
  | @bare u words ts hu hts ih =>
    rcases List.append_eq_cons_iff.mp hsplit.symm with ⟨rfl, hrest⟩ | ⟨before, rfl, hrest⟩
    · exact absurd (List.cons.inj hrest).1.symm (hname hu)
    · exact (ih hrest ht).append_left [u]
  | @call u words group ts hu hgroup hts ih =>
    rcases List.append_eq_cons_iff.mp hsplit.symm with ⟨rfl, hrest⟩ | ⟨before, rfl, hrest⟩
    · exact absurd (List.cons.inj hrest).1.symm (hname hu)
    rcases append_eq_append_cons hrest with ⟨more, rfl, rfl⟩ | ⟨front, rfl, hmore⟩
    · exact ⟨[], u, before, t :: more, ts, rfl, rfl, by simp, hu, hgroup⟩
    · exact (ih hmore ht).append_left (u :: group)

theorem DimensionRun.isWord_eq_false (h : DimensionRun run) : ∀ t ∈ run, t.isWord = false := by
  induction h with
  | nil => simp
  | pair ha hb _ ih =>
    simpa [Token.isWord_eq_false_of_isSymbol ha, Token.isWord_eq_false_of_isSymbol hb] using ih

theorem IsTypeRun.inTypeArguments (h : IsTypeRun type) (hsplit : type = before ++ t :: rest)
    (hw : t.isWord = true) (ht : t.text ∈ fieldModifiers) :
    InTypeArguments before (t :: rest) := by
  obtain ⟨start, arguments, dimensions, rfl, hstart, harguments, hdimensions⟩ := h
  rcases List.append_eq_cons_iff.mp hsplit.symm with ⟨rfl, hrest⟩ | ⟨before, rfl, hrest⟩
  · obtain ⟨rfl, -⟩ := List.cons.inj hrest
    exact absurd ht hstart.2.1
  rcases append_eq_append_cons hrest with ⟨more, rfl, rfl⟩ | ⟨front, rfl, hmore⟩
  · have hgroup := (harguments.resolve_left (by simp)).1
    exact ⟨[], start, before, t :: more, dimensions, rfl, rfl, by simp, hstart.1, hgroup⟩
  · have hnot := hdimensions.isWord_eq_false t (by simp [hmore])
    exact absurd (hnot ▸ hw) Bool.false_ne_true

end Groups

section Fields

variable {source : String} {start : Text.CodePoints} {ts between before : List Token} {t : Token} {x : Extraction}
  {f : Field}

theorem IsCutOff.exists_closed (h : IsCutOff (before ++ t :: between)) (hw : t.isWord = true)
    (hfree : ∀ u ∈ between, ∀ mark ∈ statementBounds, u.isSymbol mark = false) :
    ∃ start, start <+: between ∧ bracketDepth start < 0 := by
  obtain ⟨start, hs, hdepth⟩ := h (t :: between) (by simp) (List.suffix_append _ _) <| by
    intro u hu mark hm
    rcases List.mem_cons.mp hu with rfl | hu
    · exact Token.isSymbol_eq_false_of_isWord mark hw
    · exact hfree u hu mark hm
  rcases List.prefix_cons_iff.mp hs with rfl | ⟨start, rfl, hstart⟩
  · exact absurd hdepth (by decide)
  refine ⟨start, hstart, ?_⟩
  simpa [bracketDepth_cons, Token.isOpener, Token.isCloser, Token.isSymbol_eq_false_of_isWord _ hw]
    using hdepth

/-- A field comes from a declaration in the source. Every excluded modifier between the last
semicolon or brace and the name in it is out of reach. -/
theorem isOutOfReach_of_mem_fields (h : tokens source = .ok ts)
    (hx : extract source start = .ok x) (hf : f ∈ x.fields) :
    ∃ (d : FieldDeclaration) (before after : List Token), ts = before ++ d.tokens ++ after ∧
      d.tokens ∈ allStatements ts ∧ findingOf start d.tokens = .ok (.field f) ∧
      d.name.text = f.name ∧ d.name.line = f.line ∧
      ∀ front t between, before ++ (d.modifiers ++ d.type) = front ++ t :: between →
        t.isWord = true → t.text ∈ excludedModifiers →
        (∀ u ∈ between, ∀ mark ∈ statementBounds, u.isSymbol mark = false) →
        IsOutOfReach f.line front t between := by
  obtain ⟨d, hd, hfinding, hname, hline⟩ := exists_declaration h hx hf
  obtain ⟨above, cut, after, line, hts, habove, hstatement, hcut⟩ := mem_allStatements_split h hd
  have hlines : line = f.line := by
    rw [← hline]
    exact (hstatement d.name (by simp [FieldDeclaration.tokens])).symm
  refine ⟨d, above ++ cut, after, by simp [hts], hd, hfinding, hname, hline, ?_⟩
  intro front t between hsplit hw ht hfree
  rw [List.append_assoc] at hsplit
  rcases append_eq_append_cons hsplit with ⟨more, rfl, -⟩ | ⟨front, rfl, hcutoff⟩
  · exact .inl (hlines ▸ habove t (by simp))
  rcases append_eq_append_cons hcutoff with ⟨more, rfl, rfl⟩ | ⟨front, rfl, hown⟩
  · obtain ⟨start, hs, hdepth⟩ := hcut.exists_closed hw fun u hu ↦ hfree u (by simp [hu])
    exact .inr (.inr (.inr ⟨start, hs.trans (List.prefix_append _ _), hdepth⟩))
  rcases append_eq_append_cons hown with ⟨more, hmodifier, rfl⟩ | ⟨front, rfl, htype⟩
  · have hin := d.modifierRun.inAnnotation hmodifier hw (d.not_excluded t.text ht)
    exact .inr (.inl (((hin.append_left cut).append_left above).append_right d.type))
  · have hmodifiers : ∀ word ∈ excludedModifiers, word ∈ fieldModifiers := by decide
    have hin := d.isTypeRun.inTypeArguments htype hw (hmodifiers t.text ht)
    exact .inr (.inr (.inl
      (((hin.append_left d.modifiers).append_left cut).append_left above)))

theorem isOutOfReach_of_mem_fields_annotated :
    let source := "class A \x7b\n @B(final int c) private int a;\n\x7d"
    ∃ ts x f, tokens source = .ok ts ∧ extract source "" = .ok x ∧ f ∈ x.fields ∧
      ∃ (d : FieldDeclaration) (before after : List Token), ts = before ++ d.tokens ++ after ∧
        d.name.text = f.name ∧
        ∀ front t between, before ++ (d.modifiers ++ d.type) = front ++ t :: between →
          t.isWord = true → t.text ∈ excludedModifiers →
          (∀ u ∈ between, ∀ mark ∈ statementBounds, u.isSymbol mark = false) →
          IsOutOfReach f.line front t between := by
  intro source
  have hrun : (extract source "").toOption.any (fun x ↦ x.fields.map (·.name) = ["a"]) = true := by
    decide +kernel
  have hlexes : (tokens source).toOption.isSome = true := by decide +kernel
  obtain ⟨x, hx, hnames⟩ := Option.any_eq_true _ _ |>.mp hrun
  obtain ⟨ts, hts⟩ := Option.isSome_iff_exists.mp hlexes
  obtain ⟨f, hf, -⟩ := List.map_eq_singleton_iff.mp (of_decide_eq_true hnames)
  have hmem : f ∈ x.fields := by simp [hf]
  have hts := eq_ok_of_toOption hts
  have hx := eq_ok_of_toOption hx
  obtain ⟨d, before, after, he, -, -, hname, -, hreach⟩ := isOutOfReach_of_mem_fields hts hx hmem
  exact ⟨ts, x, f, hts, hx, hmem, d, before, after, he, hname, hreach⟩

/-- A modifier on the line above is not seen: the field is taken, without a warning. -/
theorem static_above_not_seen :
    let source := "class A \x7b\nstatic\nprivate int a;\n\x7d"
    ∃ front t between name after x f,
      tokens source = .ok (front ++ t :: (between ++ name :: after)) ∧
      (∀ u ∈ front ++ t :: between, u.kind ≠ .atName) ∧
      (∀ u ∈ between, ∀ mark ∈ statementBounds, u.isSymbol mark = false) ∧
      t.isWord = true ∧ t.text = "static" ∧ t.text ∈ excludedModifiers ∧ t.line < name.line ∧
      extract source "" = .ok x ∧ x.fields = [f] ∧ f.name = name.text ∧ f.line = name.line ∧
      x.warnings = [] := by
  intro source
  have hlexes : (tokens source).toOption = some
      [⟨.word, "class", 1, []⟩, ⟨.word, "A", 1, []⟩, ⟨.symbol, "\x7b", 1, []⟩,
        ⟨.word, "static", 2, []⟩, ⟨.word, "private", 3, []⟩, ⟨.word, "int", 3, []⟩,
        ⟨.word, "a", 3, []⟩, ⟨.symbol, ";", 3, []⟩, ⟨.symbol, "\x7d", 4, []⟩] := by
    decide +kernel
  have hextracts : (extract source "").toOption.any (fun x ↦
      x.fields.map (fun f ↦ (f.name, f.line)) = [("a", 3)] ∧ x.warnings = []) = true := by
    decide +kernel
  obtain ⟨x, hx, hfields⟩ := Option.any_eq_true _ _ |>.mp hextracts
  obtain ⟨hfields, hwarnings⟩ := of_decide_eq_true hfields
  obtain ⟨f, hf, hfield⟩ := List.map_eq_singleton_iff.mp hfields
  obtain ⟨hname, hline⟩ := Prod.mk.inj hfield
  exact ⟨[_, _, _], _, [_, _], _, _, x, f, eq_ok_of_toOption hlexes, by decide, by decide,
    by decide, rfl, by decide, by decide, eq_ok_of_toOption hx, hf, hname, hline, hwarnings⟩

end Fields

end Boilerplate.Source
