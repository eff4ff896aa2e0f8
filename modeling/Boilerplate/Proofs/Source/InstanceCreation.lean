import Boilerplate.Proofs.Source.SeveralFields
import Boilerplate.Proofs.Source.StatementPlace
import Boilerplate.Proofs.Source.TypeForm

namespace Boilerplate.Source

def Token.isCapitalized (t : Token) : Bool :=
  (Identifier.simpleName t.text).toList.head?.any Char.isUpper

/-- The type of a new instance and the parts of its type arguments. A name with type arguments is
capitalized. -/
inductive CreatedType : Part → List Token → Prop
  | plain {name : Token} : name.isWord = true → CreatedType .type [name]
  | generic {name opening closing : Token} {arguments : List Token} :
      name.isWord = true → name.isCapitalized = true → opening.isSymbol "<" = true →
      CreatedType .arguments arguments → closing.isSymbol ">" = true →
      CreatedType .type (name :: opening :: (arguments ++ [closing]))
  | exactly {type dimensions : List Token} :
      CreatedType .type type → DimensionRun dimensions →
      CreatedType .argument (type ++ dimensions)
  | any {wildcard : Token} : wildcard.isSymbol "?" = true → CreatedType .argument [wildcard]
  | bounded {wildcard side : Token} {bound dimensions : List Token} :
      wildcard.isSymbol "?" = true → side.isWord = true → side.text ∈ ["extends", "super"] →
      CreatedType .type bound → DimensionRun dimensions →
      CreatedType .argument (wildcard :: side :: (bound ++ dimensions))
  | last {argument : List Token} : CreatedType .argument argument → CreatedType .arguments argument
  | next {comma : Token} {argument rest : List Token} :
      CreatedType .argument argument → comma.isSymbol "," = true → CreatedType .arguments rest →
      CreatedType .arguments (argument ++ comma :: rest)

structure InstanceCreation where
  words : List String
  modifiers : List Token
  type : List Token
  name : Token
  sign : Token
  keyword : Token
  created : List Token
  opening : Token
  arguments : List Token
  closing : Token
  modifierRun : ModifierRun words modifiers
  private_mem : "private" ∈ words
  not_excluded : ∀ word ∈ excludedModifiers, word ∉ words
  isTypeRun : IsTypeRun type
  name_isWord : name.isWord = true
  point_not_mem : '.' ∉ name.text.toList
  sign_isSymbol : sign.isSymbol "=" = true
  keyword_isWord : keyword.isWord = true
  keyword_text : keyword.text = "new"
  createdType : CreatedType .type created
  opening_isSymbol : opening.isSymbol "(" = true
  isOpen_arguments : IsOpen 0 arguments
  closing_isSymbol : closing.isSymbol ")" = true

namespace InstanceCreation

variable (d : InstanceCreation)

def value : List Token :=
  d.keyword :: (d.created ++ d.opening :: (d.arguments ++ [d.closing]))

def tokens : List Token := d.modifiers ++ (d.type ++ d.name :: d.sign :: d.value)

end InstanceCreation

section Scan

variable {depth : Int} {angles : Nat} {before : Option Token} {t name opening closing : Token}
  {ts us : List Token}

/-- A run that the search for a second declarator passes over: no comma in it counts, and it leaves
as many brackets open as there were. -/
def IsPassed (depth : Int) (angles : Nat) (ts : List Token) : Prop :=
  ∀ before rest, hasSecondDeclarator depth angles before (ts ++ rest) =
    hasSecondDeclarator depth angles (ts.getLast?.or before) rest

theorem IsPassed.nil : IsPassed depth angles [] := fun _ _ ↦ rfl

theorem IsPassed.append (h : IsPassed depth angles ts) (h' : IsPassed depth angles us) :
    IsPassed depth angles (ts ++ us) := by
  intro before rest
  rw [List.append_assoc, h, h', List.getLast?_append, Option.or_assoc]

theorem isPassed_singleton (hbracket : t.isOpener = false ∧ t.isCloser = false)
    (hangle : t.isSymbol "<" = false ∧ t.isSymbol ">" = false)
    (hcomma : t.isSymbol "," = true → angles ≠ 0) : IsPassed depth angles [t] := by
  intro before rest
  rw [List.singleton_append, hasSecondDeclarator, if_neg (by simp [hbracket]),
    if_neg (by simp [hbracket]), if_neg (by simp [hangle]), if_neg (by simp [hangle]),
    if_neg (fun hx ↦ hcomma hx.1 hx.2.2)]
  rfl

theorem isPassed_word (hw : t.isWord = true) : IsPassed depth angles [t] := by
  have hkind : t.kind ≠ .symbol := Token.kind_ne_of_isWord hw (by decide)
  have hmark (mark : String) := Token.isSymbol_eq_false_of_isWord mark hw
  exact isPassed_singleton (not_bracket_of_kind_ne hkind) ⟨hmark "<", hmark ">"⟩
    fun hcomma ↦ absurd hcomma (by simp [hmark ","])

theorem isPassed_wildcard (ht : t.isSymbol "?" = true) : IsPassed depth angles [t] := by
  have hmark (mark : String) (hm : "?" ≠ mark) := Token.isSymbol_eq_false ht hm
  exact isPassed_singleton (not_bracket_of_isSymbol ht (by decide))
    ⟨hmark "<" (by decide), hmark ">" (by decide)⟩
    fun hcomma ↦ absurd hcomma (by simp [hmark "," (by decide)])

theorem isPassed_comma (ht : t.isSymbol "," = true) (ha : angles ≠ 0) :
    IsPassed depth angles [t] :=
  isPassed_singleton (not_bracket_of_isSymbol ht (by decide))
    ⟨Token.isSymbol_eq_false ht (by decide), Token.isSymbol_eq_false ht (by decide)⟩ fun _ ↦ ha

theorem isPassed_dimensions (h : DimensionRun ts) : IsPassed depth angles ts := by
  induction h with
  | nil => exact .nil
  | @pair a b ts ha hb _ ih =>
    have ho : a.isOpener = true := isOpener_iff.mpr ⟨"[", by simp, ha⟩
    have hc : b.isCloser = true := isCloser_iff.mpr ⟨"]", by simp, hb⟩
    have hpair : IsPassed depth angles [a, b] := by
      intro before rest
      rw [List.cons_append, List.singleton_append, hasSecondDeclarator, if_pos ho,
        hasSecondDeclarator, if_neg (by simp [isOpener_eq_false_of_isCloser hc]), if_pos hc,
        Int.add_sub_cancel]
      rfl
    exact hpair.append ih

theorem isUppercase_of_isUpper {c : Char} (h : c.isUpper = true) : Text.isUppercase c = true := by
  have hall : ∀ n ∈ List.range' 65 26, Text.uppercases.any (·.contains n) = true := by
    decide +kernel
  have hbounds : 'A'.val ≤ c.val ∧ c.val ≤ 'Z'.val := of_decide_eq_true h
  exact hall c.toNat (List.mem_range'_1.mpr ⟨hbounds.1, Nat.lt_succ_of_le hbounds.2⟩)

theorem opensTypeArguments_of_isCapitalized (hw : t.isWord = true) (h : t.isCapitalized = true) :
    opensTypeArguments (some t) = true := by
  obtain ⟨c, hc, hu⟩ := Option.any_eq_true _ _ |>.mp h
  simp [opensTypeArguments, hw, hc, isUppercase_of_isUpper hu]

/-- Behind a capitalized name the angle brackets count, and what they hold is passed over with one
more of them open. -/
theorem isPassed_generic (hw : name.isWord = true) (hname : name.isCapitalized = true)
    (ho : opening.isSymbol "<" = true) (h : IsPassed depth (angles + 1) ts)
    (hc : closing.isSymbol ">" = true) :
    IsPassed depth angles (name :: opening :: (ts ++ [closing])) := by
  intro before rest
  have hopens := opensTypeArguments_of_isCapitalized hw hname
  have hlast : (name :: opening :: (ts ++ [closing])).getLast? = some closing := by
    rw [← List.cons_append, ← List.cons_append, List.getLast?_concat]
  obtain ⟨hoo, hoc⟩ := not_bracket_of_isSymbol ho (by decide)
  obtain ⟨hco, hcc⟩ := not_bracket_of_isSymbol hc (by decide)
  have hlt : closing.isSymbol "<" = false := Token.isSymbol_eq_false hc (by decide)
  calc hasSecondDeclarator depth angles before (name :: opening :: (ts ++ [closing]) ++ rest)
    _ = hasSecondDeclarator depth angles before ([name] ++ opening :: (ts ++ closing :: rest)) := by
      simp
    _ = hasSecondDeclarator depth angles (some name) (opening :: (ts ++ closing :: rest)) :=
      isPassed_word hw before _
    _ = hasSecondDeclarator depth (angles + 1) (some opening) (ts ++ closing :: rest) := by
      rw [hasSecondDeclarator, if_neg (by simp [hoo]), if_neg (by simp [hoc]), if_pos ⟨ho, hopens⟩]
    _ = hasSecondDeclarator depth (angles + 1) (ts.getLast?.or (some opening)) (closing :: rest) :=
      h _ _
    _ = hasSecondDeclarator depth angles (some closing) rest := by
      rw [hasSecondDeclarator, if_neg (by simp [hco]), if_neg (by simp [hcc]),
        if_neg (by simp [hlt]), if_pos ⟨hc, Nat.succ_ne_zero _⟩, Nat.add_sub_cancel]
    _ = _ := by rw [hlast, Option.some_or]

theorem CreatedType.isPassed {part : Part} (h : CreatedType part ts)
    (hpart : part = .arguments → angles ≠ 0) : IsPassed depth angles ts := by
  induction h generalizing angles with
  | plain hw => exact isPassed_word hw
  | generic hw hname ho _ hc ih =>
    exact isPassed_generic hw hname ho (ih fun _ ↦ Nat.succ_ne_zero _) hc
  | exactly _ hd ih => exact (ih nofun).append (isPassed_dimensions hd)
  | any ht => exact isPassed_wildcard ht
  | bounded ht hw _ _ hd ih =>
    exact (isPassed_wildcard ht).append
      ((isPassed_word hw).append ((ih nofun).append (isPassed_dimensions hd)))
  | last _ ih => exact ih nofun
  | next _ ht _ ih ih' =>
    exact (ih nofun).append ((isPassed_comma ht (hpart rfl)).append (ih' fun _ ↦ hpart rfl))

theorem hasSecondDeclarator_inside
    (h : ∀ start, start <+: ts → start ≠ ts → 0 < depth + bracketDepth start) :
    hasSecondDeclarator depth angles before ts = false := by
  induction ts generalizing depth angles before with
  | nil => rfl
  | cons t ts ih =>
    have hdepth : 0 < depth := by simpa [bracketDepth] using h [] List.nil_prefix (by simp)
    have hnext {depth' : Int} (hd : depth' = depth + (if t.isOpener then 1 else 0) -
        if t.isCloser then 1 else 0) : ∀ start, start <+: ts → start ≠ ts →
        0 < depth' + bracketDepth start := by
      intro start hs hne
      have hpos := h (t :: start) ((List.prefix_cons_inj t).mpr hs)
        fun he ↦ hne (List.cons.inj he).2
      rw [bracketDepth_cons] at hpos
      omega
    rw [hasSecondDeclarator]
    by_cases ho : t.isOpener = true
    · rw [if_pos ho]
      exact ih (hnext (by simp [ho, isCloser_eq_false_of_isOpener ho]))
    rw [if_neg ho]
    by_cases hc : t.isCloser = true
    · rw [if_pos hc]
      exact ih (hnext (by simp [hc, isOpener_eq_false_of_isCloser hc]))
    have hsame := @hnext depth (by simp [ho, hc])
    rw [if_neg hc]
    split
    · exact ih hsame
    split
    · exact ih hsame
    · rw [if_neg (fun hx ↦ absurd hx.2.1 (Int.ne_of_gt hdepth))]
      exact ih hsame

end Scan

namespace InstanceCreation

variable {d : InstanceCreation}

theorem hasSecondDeclarator_value (d : InstanceCreation) :
    hasSecondDeclarator 0 0 none d.value = false := by
  have hcreated : IsPassed 0 0 ([d.keyword] ++ d.created) :=
    (isPassed_word d.keyword_isWord).append (d.createdType.isPassed nofun)
  have hopening : d.opening.isOpener = true :=
    isOpener_iff.mpr ⟨"(", by simp, d.opening_isSymbol⟩
  have hvalue : d.value =
      [d.keyword] ++ d.created ++ d.opening :: (d.arguments ++ [d.closing]) := by
    simp [value]
  rw [hvalue, hcreated, hasSecondDeclarator, if_pos hopening]
  refine hasSecondDeclarator_inside fun start hs hne ↦ ?_
  have hnonneg := d.isOpen_arguments.2 start ((List.prefix_concat_iff.mp hs).resolve_left hne)
  omega

theorem readDeclaration_tokens (hwf : ∀ t ∈ d.tokens, t.WellFormed) :
    readDeclaration d.tokens = .declares (typeText d.type) d.name.text d.name.line := by
  rw [tokens, readDeclaration_append d.modifierRun d.private_mem d.not_excluded d.isTypeRun
    d.name_isWord fun t ht ↦ hwf t (List.mem_append_right _ ht),
    readDeclarator_initializer d.name_isWord d.point_not_mem d.sign_isSymbol,
    d.hasSecondDeclarator_value]
  rfl

end InstanceCreation

/-- A private field that starts as a new instance is a field, whatever type arguments and arguments
the instance takes. -/
theorem instanceCreation_declares (d : InstanceCreation) (hlex : ∀ t ∈ d.tokens, t.IsLexed) :
    ∃ f : Field, f.type = typeText d.type ∧ f.name = d.name.text ∧ f.line = d.name.line ∧
      readDeclaration d.tokens = .declares f.type f.name f.line ∧
      ∀ start, findingOf start d.tokens =
        .ok (if hasPrefix start f.name then .field f else .mismatch f) := by
  have hwf : ∀ t ∈ d.tokens, t.WellFormed := fun t ht ↦ (hlex t ht).wellFormed
  have hread := d.readDeclaration_tokens hwf
  obtain ⟨e, he, htype, hname, hline⟩ := (readDeclaration_eq_declares_iff hwf).mp hread
  obtain ⟨f, hf⟩ := e.make?_eq_ok (he ▸ hwf)
  rw [htype, hname, hline] at hf
  obtain ⟨hft, hfn, hfl⟩ := Field.make?_eq_ok_iff.mp hf
  refine ⟨f, hft, hfn, hfl, by rw [hread, hft, hfn, hfl], fun start ↦ ?_⟩
  rw [findingOf_of_declares hread, hf, hfn]
  rfl

section Maps

def hashMapTokens : List Token :=
  let bound := [signToken 2 '?', wordToken 2 "extends", wordToken 2 "V", signToken 2 '[',
    signToken 2 ']']
  let list := wordToken 2 "List" :: signToken 2 '<' :: (bound ++ [signToken 2 '>'])
  wordToken 2 "java.util.HashMap" :: signToken 2 '<' ::
    (wordToken 2 "K" :: signToken 2 ',' :: list ++ [signToken 2 '>'])

theorem createdType_hashMapTokens : CreatedType .type hashMapTokens := by
  have hkey := CreatedType.exactly (.plain (rfl : (wordToken 2 "K").isWord = true)) .nil
  have hdimensions : DimensionRun [signToken 2 '[', signToken 2 ']'] :=
    .pair (by decide) (by decide) .nil
  have hbound := CreatedType.bounded (by decide : (signToken 2 '?').isSymbol "?" = true)
    (rfl : (wordToken 2 "extends").isWord = true) (by decide)
    (.plain (rfl : (wordToken 2 "V").isWord = true)) hdimensions
  have hlist := CreatedType.generic (rfl : (wordToken 2 "List").isWord = true) (by decide +kernel)
    (by decide : (signToken 2 '<').isSymbol "<" = true) (.last hbound)
    (by decide : (signToken 2 '>').isSymbol ">" = true)
  have hboth := CreatedType.next hkey (by decide : (signToken 2 ',').isSymbol "," = true)
    (.last (.exactly hlist .nil))
  exact .generic rfl (by decide +kernel) (by decide) hboth (by decide)

def createdMap : InstanceCreation where
  words := ["private"]
  modifiers := [wordToken 2 "private"]
  type := [wordToken 2 "Map"]
  name := wordToken 2 "a"
  sign := signToken 2 '='
  keyword := wordToken 2 "new"
  created := hashMapTokens
  opening := signToken 2 '('
  arguments := [wordToken 2 "b", signToken 2 ',', wordToken 2 "c"]
  closing := signToken 2 ')'
  modifierRun := .word (t := wordToken 2 "private") rfl (by decide) .nil
  private_mem := List.mem_singleton_self _
  not_excluded := private_not_excluded
  isTypeRun := ⟨wordToken 2 "Map", [], [], rfl, ⟨rfl, by decide, by decide⟩, .inl rfl, .nil⟩
  name_isWord := rfl
  point_not_mem := by decide
  sign_isSymbol := by decide
  keyword_isWord := rfl
  keyword_text := rfl
  createdType := createdType_hashMapTokens
  opening_isSymbol := by decide
  isOpen_arguments :=
    ((isOpen_nil.concat (by decide : _ = ((0 : Nat) : Int))).concat
      (by decide : _ = ((0 : Nat) : Int))).concat (by decide : _ = ((0 : Nat) : Int))
  closing_isSymbol := by decide

theorem instanceCreation_declares_createdMap :
    let source :=
      "class A \x7b\n private Map a = new java.util.HashMap<K, List<? extends V[]>>(b, c);\n\x7d"
    ∃ ts f, tokens source = .ok ts ∧ createdMap.tokens ∈ allStatements ts ∧
      (∀ t ∈ createdMap.tokens, t.IsLexed) ∧ f.type = "Map" ∧ f.name = "a" ∧
      findingOf "" createdMap.tokens = .ok (.field f) := by
  intro source
  obtain ⟨ts, hts, hmem⟩ : ∃ ts, tokens source = .ok ts ∧ createdMap.tokens ∈ allStatements ts :=
    exists_eq_ok_of_any (by decide +kernel)
  have hlex : ∀ t ∈ createdMap.tokens, t.IsLexed :=
    fun t ht ↦ ⟨source, ts, hts, mem_of_mem_allStatements hmem t ht⟩
  obtain ⟨f, htype, hname, -, -, hfinding⟩ := instanceCreation_declares createdMap hlex
  refine ⟨ts, f, hts, hmem, hlex, htype, hname, ?_⟩
  rw [hfinding, hasPrefix_empty]
  rfl

end Maps

end Boilerplate.Source
