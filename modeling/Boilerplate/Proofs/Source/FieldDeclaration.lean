import Boilerplate.Proofs.Source.Group

namespace Boilerplate.Source

def bracketDepth (ts : List Token) : Int :=
  ts.countP Token.isOpener - ts.countP Token.isCloser

/-- How many type arguments are open behind a run, which is given from its end. -/
def openAngles : List Token → Nat
  | [] => 0
  | t :: before =>
    if t.isSymbol "<" ∧ opensTypeArguments before.head? then openAngles before + 1
    else if t.isSymbol ">" then openAngles before - 1
    else openAngles before

/-- The end of a declaration: nothing, or an initializer without a comma outside all brackets
and type arguments. -/
def IsTail (ts : List Token) : Prop :=
  ts = [] ∨ ∃ sign value, ts = sign :: value ∧ sign.isSymbol "=" = true ∧
    ∀ before comma after, value = before ++ comma :: after → comma.isSymbol "," = true →
      ¬(bracketDepth before = 0 ∧ openAngles before.reverse = 0)

structure FieldDeclaration where
  words : List String
  modifiers : List Token
  type : List Token
  name : Token
  dimensions : List Token
  tail : List Token
  modifierRun : ModifierRun words modifiers
  private_mem : "private" ∈ words
  not_excluded : ∀ word ∈ excludedModifiers, word ∉ words
  isTypeRun : IsTypeRun type
  name_isWord : name.isWord = true
  point_not_mem : '.' ∉ name.text.toList
  dimensionRun : DimensionRun dimensions
  isTail : IsTail tail

def FieldDeclaration.tokens (d : FieldDeclaration) : List Token :=
  d.modifiers ++ d.type ++ [d.name] ++ d.dimensions ++ d.tail

section Tail

variable {t : Token} {ts : List Token}

theorem isOpener_iff : t.isOpener = true ↔
    ∃ mark ∈ ["(", "[", "\x7b"], t.isSymbol mark = true := by
  simp [Token.isOpener, or_assoc]

theorem isCloser_iff : t.isCloser = true ↔
    ∃ mark ∈ [")", "]", "\x7d"], t.isSymbol mark = true := by
  simp [Token.isCloser, or_assoc]

theorem isSymbol_eq_false_of_isOpener {mark : String} (h : t.isOpener = true)
    (hm : mark ∉ ["(", "[", "\x7b"]) : t.isSymbol mark = false := by
  obtain ⟨other, ho, ht⟩ := isOpener_iff.mp h
  exact Token.isSymbol_eq_false ht fun he ↦ hm (he ▸ ho)

theorem isSymbol_eq_false_of_isCloser {mark : String} (h : t.isCloser = true)
    (hm : mark ∉ [")", "]", "\x7d"]) : t.isSymbol mark = false := by
  obtain ⟨other, ho, ht⟩ := isCloser_iff.mp h
  exact Token.isSymbol_eq_false ht fun he ↦ hm (he ▸ ho)

theorem isCloser_eq_false_of_isOpener (h : t.isOpener = true) : t.isCloser = false := by
  cases hc : t.isCloser
  · rfl
  · have hdisjoint : ∀ mark ∈ [")", "]", "\x7d"], mark ∉ ["(", "[", "\x7b"] := by decide
    obtain ⟨mark, hm, ht⟩ := isCloser_iff.mp hc
    rw [isSymbol_eq_false_of_isOpener h (hdisjoint mark hm)] at ht
    exact absurd ht Bool.false_ne_true

theorem isOpener_eq_false_of_isCloser (h : t.isCloser = true) : t.isOpener = false := by
  by_contra ho
  rw [isCloser_eq_false_of_isOpener (by simpa using ho)] at h
  cases h

theorem not_bracket_of_isSymbol {mark : String} (h : t.isSymbol mark = true)
    (hm : mark ∉ ["(", "[", "\x7b"] ∧ mark ∉ [")", "]", "\x7d"]) :
    t.isOpener = false ∧ t.isCloser = false := by
  constructor
  · by_contra ho
    rw [isSymbol_eq_false_of_isOpener (by simpa using ho) hm.1] at h
    cases h
  · by_contra hc
    rw [isSymbol_eq_false_of_isCloser (by simpa using hc) hm.2] at h
    cases h

theorem bracketDepth_cons (t : Token) (ts : List Token) : bracketDepth (t :: ts) =
    bracketDepth ts + (if t.isOpener then 1 else 0) - if t.isCloser then 1 else 0 := by
  simp only [bracketDepth, List.countP_cons]
  split <;> split <;> omega

theorem bracketDepth_append (ts us : List Token) :
    bracketDepth (ts ++ us) = bracketDepth ts + bracketDepth us := by
  simp only [bracketDepth, List.countP_append]
  omega

theorem bracketDepth_reverse (ts : List Token) : bracketDepth ts.reverse = bracketDepth ts := by
  simp only [bracketDepth, List.countP_reverse]

/-- The scan of an initializer knows of the run `seen` behind it, given from its end, only the
depths and the last token. -/
theorem hasSecondDeclarator_iff (seen : List Token) :
    hasSecondDeclarator (bracketDepth seen) (openAngles seen) seen.head? ts = true ↔
      ∃ before comma after, ts = before ++ comma :: after ∧ comma.isSymbol "," = true ∧
        bracketDepth (before.reverse ++ seen) = 0 ∧ openAngles (before.reverse ++ seen) = 0 := by
  induction ts generalizing seen with
  | nil => simp [hasSecondDeclarator]
  | cons t ts ih =>
    have hsplit : (∃ before comma after, t :: ts = before ++ comma :: after ∧
          comma.isSymbol "," = true ∧ bracketDepth (before.reverse ++ seen) = 0 ∧
          openAngles (before.reverse ++ seen) = 0) ↔
        (t.isSymbol "," = true ∧ bracketDepth seen = 0 ∧ openAngles seen = 0) ∨
        hasSecondDeclarator (bracketDepth (t :: seen)) (openAngles (t :: seen)) (some t) ts =
          true := by
      rw [← List.head?_cons (l := seen), ih (t :: seen)]
      constructor
      · intro h
        obtain ⟨before, comma, after, he, hc, hb, ha⟩ := h
        cases before with
        | nil =>
          obtain ⟨rfl, rfl⟩ := List.cons.inj he
          exact .inl ⟨hc, hb, ha⟩
        | cons u before =>
          obtain ⟨rfl, rfl⟩ := List.cons.inj he
          refine .inr ⟨before, comma, after, rfl, hc, ?_, ?_⟩
          · simpa using hb
          · simpa using ha
      · intro h
        rcases h with ⟨hc, hb, ha⟩ | ⟨before, comma, after, rfl, hc, hb, ha⟩
        · exact ⟨[], t, ts, rfl, hc, hb, ha⟩
        · exact ⟨t :: before, comma, after, rfl, hc, by simpa using hb, by simpa using ha⟩
    rw [hsplit, hasSecondDeclarator, bracketDepth_cons, openAngles]
    by_cases ho : t.isOpener = true
    · have hlt : t.isSymbol "<" = false := isSymbol_eq_false_of_isOpener ho (by decide)
      have hgt : t.isSymbol ">" = false := isSymbol_eq_false_of_isOpener ho (by decide)
      have hcomma : t.isSymbol "," = false := isSymbol_eq_false_of_isOpener ho (by decide)
      simp [ho, isCloser_eq_false_of_isOpener ho, hlt, hgt, hcomma]
    by_cases hc : t.isCloser = true
    · have hlt : t.isSymbol "<" = false := isSymbol_eq_false_of_isCloser hc (by decide)
      have hgt : t.isSymbol ">" = false := isSymbol_eq_false_of_isCloser hc (by decide)
      have hcomma : t.isSymbol "," = false := isSymbol_eq_false_of_isCloser hc (by decide)
      simp [ho, hc, hlt, hgt, hcomma]
    by_cases hlt : t.isSymbol "<" = true
    · have hgt := Token.isSymbol_eq_false (b := ">") hlt (by decide)
      have hcomma := Token.isSymbol_eq_false (b := ",") hlt (by decide)
      by_cases hopen : opensTypeArguments seen.head? = true
      · simp [ho, hc, hlt, hcomma, hopen]
      · simp [ho, hc, hlt, hgt, hcomma, hopen]
    by_cases hgt : t.isSymbol ">" = true
    · have hcomma := Token.isSymbol_eq_false (b := ",") hgt (by decide)
      by_cases hzero : openAngles seen = 0
      · simp [ho, hc, hlt, hgt, hcomma, hzero]
      · simp [ho, hc, hlt, hgt, hcomma, hzero]
    · by_cases hcomma : t.isSymbol "," = true ∧ bracketDepth seen = 0 ∧ openAngles seen = 0
      · simp [ho, hc, hlt, hgt, hcomma]
      · simp [ho, hc, hlt, hgt, hcomma]

theorem tailFault?_eq_none_iff : tailFault? ts = none ↔ IsTail ts := by
  cases ts with
  | nil => simp [tailFault?, IsTail]
  | cons sign value =>
    have hscan : hasSecondDeclarator 0 0 none value = true ↔
        ∃ before comma after, value = before ++ comma :: after ∧ comma.isSymbol "," = true ∧
          bracketDepth before = 0 ∧ openAngles before.reverse = 0 := by
      have h := @hasSecondDeclarator_iff value []
      simp only [List.append_nil, bracketDepth_reverse] at h
      exact h
    rw [tailFault?]
    by_cases hcomma : sign.isSymbol "," = true
    · have heq := Token.isSymbol_eq_false (b := "=") hcomma (by decide)
      rw [if_pos hcomma]
      refine ⟨fun h ↦ by simp at h, ?_⟩
      intro hx
      rcases hx with h | ⟨sign', value', he, hs, -⟩
      · simp at h
      · obtain ⟨rfl, rfl⟩ := List.cons.inj he
        simp [heq] at hs
    rw [if_neg hcomma]
    by_cases heq : sign.isSymbol "=" = true
    · rw [if_pos heq]
      constructor
      · intro h
        refine .inr ⟨sign, value, rfl, heq, fun before comma after hv hc hd ↦ ?_⟩
        rw [if_pos (hscan.mpr ⟨before, comma, after, hv, hc, hd⟩)] at h
        simp at h
      · intro hx
        rcases hx with h | ⟨sign', value', he, -, hall⟩
        · simp at h
        · obtain ⟨rfl, rfl⟩ := List.cons.inj he
          rw [if_neg]
          intro hs
          obtain ⟨before, comma, after, hv, hc, hd⟩ := hscan.mp hs
          exact hall before comma after hv hc hd
    · rw [if_neg heq]
      refine ⟨fun h ↦ by simp at h, ?_⟩
      intro hx
      rcases hx with h | ⟨sign', value', he, hs, -⟩
      · simp at h
      · obtain ⟨rfl, rfl⟩ := List.cons.inj he
        exact absurd hs heq

theorem IsTail.head? (h : IsTail ts) (ht : t ∈ ts.head?) : t.isSymbol "=" = true := by
  rcases h with rfl | ⟨sign, value, rfl, hs, -⟩
  · simp at ht
  · obtain rfl : sign = t := by simpa using ht
    exact hs

theorem IsTail.endsDimensions (h : IsTail ts) : EndsDimensions ts := by
  intro a b more hx ha
  subst hx
  have heq := Token.isSymbol_eq_false (b := "=") ha (by decide)
  rw [h.head? rfl] at heq
  exact absurd heq.symm Bool.false_ne_true

end Tail

section Reading

variable {ts type : List Token} {T N : String} {L : Nat}

theorem no_parenthesis {dimensions tail : List Token} (hd : DimensionRun dimensions)
    (ht : IsTail tail) : (dimensions ++ tail).head?.any (·.isSymbol "(") = false := by
  cases hd with
  | nil =>
    rw [List.nil_append]
    cases htail : tail.head? with
    | none => rfl
    | some t => exact Token.isSymbol_eq_false (ht.head? htail) (by decide)
  | pair ha => exact Token.isSymbol_eq_false ha (by decide)

theorem readDeclarator_eq_declares_iff : readDeclarator type ts = .declares T N L ↔
    ∃ name dimensions tail, ts = name :: (dimensions ++ tail) ∧ name.isWord = true ∧
      '.' ∉ name.text.toList ∧ DimensionRun dimensions ∧ IsTail tail ∧
      typeText (type ++ dimensions) = T ∧ name.text = N ∧ name.line = L := by
  constructor
  · intro h
    cases ts with
    | nil => simp [readDeclarator] at h
    | cons name rest =>
      rw [readDeclarator] at h
      split at h
      · simp at h
      split at h
      · simp at h
      next hname =>
      split at h
      · simp at h
      split at h
      · simp at h
      next htail =>
      obtain ⟨rfl, rfl, rfl⟩ := Verdict.declares.inj h
      obtain ⟨hw, hp⟩ := not_or.mp hname
      obtain ⟨hdims, hrun⟩ := readDimensions_spec rest
      exact ⟨name, (readDimensions rest).1, (readDimensions rest).2, by rw [← hdims],
        by simpa using hw, hp, hrun, tailFault?_eq_none_iff.mp htail, rfl, rfl, rfl⟩
  · intro hx
    obtain ⟨name, dimensions, tail, rfl, hw, hp, hd, ht, rfl, rfl, rfl⟩ := hx
    have hopen : name.isSymbol "(" = false := Token.isSymbol_eq_false_of_isWord "(" hw
    have hname : ¬(name.isWord = false ∨ '.' ∈ name.text.toList) := by simp [hw, hp]
    rw [readDeclarator, if_neg (by simp [hopen]), if_neg hname,
      if_neg (by rw [no_parenthesis hd ht]; exact Bool.false_ne_true),
      readDimensions_append hd ht.endsDimensions]
    simp only [tailFault?_eq_none_iff.mpr ht]

theorem readTyped_of_readType {start : Token} {rest : List Token} (hs : IsTypeStart start)
    (h : readType start ts = .ok (type, rest)) :
    readTyped (start :: ts) = readDeclarator type rest := by
  rw [readTyped, if_neg (by simp [hs.1, hs.2.2]), h]

theorem readTyped_of_error {start : Token} {reason : Rejection} (hs : IsTypeStart start)
    (h : readType start ts = .error reason) : readTyped (start :: ts) = .rejected reason := by
  rw [readTyped, if_neg (by simp [hs.1, hs.2.2]), h]

theorem readTyped_eq_declares_iff (hwf : ∀ t ∈ ts, t.WellFormed)
    (hm : ∀ t ∈ ts.head?, t.isWord = true → t.text ∉ fieldModifiers) :
    readTyped ts = .declares T N L ↔
      ∃ type rest, ts = type ++ rest ∧ IsTypeRun type ∧
        readDeclarator type rest = .declares T N L := by
  constructor
  · intro h
    cases ts with
    | nil => simp [readTyped] at h
    | cons start ts =>
      rw [readTyped] at h
      split at h
      · simp at h
      next hs =>
      split at h
      · simp at h
      next type after hread =>
      obtain ⟨hw, hk⟩ := not_or.mp hs
      have hw' : start.isWord = true := by simpa using hw
      obtain ⟨arguments, dimensions, rfl, rfl, ha, hd⟩ :=
        exists_of_readType hread fun t ht ↦ hwf t (by simp [ht])
      exact ⟨_, after, by simp, ⟨start, arguments, dimensions, rfl, ⟨hw', hm start rfl hw', hk⟩,
        ha, hd⟩, h⟩
  · intro hx
    obtain ⟨-, rest, rfl, ⟨start, arguments, dimensions, rfl, ⟨hw, -, hk⟩, ha, hd⟩, h⟩ := hx
    obtain ⟨name, more, tail, rfl, hn, -⟩ := readDeclarator_eq_declares_iff.mp h
    have hread : readType start (arguments ++ (dimensions ++ name :: (more ++ tail))) =
        .ok (start :: arguments ++ dimensions, name :: (more ++ tail)) := readType_append ha hd
      (fun t ht ↦ hwf t (by simp only [List.cons_append, List.append_assoc]; exact .tail _ ht))
      (fun t ht ↦ Token.isSymbol_eq_false_of_isWord "<" (by simp_all))
      (endsDimensions_of_isWord fun t ht ↦ by simp_all)
    rw [List.cons_append, List.cons_append, List.append_assoc, readTyped,
      if_neg (by simp [hw, hk]), hread]
    exact h

theorem excludedModifiers_filter_eq_nil_iff {words : List String} :
    excludedModifiers.filter (· ∈ words) = [] ↔ ∀ word ∈ excludedModifiers, word ∉ words := by
  simp only [List.filter_eq_nil_iff, decide_eq_true_eq]

theorem readDeclaration_eq_readTyped (hp : "private" ∈ (readModifiers ts).1)
    (hex : ∀ word ∈ excludedModifiers, word ∉ (readModifiers ts).1) :
    readDeclaration ts = readTyped (readModifiers ts).2 := by
  rw [readDeclaration]
  simp only [hp, not_true_eq_false, ↓reduceIte, excludedModifiers_filter_eq_nil_iff.mpr hex]

theorem readDeclaration_eq_declares_iff_readTyped : readDeclaration ts = .declares T N L ↔
    "private" ∈ (readModifiers ts).1 ∧
      (∀ word ∈ excludedModifiers, word ∉ (readModifiers ts).1) ∧
      readTyped (readModifiers ts).2 = .declares T N L := by
  rw [← excludedModifiers_filter_eq_nil_iff, readDeclaration]
  by_cases hp : "private" ∈ (readModifiers ts).1
  · simp only [hp, not_true_eq_false, ↓reduceIte, true_and]
    cases excludedModifiers.filter (· ∈ (readModifiers ts).1) <;> simp
  · simp [hp]

theorem IsTypeRun.exists_cons (h : IsTypeRun type) :
    ∃ start rest, type = start :: rest ∧ IsTypeStart start := by
  obtain ⟨start, arguments, dimensions, rfl, hs, -⟩ := h
  exact ⟨start, arguments ++ dimensions, rfl, hs⟩

theorem IsTypeStart.endsModifiers {start : Token} {rest : List Token} (h : IsTypeStart start) :
    EndsModifiers (start :: rest) := by
  intro t ht
  obtain rfl : start = t := by simpa using ht
  exact ⟨Token.kind_ne_of_isWord h.1 (by decide), fun _ ↦ h.2.1,
    Token.isSymbol_eq_false_of_isWord "(" h.1⟩

theorem readDeclaration_eq_declares_iff (hwf : ∀ t ∈ ts, t.WellFormed) :
    readDeclaration ts = .declares T N L ↔
      ∃ d : FieldDeclaration, d.tokens = ts ∧ typeText (d.type ++ d.dimensions) = T ∧
        d.name.text = N ∧ d.name.line = L := by
  rw [readDeclaration_eq_declares_iff_readTyped]
  constructor
  · intro hx
    obtain ⟨hp, hex, h⟩ := hx
    have hne : (readModifiers ts).2 ≠ [] := by
      intro he
      simp [he, readTyped] at h
    obtain ⟨run, hts, hrun⟩ := exists_modifierRun hne
    have hwf' : ∀ t ∈ (readModifiers ts).2, t.WellFormed := fun t ht ↦
      hwf t (by rw [hts]; exact List.mem_append_right _ ht)
    obtain ⟨type, rest, hrest, ht, h⟩ :=
      (readTyped_eq_declares_iff hwf' fun t ht ↦ (readModifiers_head ht).2).mp h
    obtain ⟨name, dimensions, tail, rfl, hw, hpoint, hd, htail, hT, hN, hL⟩ :=
      readDeclarator_eq_declares_iff.mp h
    refine ⟨⟨_, run, type, name, dimensions, tail, hrun, hp, hex, ht, hw, hpoint, hd, htail⟩, ?_,
      hT, hN, hL⟩
    rw [hrest] at hts
    simpa [FieldDeclaration.tokens] using hts.symm
  · intro hx
    obtain ⟨d, rfl, hT, hN, hL⟩ := hx
    obtain ⟨start, more, hs, hstart⟩ := d.isTypeRun.exists_cons
    have htokens : d.tokens =
        d.modifiers ++ (d.type ++ (d.name :: (d.dimensions ++ d.tail))) := by
      simp [FieldDeclaration.tokens]
    have hends : EndsModifiers (d.type ++ (d.name :: (d.dimensions ++ d.tail))) := by
      rw [hs]
      exact hstart.endsModifiers
    have hread := readModifiers_append d.modifierRun hends
    rw [htokens, hread]
    refine ⟨d.private_mem, d.not_excluded, ?_⟩
    refine (readTyped_eq_declares_iff (fun t ht ↦ hwf t ?_) fun t ht ↦ (hends t ht).2.1).mpr
      ⟨d.type, _, rfl, d.isTypeRun, readDeclarator_eq_declares_iff.mpr
        ⟨d.name, d.dimensions, d.tail, rfl, d.name_isWord, d.point_not_mem, d.dimensionRun,
          d.isTail, hT, hN, hL⟩⟩
    rw [htokens]
    exact List.mem_append_right _ ht

end Reading

section Fields

variable {ts : List Token}

theorem typeText_ne_empty {t : Token} {ts : List Token} (h : t.text ≠ "") :
    typeText (t :: ts) ≠ "" := by
  intro he
  have hlist := congrArg String.toList he
  simp only [typeText, String.toList_append, String.toList_empty, List.append_eq_nil_iff] at hlist
  exact h (String.toList_eq_nil_iff.mp hlist.1)

theorem FieldDeclaration.make?_eq_ok (d : FieldDeclaration)
    (hwf : ∀ t ∈ d.tokens, t.WellFormed) :
    ∃ f, Field.make? (typeText (d.type ++ d.dimensions)) d.name.text d.name.line = .ok f := by
  obtain ⟨start, more, hs, hstart⟩ := d.isTypeRun.exists_cons
  have hstartText : IsWordText start.text :=
    (hwf start (by simp [FieldDeclaration.tokens, hs])).isWordText hstart.1
  have hname : IsWordText d.name.text :=
    (hwf d.name (by simp [FieldDeclaration.tokens])).isWordText d.name_isWord
  have hblank := hname.isBlank_eq_false
  have htype : typeText (d.type ++ d.dimensions) ≠ "" := by
    rw [hs]
    exact typeText_ne_empty hstartText.ne_empty
  exact ⟨⟨_, _, d.name.line, htype, hname.ne_empty, hblank⟩,
    Field.make?_eq_ok_iff.mpr ⟨rfl, rfl, rfl⟩⟩

theorem findingOf_of_declares {start : Text.CodePoints} {T N : String} {L : Nat}
    (h : readDeclaration ts = .declares T N L) :
    findingOf start ts = (Field.make? T N L).map fun f ↦
      if hasPrefix start N then .field f else .mismatch f := by
  rw [findingOf, h]

theorem hasPrefix_empty (name : String) : hasPrefix "" name = true := by
  simp [hasPrefix]

/-- A statement of tokens that a source can have gives a field exactly if the grammar derives it,
and the field has the type, the name and the line of the derivation. -/
theorem findingOf_eq_field_iff (hlex : ∀ t ∈ ts, t.IsLexed) (type name : String) (line : Nat) :
    (∃ f, findingOf "" ts = .ok (.field f) ∧ f.type = type ∧ f.name = name ∧ f.line = line) ↔
      ∃ d : FieldDeclaration, d.tokens = ts ∧ typeText (d.type ++ d.dimensions) = type ∧
        d.name.text = name ∧ d.name.line = line := by
  have hwf : ∀ t ∈ ts, t.WellFormed := fun t ht ↦ (hlex t ht).wellFormed
  rw [← readDeclaration_eq_declares_iff hwf]
  constructor
  · intro hx
    obtain ⟨f, hf, rfl, rfl, rfl⟩ := hx
    cases hv : readDeclaration ts with
    | silent | excluded | rejected => simp [findingOf, hv] at hf
    | declares T N L =>
      rw [findingOf_of_declares hv] at hf
      obtain ⟨g, hg, he⟩ := map_eq_ok_iff.mp hf
      rw [hasPrefix_empty, if_pos rfl] at he
      obtain rfl := Finding.field.inj he
      obtain ⟨rfl, rfl, rfl⟩ := Field.make?_eq_ok_iff.mp hg
      rfl
  · intro h
    obtain ⟨d, rfl, rfl, rfl, rfl⟩ := (readDeclaration_eq_declares_iff hwf).mp h
    obtain ⟨f, hf⟩ := d.make?_eq_ok hwf
    refine ⟨f, ?_, Field.make?_eq_ok_iff.mp hf⟩
    rw [findingOf_of_declares h, hf, hasPrefix_empty]
    rfl

theorem findingOf_eq_field_iff_annotated :
    ∃ ts, tokens "@Size(max = (9)) private Map<K, V[]> names[] = new Box<K, V>(1, 2)" = .ok ts ∧
      (∀ t ∈ ts, t.IsLexed) ∧
      ∃ d : FieldDeclaration, d.tokens = ts ∧ typeText (d.type ++ d.dimensions) = "Map<K, V[]>[]" ∧
        d.name.text = "names" ∧ d.name.line = 1 := by
  have hrun : (tokens "@Size(max = (9)) private Map<K, V[]> names[] = new Box<K, V>(1, 2)").toOption
      |>.any (readDeclaration · = .declares "Map<K, V[]>[]" "names" 1) := by decide +kernel
  obtain ⟨ts, hts, hread⟩ := Option.any_eq_true _ _ |>.mp hrun
  have hts := eq_ok_of_toOption hts
  have hlex : ∀ t ∈ ts, t.IsLexed := fun t ht ↦ ⟨_, ts, hts, ht⟩
  have hmake : (Field.make? "Map<K, V[]>[]" "names" 1).toOption.isSome = true := by decide
  obtain ⟨f, hf⟩ := Option.isSome_iff_exists.mp hmake
  refine ⟨ts, hts, hlex, (findingOf_eq_field_iff hlex "Map<K, V[]>[]" "names" 1).mp
    ⟨f, ?_, Field.make?_eq_ok_iff.mp (eq_ok_of_toOption hf)⟩⟩
  rw [findingOf_of_declares (of_decide_eq_true hread), eq_ok_of_toOption hf, hasPrefix_empty]
  rfl

end Fields

end Boilerplate.Source
