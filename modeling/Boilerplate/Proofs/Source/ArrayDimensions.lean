import Boilerplate.Proofs.Method.DeepArrays
import Boilerplate.Proofs.Source.CanonicalText
import Boilerplate.Proofs.Source.SeveralFields

namespace Boilerplate

open Method

namespace Field

variable {cs : List Char}

theorem bracketPairs_eq_zero (h : ∀ c ∈ cs.head?, c ≠ ']') : bracketPairs cs = 0 := by
  rw [bracketPairs]
  intro rest he
  subst he
  exact h ']' rfl rfl

theorem bracketPairs_dimensionText (count : Nat) (cs : List Char) :
    bracketPairs ((Source.dimensionText count).toList.reverse ++ cs) =
      bracketPairs cs + count := by
  induction count generalizing cs with
  | zero => simp [Source.dimensionText]
  | succ count ih =>
    have hpair : (Source.dimensionText (count + 1)).toList.reverse ++ cs =
        (Source.dimensionText count).toList.reverse ++ ']' :: '[' :: cs := by
      simp [Source.dimensionText, String.toList_append]
    rw [hpair, ih, bracketPairs]
    omega

end Field

/-- All that asks for the dimensions of a field comes to this number: whether it is an array, and
whether it is one of arrays, in which the methods look deeper. -/
structure IsArrayOf (dimensions : Nat) (f : Field) : Prop where
  arrayDepth : f.arrayDepth = dimensions
  isArray : f.isArray = true ↔ 0 < dimensions
  ofField : ∀ immutables, TypeKind.ofField immutables f = .array ↔ 0 < dimensions
  equalityTerm : ∀ immutables getter,
    (Code.equalityTerm (.ofField immutables f) getter f).uses .arraysDeepEquals = true ↔
      1 < dimensions
  hashSteps : ∀ immutables getter (multiplier : Int),
    (Code.hashSteps (.ofField immutables f) getter f (.integer multiplier)).any
      (·.uses .arraysDeepHashCode) = true ↔ 1 < dimensions
  equalsBody : ∀ immutables className names before after,
    (Method.equalsBody immutables className (before ++ ⟨f, names⟩ :: after)).any
      (·.uses .arraysDeepEquals) = true ↔
        1 < dimensions ∨ ∃ p ∈ before ++ after, 1 < p.field.arrayDepth
  hashBody : ∀ immutables (multiplier : Int) names before after,
    (Method.hashBody immutables (.integer multiplier) (before ++ ⟨f, names⟩ :: after)).any
      (·.uses .arraysDeepHashCode) = true ↔
        1 < dimensions ∨ ∃ p ∈ before ++ after, 1 < p.field.arrayDepth

theorem isArrayOf_arrayDepth (f : Field) : IsArrayOf f.arrayDepth f := by
  have hisArray : f.isArray = true ↔ 0 < f.arrayDepth := by
    rw [Field.isArray, bne_iff_ne, Nat.pos_iff_ne_zero]
  have hnested (names : Names) (before after : List Property) :
      (∃ p ∈ before ++ ⟨f, names⟩ :: after, 1 < p.field.arrayDepth) ↔
        1 < f.arrayDepth ∨ ∃ p ∈ before ++ after, 1 < p.field.arrayDepth := by
    simp only [List.mem_append, List.mem_cons]
    constructor
    · rintro ⟨p, hp | rfl | hp, hdepth⟩
      · exact .inr ⟨p, .inl hp, hdepth⟩
      · exact .inl hdepth
      · exact .inr ⟨p, .inr hp, hdepth⟩
    · rintro (hdepth | ⟨p, hp | hp, hdepth⟩)
      · exact ⟨⟨f, names⟩, .inr (.inl rfl), hdepth⟩
      · exact ⟨p, .inl hp, hdepth⟩
      · exact ⟨p, .inr (.inr hp), hdepth⟩
  exact {
    arrayDepth := rfl
    isArray := hisArray
    ofField := fun immutables ↦ (TypeKind.ofField_eq_array_iff immutables).trans hisArray
    equalityTerm := fun immutables getter ↦ Code.uses_equalityTerm_ofField immutables getter f
    hashSteps := fun immutables getter ↦ Code.uses_hashSteps_ofField immutables getter f
    equalsBody := fun immutables className names before after ↦
      (uses_equalsBody immutables className _).trans (hnested names before after)
    hashBody := fun immutables multiplier names before after ↦
      (uses_hashBody immutables multiplier _).trans (hnested names before after) }

namespace Source

section Runs

variable {opening closing : String} {depth p q : Nat} {t before : Token}
  {ts dimensions dimensions' : List Token}

theorem Closes.exists_last (hne : opening ≠ closing)
    (h : Closes opening closing (depth + 1) ts) :
    ∃ inner last, ts = inner ++ [last] ∧ last.isSymbol closing = true := by
  induction ts generalizing depth with
  | nil => exact absurd (closes_nil.mp h) depth.succ_ne_zero
  | cons t ts ih =>
    have hjoin : (∃ inner last, ts = inner ++ [last] ∧ last.isSymbol closing = true) →
        ∃ inner last, t :: ts = inner ++ [last] ∧ last.isSymbol closing = true := by
      rintro ⟨inner, last, rfl, hlast⟩
      exact ⟨t :: inner, last, rfl, hlast⟩
    by_cases ho : t.isSymbol opening = true
    · exact hjoin (ih ((closes_cons_opening hne ho).mp h))
    by_cases hc : t.isSymbol closing = true
    · have hrest := (closes_cons_closing hne hc).mp h
      cases depth with
      | zero =>
        obtain rfl := closes_zero_iff.mp hrest
        exact ⟨[], t, rfl, hc⟩
      | succ depth => exact hjoin (ih hrest)
    · exact hjoin (ih ((closes_cons_other (by simpa using ho) (by simpa using hc)).mp h))

theorem DimensionRun.append (h : DimensionRun dimensions) (h' : DimensionRun dimensions') :
    DimensionRun (dimensions ++ dimensions') := by
  induction h with
  | nil => exact h'
  | pair ha hb _ ih => exact .pair ha hb ih

theorem DimensionRun.exists_length (h : DimensionRun dimensions) :
    ∃ p, dimensions.length = 2 * p := by
  induction h with
  | nil => exact ⟨0, rfl⟩
  | pair _ _ _ ih =>
    obtain ⟨p, hp⟩ := ih
    exact ⟨p + 1, by simp only [List.length_cons, hp]; omega⟩

theorem endsTightly_of_isSymbol {mark : String} (ht : t.isSymbol mark = true)
    (hm : mark ≠ "," ∧ mark ≠ "&") : EndsTightly t := by
  obtain ⟨-, rfl⟩ := Token.isSymbol_iff.mp ht
  exact hm

theorem DimensionRun.typeTextAfter (h : DimensionRun dimensions) (hp : dimensions.length = 2 * p)
    (hb : EndsTightly before) : Source.typeTextAfter before dimensions = dimensionText p := by
  induction h generalizing before p with
  | nil =>
    obtain rfl : p = 0 := by
      simp only [List.length_nil] at hp
      omega
    rfl
  | @pair a b ts hopening hclosing _ ih =>
    obtain ⟨p, rfl⟩ : ∃ p', p = p' + 1 :=
      Nat.exists_eq_succ_of_ne_zero fun he ↦ by simp [he] at hp
    have hlength : ts.length = 2 * p := by
      simp only [List.length_cons] at hp
      omega
    have hopen : EndsTightly a := endsTightly_of_isSymbol hopening (by decide)
    have hclose : EndsTightly b := endsTightly_of_isSymbol hclosing (by decide)
    rw [typeTextAfter_symbol hb hopening (by decide),
      typeTextAfter_symbol hopen hclosing (by decide),
      ih hlength hclose, ← String.append_assoc]
    rfl

theorem typeTextAfter_append (before last : Token) (init rest : List Token) :
    typeTextAfter before (init ++ last :: rest) =
      typeTextAfter before (init ++ [last]) ++ typeTextAfter last rest := by
  induction init generalizing before with
  | nil => simp [typeTextAfter]
  | cons t init ih => simp only [List.cons_append, typeTextAfter, ih, String.append_assoc]

theorem typeText_append (last : Token) (init rest : List Token) :
    typeText (init ++ last :: rest) = typeText (init ++ [last]) ++ typeTextAfter last rest := by
  cases init with
  | nil => simp [typeText, typeTextAfter]
  | cons t init =>
    rw [List.cons_append, List.cons_append, typeText, typeText, typeTextAfter_append,
      String.append_assoc]

theorem exists_typeTextAfter_append (before last : Token) (init : List Token) :
    ∃ start, typeTextAfter before (init ++ [last]) = start ++ last.text := by
  induction init generalizing before with
  | nil => exact ⟨_, String.append_empty⟩
  | cons t init ih =>
    obtain ⟨start, hstart⟩ := ih t
    exact ⟨_, by rw [List.cons_append, typeTextAfter, hstart, ← String.append_assoc]⟩

theorem exists_typeText_append (last : Token) (init : List Token) :
    ∃ start, typeText (init ++ [last]) = start ++ last.text := by
  cases init with
  | nil => exact ⟨"", by simp [typeText, typeTextAfter]⟩
  | cons t init =>
    obtain ⟨start, hstart⟩ := exists_typeTextAfter_append t last init
    exact ⟨_, by rw [List.cons_append, typeText, hstart, ← String.append_assoc]⟩

end Runs

section Declarations

variable {d : FieldDeclaration} {p q : Nat} {head : Token} {type arguments dimensions : List Token}

/-- Pairs of brackets behind the type and behind the name. Those in type arguments do not count. -/
def FieldDeclaration.HasPairs (d : FieldDeclaration) (behindType behindName : Nat) : Prop :=
  ∃ head arguments dimensions, d.type = head :: arguments ++ dimensions ∧ IsTypeStart head ∧
    IsArgumentGroup arguments ∧ DimensionRun dimensions ∧
    dimensions.length = 2 * behindType ∧ d.dimensions.length = 2 * behindName

theorem FieldDeclaration.exists_hasPairs (d : FieldDeclaration) : ∃ p q, d.HasPairs p q := by
  obtain ⟨head, arguments, dimensions, htype, hhead, harguments, hdimensions⟩ := d.isTypeRun
  obtain ⟨p, hp⟩ := hdimensions.exists_length
  obtain ⟨q, hq⟩ := d.dimensionRun.exists_length
  exact ⟨p, q, head, arguments, dimensions, htype, hhead, harguments, hdimensions, hp, hq⟩

structure EndsElement (t : Token) : Prop where
  endsTightly : EndsTightly t
  not_bracket : ∃ c ∈ t.text.toList.getLast?, c ≠ ']'

theorem IsWordText.exists_getLast {text : String} (h : IsWordText text) :
    ∃ c ∈ text.toList.getLast?, c ≠ ']' := by
  obtain ⟨c, rest, ht, hc, hrest⟩ := h
  have hall : ∀ d ∈ c :: rest, Text.isIdentifierPart d = true ∨ d = '.' :=
    List.forall_mem_cons.mpr ⟨.inl (Text.isIdentifierPart_of_isIdentifierStart hc), hrest⟩
  have hbracket : ¬(Text.isIdentifierPart ']' = true ∨ ']' = '.') := by decide +kernel
  rw [ht]
  refine ⟨_, List.getLast?_eq_some_getLast (List.cons_ne_nil c rest), fun he ↦ hbracket ?_⟩
  exact he ▸ hall _ (List.getLast_mem _)

theorem exists_endsElement (hhead : IsTypeStart head) (hwf : head.WellFormed)
    (harguments : IsArgumentGroup arguments) :
    ∃ init last, head :: arguments = init ++ [last] ∧ EndsElement last := by
  rcases harguments with rfl | ⟨hgroup, -⟩
  · have htext : IsWordText head.text := hwf.isWordText hhead.1
    exact ⟨[], head, rfl, endsTightly_wordToken head.line htext, htext.exists_getLast⟩
  · obtain ⟨opening, inner, rfl, hopening⟩ := hgroup.exists_cons
    have hcloses := (isGroup_cons_iff (by decide) hopening).mp hgroup
    obtain ⟨init, last, rfl, hlast⟩ := hcloses.exists_last (by decide)
    refine ⟨head :: opening :: init, last, rfl, endsTightly_of_isSymbol hlast (by decide), '>', ?_,
      by decide⟩
    rw [(Token.isSymbol_iff.mp hlast).2]
    rfl

theorem FieldDeclaration.HasPairs.bracketPairs (h : d.HasPairs p q)
    (hwf : ∀ t ∈ d.tokens, t.WellFormed) :
    Field.bracketPairs (typeText (d.type ++ d.dimensions)).toList.reverse = p + q := by
  obtain ⟨head, arguments, dimensions, htype, hhead, harguments, hdimensions, hp, hq⟩ := h
  have hheadForm : head.WellFormed := hwf head (by simp [tokens, htype])
  obtain ⟨init, last, hinit, hlast⟩ := exists_endsElement hhead hheadForm harguments
  obtain ⟨start, hstart⟩ := exists_typeText_append last init
  have hlength : (dimensions ++ d.dimensions).length = 2 * (p + q) := by
    rw [List.length_append, hp, hq]
    omega
  have htext : typeText (d.type ++ d.dimensions) =
      start ++ last.text ++ dimensionText (p + q) := by
    rw [htype, hinit, List.append_assoc, List.append_assoc, List.singleton_append,
      typeText_append, hstart,
      (hdimensions.append d.dimensionRun).typeTextAfter hlength hlast.endsTightly]
  obtain ⟨c, hc, hne⟩ := hlast.not_bracket
  have hend : Field.bracketPairs (start ++ last.text).toList.reverse = 0 := by
    refine Field.bracketPairs_eq_zero fun e he ↦ ?_
    rw [List.head?_reverse, String.toList_append, List.getLast?_append, hc] at he
    obtain rfl : c = e := by simpa using he
    exact hne
  rw [htext, String.toList_append, List.reverse_append, Field.bracketPairs_dimensionText, hend,
    Nat.zero_add]

theorem IsTypeRun.append (h : IsTypeRun type) (hdimensions : DimensionRun dimensions) :
    IsTypeRun (type ++ dimensions) := by
  obtain ⟨head, arguments, before, rfl, hhead, harguments, hbefore⟩ := h
  exact ⟨head, arguments, before ++ dimensions, by rw [List.append_assoc], hhead, harguments,
    hbefore.append hdimensions⟩

/-- The declaration with the dimensions behind its name moved behind its type. -/
def FieldDeclaration.gathered (d : FieldDeclaration) : FieldDeclaration :=
  { d with
    type := d.type ++ d.dimensions
    dimensions := []
    isTypeRun := d.isTypeRun.append d.dimensionRun
    dimensionRun := .nil }

theorem FieldDeclaration.tokens_gathered (d : FieldDeclaration) :
    d.gathered.tokens = d.modifiers ++ (d.type ++ d.dimensions) ++ [d.name] ++ d.tail := by
  rw [tokens, gathered, List.append_nil]

theorem FieldDeclaration.readDeclaration_gathered (d : FieldDeclaration)
    (hwf : ∀ t ∈ d.tokens, t.WellFormed) :
    readDeclaration d.gathered.tokens = readDeclaration d.tokens := by
  have hwf' : ∀ t ∈ d.gathered.tokens, t.WellFormed := by
    intro t ht
    rw [tokens_gathered] at ht
    refine hwf t ?_
    simp only [tokens, List.mem_append] at ht ⊢
    tauto
  have hread := (readDeclaration_eq_declares_iff hwf).mpr ⟨d, rfl, rfl, rfl, rfl⟩
  have hread' := (readDeclaration_eq_declares_iff hwf').mpr ⟨d.gathered, rfl, rfl, rfl, rfl⟩
  rw [hread, hread', gathered, List.append_nil]

theorem FieldDeclaration.findingOf_gathered (d : FieldDeclaration)
    (hwf : ∀ t ∈ d.tokens, t.WellFormed) (start : Text.CodePoints) :
    findingOf start d.gathered.tokens = findingOf start d.tokens := by
  have hread := (readDeclaration_eq_declares_iff hwf).mpr ⟨d, rfl, rfl, rfl, rfl⟩
  rw [findingOf_of_declares hread,
    findingOf_of_declares ((d.readDeclaration_gathered hwf).trans hread)]

theorem FieldDeclaration.HasPairs.gathered (h : d.HasPairs p q) :
    d.gathered.HasPairs (p + q) 0 := by
  obtain ⟨head, arguments, dimensions, htype, hhead, harguments, hdimensions, hp, hq⟩ := h
  refine ⟨head, arguments, dimensions ++ d.dimensions, ?_, hhead, harguments,
    hdimensions.append d.dimensionRun, ?_, rfl⟩
  · rw [← List.append_assoc, ← htype]
    rfl
  · rw [List.length_append, hp, hq]
    omega

/-- Every field is an array of as many dimensions as its declaration has pairs of brackets behind
the type and behind the name. Moved behind the type, they give the same field. -/
theorem arrayDimensions_counted {ts : List Token} (hlex : ∀ t ∈ ts, t.IsLexed) {start : Text.CodePoints}
    {f : Field} (hf : findingOf start ts = .ok (.field f)) :
    (∃ (d : FieldDeclaration) (p q : Nat), d.tokens = ts ∧ d.HasPairs p q) ∧
      ∀ (d : FieldDeclaration) (p q : Nat), d.tokens = ts → d.HasPairs p q →
        IsArrayOf (p + q) f ∧ d.gathered.HasPairs (p + q) 0 ∧
          findingOf start d.gathered.tokens = .ok (.field f) := by
  have hwf : ∀ t ∈ ts, t.WellFormed := fun t ht ↦ (hlex t ht).wellFormed
  have hdeclares := (readDeclaration_eq_declares_iff hwf).mp (readDeclaration_of_findingOf hf)
  constructor
  · obtain ⟨d, hd, -⟩ := hdeclares
    obtain ⟨p, q, hpairs⟩ := d.exists_hasPairs
    exact ⟨d, p, q, hd, hpairs⟩
  · rintro d p q rfl hpairs
    have htype : typeText (d.type ++ d.dimensions) = f.type := by
      have hread := (readDeclaration_eq_declares_iff hwf).mpr ⟨d, rfl, rfl, rfl, rfl⟩
      exact (Verdict.declares.inj (hread.symm.trans (readDeclaration_of_findingOf hf))).1
    have hdepth : f.arrayDepth = p + q := by
      rw [Field.arrayDepth, ← htype, hpairs.bracketPairs hwf]
    exact ⟨hdepth ▸ isArrayOf_arrayDepth f, hpairs.gathered,
      (d.findingOf_gathered hwf start).trans hf⟩

def gridArguments : List Token :=
  [signToken 1 '<', wordToken 1 "K", signToken 1 ',', wordToken 1 "V", signToken 1 '[',
    signToken 1 ']', signToken 1 '>']

theorem isArgumentGroup_gridArguments : IsArgumentGroup gridArguments := by
  refine .inr ⟨(isGroup_cons_iff (by decide) (isSymbol_signToken 1 '<')).mpr ?_, by decide⟩
  have hend : Closes "<" ">" 1 [signToken 1 '>'] := closes_closing.mpr (closes_nil.mpr rfl)
  have hbrackets : Closes "<" ">" 1 (dimensionTokens 1 1 ++ [signToken 1 '>']) :=
    (closes_dimensionTokens 1).mpr hend
  exact closes_wordToken.mpr
    ((closes_signToken (by decide) (by decide)).mpr (closes_wordToken.mpr hbrackets))

theorem isTail_nil : IsTail [] := .inl rfl

def gridOfMaps : FieldDeclaration where
  words := ["private"]
  modifiers := [wordToken 1 "private"]
  type := wordToken 1 "Map" :: gridArguments ++ dimensionTokens 1 1
  name := wordToken 1 "grid"
  dimensions := dimensionTokens 1 2
  tail := []
  modifierRun := .word (t := wordToken 1 "private") rfl (by decide) .nil
  private_mem := List.mem_singleton_self _
  not_excluded := private_not_excluded
  isTypeRun := ⟨_, _, _, rfl, ⟨rfl, by decide, by decide⟩, isArgumentGroup_gridArguments,
    dimensionRun_dimensionTokens 1 1⟩
  name_isWord := rfl
  point_not_mem := by decide
  dimensionRun := dimensionRun_dimensionTokens 1 2
  isTail := isTail_nil

theorem arrayDimensions_counted_grid :
    let source := "private Map<K, V[]>[] grid[][];"
    ∃ ts f, tokens source = .ok ts ∧ gridOfMaps.tokens ∈ allStatements ts ∧
      (∀ t ∈ gridOfMaps.tokens, t.IsLexed) ∧ gridOfMaps.HasPairs 1 2 ∧
      findingOf "" gridOfMaps.tokens = .ok (.field f) ∧ IsArrayOf 3 f ∧
      findingOf "" gridOfMaps.gathered.tokens = .ok (.field f) := by
  intro source
  obtain ⟨ts, hts, hmem⟩ : ∃ ts, tokens source = .ok ts ∧ gridOfMaps.tokens ∈ allStatements ts :=
    exists_eq_ok_of_any (by decide +kernel)
  have hlex : ∀ t ∈ gridOfMaps.tokens, t.IsLexed :=
    fun t ht ↦ ⟨source, ts, hts, mem_of_mem_allStatements hmem t ht⟩
  have hwf : ∀ t ∈ gridOfMaps.tokens, t.WellFormed := fun t ht ↦ (hlex t ht).wellFormed
  obtain ⟨f, hf⟩ := gridOfMaps.make?_eq_ok hwf
  have hfinding : findingOf "" gridOfMaps.tokens = .ok (.field f) := by
    rw [findingOf_of_declares ((readDeclaration_eq_declares_iff hwf).mpr ⟨_, rfl, rfl, rfl, rfl⟩),
      hf, hasPrefix_empty]
    rfl
  have hpairs : gridOfMaps.HasPairs 1 2 :=
    ⟨_, _, _, rfl, ⟨rfl, by decide, by decide⟩, isArgumentGroup_gridArguments,
      dimensionRun_dimensionTokens 1 1, rfl, rfl⟩
  obtain ⟨harray, -, hgathered⟩ := (arrayDimensions_counted hlex hfinding).2 _ 1 2 rfl hpairs
  exact ⟨ts, f, hts, hmem, hlex, hpairs, hfinding, harray, hgathered⟩

end Declarations

end Source

end Boilerplate
