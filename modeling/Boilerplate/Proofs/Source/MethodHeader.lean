import Boilerplate.Proofs.Source.Findings
import Boilerplate.Proofs.Source.TypeForm

namespace Boilerplate.Source

def methodOnlyModifiers : List String := ["abstract", "native", "strictfp", "synchronized"]

inductive MethodModifierRun : List String → List Token → Prop
  | shared {words : List String} {run : List Token} :
      ModifierRun words run → MethodModifierRun words run
  | methodOnly {words more : List String} {front back : List Token} {t : Token} :
      ModifierRun words front → t.isWord = true → t.text ∈ methodOnlyModifiers →
      MethodModifierRun more back → MethodModifierRun (words ++ t.text :: more) (front ++ t :: back)

/-- A private method or constructor up to its parameters. A constructor has no result. -/
structure MethodHeader where
  words : List String
  modifiers : List Token
  typeParameters : List Token
  result : List Token
  name : Token
  parameters : List Token
  modifierRun : MethodModifierRun words modifiers
  private_mem : "private" ∈ words
  isTypeParameters : typeParameters = [] ∨ IsGroup "<" ">" typeParameters
  isResult : result = [] ∨ IsTypeRun result
  name_isWord : name.isWord = true
  point_not_mem : '.' ∉ name.text.toList
  name_not_reserved : name.text ∉ Identifier.reservedWords
  isParameters : IsGroup "(" ")" parameters

namespace MethodHeader

def signature (h : MethodHeader) : List Token :=
  h.typeParameters ++ (h.result ++ h.name :: h.parameters)

def tokens (h : MethodHeader) : List Token := h.modifiers ++ h.signature

/-- Whether a header is taken for a field: a modifier that only methods have stands behind `private`
and passes for the type. Only a constructor is still known by its parenthesis, if nothing but type
parameters stands between that modifier and its name. -/
def PassesForField (h : MethodHeader) : Prop :=
  ∃ words front t back, h.modifiers = front ++ t :: back ∧ ModifierRun words front ∧
    t.isWord = true ∧ t.text ∈ methodOnlyModifiers ∧ "private" ∈ words ∧
    (∀ word ∈ excludedModifiers, word ∉ words) ∧
    ¬(back = [] ∧ h.result = [] ∧ ∀ u ∈ h.typeParameters, IsArgumentToken u)

end MethodHeader

section Reading

variable {words : List String} {type result group ts rest : List Token} {t name : Token}

theorem methodOnlyModifiers_spec {word : String} (h : word ∈ methodOnlyModifiers) :
    word ∉ fieldModifiers ∧ word ∉ classKeywords := by
  have hall : ∀ word ∈ methodOnlyModifiers, word ∉ fieldModifiers ∧ word ∉ classKeywords := by
    decide
  exact hall word h

theorem isTypeStart_of_methodOnly (hw : t.isWord = true) (ht : t.text ∈ methodOnlyModifiers) :
    IsTypeStart t :=
  ⟨hw, methodOnlyModifiers_spec ht⟩

def GoesOn (t : Token) : Prop := t.isWord = true ∨ t.kind = .atName ∨ t.isSymbol "<" = true

theorem GoesOn.isSymbol_eq_false {mark : String} (h : GoesOn t) (hm : mark ≠ "<") :
    t.isSymbol mark = false := by
  rcases h with hw | hk | hs
  · exact Token.isSymbol_eq_false_of_isWord mark hw
  · simp [Token.isSymbol, hk]
  · exact Token.isSymbol_eq_false hs hm.symm

theorem exists_error_of_group (hg : IsGroup "<" ">" group)
    (hno : ¬∀ t ∈ group, IsArgumentToken t) (hwf : ∀ t ∈ group ++ rest, t.WellFormed) :
    ∃ reason, readType t (group ++ rest) = .error reason := by
  obtain ⟨u, inner, rfl, hu⟩ := hg.exists_cons
  rw [List.cons_append, readType, if_pos hu, readTypeArguments_opening hu]
  cases hread : readTypeArguments 1 (inner ++ rest) with
  | error reason => exact ⟨reason, rfl⟩
  | ok found =>
    obtain ⟨run, after⟩ := found
    obtain ⟨he, hclose, hall⟩ :=
      (readTypeArguments_eq_ok_iff (by omega) fun v hv ↦ hwf v (.tail _ hv)).mp hread
    have hinner := (isGroup_cons_iff (by decide) hu).mp hg
    obtain rfl := hinner.unique hclose (List.prefix_append inner rest) ⟨after, he.symm⟩
    exact absurd (List.forall_mem_cons.mpr ⟨.inr ⟨"<", by decide, hu⟩, hall⟩) hno

theorem exists_rejected_of_not_tail (ht : t.isSymbol "(" = false)
    (hrest : rest.head?.any (·.isSymbol "(") = false)
    (htail : ∃ u more, (readDimensions rest).2 = u :: more ∧ u.isSymbol "=" = false) :
    ∃ reason, readDeclarator type (t :: rest) = .rejected reason := by
  obtain ⟨u, more, hdims, hu⟩ := htail
  have hfault : ∃ reason, tailFault? (u :: more) = some reason := by
    rw [tailFault?]
    by_cases hcomma : u.isSymbol "," = true
    · exact ⟨_, if_pos hcomma⟩
    · exact ⟨_, by rw [if_neg hcomma, if_neg (by simp [hu])]⟩
  obtain ⟨reason, hfault⟩ := hfault
  rw [readDeclarator, if_neg (by simp [ht])]
  by_cases hname : t.isWord = false ∨ '.' ∈ t.text.toList
  · exact ⟨_, if_pos hname⟩
  · rw [if_neg hname, if_neg (by simp [hrest]), hdims, hfault]
    exact ⟨reason, rfl⟩

theorem exists_rejected_of_typeRun (h : IsTypeRun result) (hn : name.isWord = true) :
    ∃ reason, readDeclarator type (result ++ name :: rest) = .rejected reason := by
  obtain ⟨start, arguments, dimensions, rfl, hs, harguments, hdims⟩ := h
  rw [List.cons_append, List.cons_append, List.append_assoc]
  have hstart := Token.isSymbol_eq_false_of_isWord "(" hs.1
  have hname (mark : String) := Token.isSymbol_eq_false_of_isWord mark hn
  rcases harguments with rfl | ⟨hg, -⟩
  · have hread : readDimensions (dimensions ++ name :: rest) = (dimensions, name :: rest) :=
      readDimensions_append hdims (endsDimensions_of_isWord (by simpa using hn))
    refine exists_rejected_of_not_tail hstart ?_ ⟨name, rest, ?_, hname "="⟩
    · cases hdims with
      | nil => simp [hname]
      | pair ha => simp [Token.isSymbol_eq_false ha]
    · rw [List.nil_append, hread]
  · obtain ⟨u, inner, rfl, hu⟩ := hg.exists_cons
    have hmark (mark : String) (hm : "<" ≠ mark) := Token.isSymbol_eq_false hu hm
    refine exists_rejected_of_not_tail hstart (by simp [hmark])
      ⟨u, inner ++ (dimensions ++ name :: rest), ?_, hmark "=" (by decide)⟩
    rw [readDimensions_of_head (by simp [hmark])]
    rfl

end Reading

section Modifiers

variable {words : List String} {run rest : List Token} {t : Token}

theorem ModifierRun.head? (h : ModifierRun words run) : ∀ t ∈ run.head?, GoesOn t := by
  intro t ht
  cases h with
  | nil => cases ht
  | word hw =>
    obtain rfl := Option.some.inj ht
    exact .inl hw
  | bare hk | call hk =>
    obtain rfl := Option.some.inj ht
    exact .inr (.inl hk)

theorem MethodModifierRun.head? (h : MethodModifierRun words run) :
    ∀ t ∈ run.head?, GoesOn t := by
  cases h with
  | shared h => exact h.head?
  | @methodOnly _ _ front _ u hfront hw =>
    cases front with
    | nil =>
      intro t ht
      obtain rfl := Option.some.inj ht
      exact .inl hw
    | cons v front => exact hfront.head?

/-- Behind a word the modifiers go on with a word or an annotation; only an annotation is followed
by a group. -/
theorem MethodModifierRun.tail (h : MethodModifierRun words (t :: rest)) :
    t.kind = .atName ∨ t.isWord = true ∧ ∀ u ∈ rest.head?, GoesOn u := by
  generalize hts : t :: rest = ts at h
  cases h with
  | shared hrun =>
    subst hts
    cases hrun with
    | word hw _ hrest => exact .inr ⟨hw, hrest.head?⟩
    | bare hk | call hk => exact .inl hk
  | @methodOnly words more front back u hfront hu _ hback =>
    cases front with
    | nil =>
      obtain ⟨rfl, rfl⟩ := List.cons.inj hts
      exact .inr ⟨hu, hback.head?⟩
    | cons v front =>
      obtain ⟨rfl, rfl⟩ := List.cons.inj hts
      cases hfront with
      | @word _ _ front hw _ hrest =>
        refine .inr ⟨hw, fun w hmem ↦ ?_⟩
        cases front with
        | nil =>
          obtain rfl := Option.some.inj hmem
          exact .inl hu
        | cons v front => exact hrest.head? w hmem
      | bare hk | call hk => exact .inl hk

end Modifiers

section Verdicts

variable {type after : List Token} {t : Token}

theorem IsTypeStart.isTypeRun {arguments : List Token} (hs : IsTypeStart t)
    (h : IsArgumentGroup arguments) : IsTypeRun (t :: arguments) :=
  ⟨t, arguments, [], by simp, hs, h, .nil⟩

theorem not_isRecorded_of_opensParameters (htype : IsTypeRun type) (h : OpensParameters after)
    (hwf : ∀ t ∈ type ++ after, t.WellFormed) : ¬(readTyped (type ++ after)).IsRecorded := by
  obtain ⟨start, more, rfl, hs⟩ := htype.exists_cons
  have hmore : ∀ t ∈ more ++ after, t.WellFormed := fun t ht ↦ hwf t (.tail _ ht)
  exact fun hrecorded ↦
    (readTyped_isRecorded_iff hs hmore).mp hrecorded ⟨start :: more, after, rfl, htype, h⟩

end Verdicts

namespace MethodHeader

variable {h : MethodHeader} {words : List String} {front back : List Token} {t : Token}

theorem name_isTypeStart (h : MethodHeader) : IsTypeStart h.name := by
  have hall : ∀ word ∈ fieldModifiers ++ classKeywords, word ∈ Identifier.reservedWords := by
    decide
  refine ⟨h.name_isWord, fun hm ↦ h.name_not_reserved (hall _ ?_),
    fun hm ↦ h.name_not_reserved (hall _ ?_)⟩
  · exact List.mem_append_left _ hm
  · exact List.mem_append_right _ hm

theorem signature_head (h : MethodHeader) : ∃ t rest, h.signature = t :: rest ∧
    (t.isSymbol "<" = true ∨ IsTypeStart t) := by
  unfold signature
  rcases h.isTypeParameters with htypes | hg
  · rw [htypes, List.nil_append]
    rcases h.isResult with hresult | hrun
    · rw [hresult]
      exact ⟨h.name, h.parameters, rfl, .inr h.name_isTypeStart⟩
    · obtain ⟨start, more, hresult, hs⟩ := hrun.exists_cons
      rw [hresult]
      exact ⟨start, _, rfl, .inr hs⟩
  · obtain ⟨t, inner, htypes, ht⟩ := hg.exists_cons
    rw [htypes]
    exact ⟨t, _, rfl, .inl ht⟩

theorem endsModifiers_signature (h : MethodHeader) : EndsModifiers h.signature := by
  obtain ⟨t, rest, hsignature, hmark | hs⟩ := h.signature_head
  · rw [hsignature]
    intro u hu
    obtain rfl := Option.some.inj hu
    have hw := Token.isWord_eq_false_of_isSymbol hmark
    exact ⟨Token.kind_ne_atName_of_isSymbol hmark, by simp [hw],
      Token.isSymbol_eq_false hmark (by decide)⟩
  · rw [hsignature]
    exact hs.endsModifiers

theorem signature_goesOn (h : MethodHeader) : ∀ t ∈ h.signature.head?, GoesOn t := by
  obtain ⟨t, rest, hsignature, hmark | hs⟩ := h.signature_head
  · rw [hsignature]
    intro u hu
    obtain rfl := Option.some.inj hu
    exact .inr (.inr hmark)
  · rw [hsignature]
    intro u hu
    obtain rfl := Option.some.inj hu
    exact .inl hs.1

theorem readModifiers_shared (hrun : ModifierRun words h.modifiers) :
    readModifiers h.tokens = (words, h.signature) :=
  readModifiers_append hrun h.endsModifiers_signature

theorem readModifiers_methodOnly (hm : h.modifiers = front ++ t :: back)
    (hfront : ModifierRun words front) (hw : t.isWord = true) (ht : t.text ∈ methodOnlyModifiers) :
    readModifiers h.tokens = (words, t :: (back ++ h.signature)) := by
  have hends : EndsModifiers (t :: (back ++ h.signature)) :=
    (isTypeStart_of_methodOnly hw ht).endsModifiers
  rw [tokens, hm, List.append_assoc, List.cons_append, readModifiers_append hfront hends]

theorem passesForField_iff (hm : h.modifiers = front ++ t :: back)
    (hfront : ModifierRun words front) (hw : t.isWord = true) (ht : t.text ∈ methodOnlyModifiers) :
    h.PassesForField ↔ "private" ∈ words ∧ (∀ word ∈ excludedModifiers, word ∉ words) ∧
      ¬(back = [] ∧ h.result = [] ∧ ∀ u ∈ h.typeParameters, IsArgumentToken u) := by
  constructor
  · intro hpasses
    obtain ⟨words', front', t', back', hm', hfront', hw', ht', hp, hex, hno⟩ := hpasses
    have hread := (readModifiers_methodOnly hm hfront hw ht).symm.trans
      (readModifiers_methodOnly hm' hfront' hw' ht')
    obtain ⟨rfl, htokens⟩ := Prod.mk.inj hread
    obtain rfl := List.append_cancel_right (List.cons.inj htokens).2
    exact ⟨hp, hex, hno⟩
  · intro hpasses
    obtain ⟨hp, hex, hno⟩ := hpasses
    exact ⟨words, front, t, back, hm, hfront, hw, ht, hp, hex, hno⟩

theorem not_passesForField (hrun : ModifierRun words h.modifiers) : ¬h.PassesForField := by
  intro hpasses
  obtain ⟨words', front, t, back, hm, hfront, hw, ht, -⟩ := hpasses
  have hread := (readModifiers_shared hrun).symm.trans (readModifiers_methodOnly hm hfront hw ht)
  have hlength := congrArg List.length (Prod.mk.inj hread).2
  simp only [List.length_cons, List.length_append] at hlength
  omega

theorem opensParameters (h : MethodHeader) : OpensParameters h.parameters := by
  obtain ⟨t, inner, hparameters, ht⟩ := h.isParameters.exists_cons
  rw [hparameters]
  exact .inl ⟨t, rfl, ht⟩

theorem opensParameters_name (h : MethodHeader) : OpensParameters (h.name :: h.parameters) := by
  obtain ⟨t, inner, hparameters, ht⟩ := h.isParameters.exists_cons
  rw [hparameters]
  exact .inr ⟨h.name, t, inner, rfl, h.name_isWord, h.point_not_mem, ht⟩

theorem not_isRecorded_signature (hwf : ∀ t ∈ h.signature, t.WellFormed) :
    ¬(readTyped h.signature).IsRecorded := by
  rcases h.isTypeParameters with htypes | hg
  · have hsignature : h.signature = h.result ++ h.name :: h.parameters := by
      rw [signature, htypes, List.nil_append]
    rw [hsignature] at hwf ⊢
    rcases h.isResult with hresult | hrun
    · have hname := not_isRecorded_of_opensParameters (h.name_isTypeStart.isTypeRun (.inl rfl))
        h.opensParameters
      rw [hresult] at hwf ⊢
      exact hname hwf
    · exact not_isRecorded_of_opensParameters hrun h.opensParameters_name hwf
  · obtain ⟨t, inner, htypes, ht⟩ := hg.exists_cons
    have hw := Token.isWord_eq_false_of_isSymbol ht
    rw [signature, htypes, List.cons_append, readTyped, if_pos (.inl hw)]
    exact id

theorem not_isRecorded_constructor (hs : IsTypeStart t) (hresult : h.result = [])
    (hall : ∀ u ∈ h.typeParameters, IsArgumentToken u)
    (hwf : ∀ u ∈ t :: h.signature, u.WellFormed) : ¬(readTyped (t :: h.signature)).IsRecorded := by
  have hsignature : t :: h.signature = t :: h.typeParameters ++ h.name :: h.parameters := by
    rw [signature, hresult]
    rfl
  rw [hsignature] at hwf ⊢
  exact not_isRecorded_of_opensParameters
    (hs.isTypeRun (h.isTypeParameters.imp_right fun hg ↦ ⟨hg, hall⟩)) h.opensParameters_name hwf

theorem exists_rejected_of_modifiers {more : List String} (hs : IsTypeStart t)
    (hback : MethodModifierRun more back) (hne : back ≠ []) :
    ∃ reason, readTyped (t :: (back ++ h.signature)) = .rejected reason := by
  obtain ⟨u, back, rfl⟩ := List.exists_cons_of_ne_nil hne
  have hmark (mark : String) : u.isSymbol mark = false := by
    rcases hback.tail with hk | ⟨hw, -⟩
    · simp [Token.isSymbol, hk]
    · exact Token.isSymbol_eq_false_of_isWord mark hw
  have hread : readType t (u :: (back ++ h.signature)) =
      .ok ([t], u :: (back ++ h.signature)) := by
    rw [readType, if_neg (by simp [hmark]), readDimensions_of_head (by simp [hmark])]
  rw [List.cons_append, readTyped_of_readType hs hread]
  rcases hback.tail with hk | ⟨-, hgoes⟩
  · refine ⟨.unexpectedAfterType u, ?_⟩
    rw [readDeclarator, if_neg (by simp [hmark]), if_pos (.inl (by simp [Token.isWord, hk]))]
  have hnext : ∀ v ∈ (back ++ h.signature).head?, GoesOn v := by
    cases back with
    | nil => exact h.signature_goesOn
    | cons v back => exact hgoes
  obtain ⟨v, rest, hrest⟩ : ∃ v rest, back ++ h.signature = v :: rest := by
    obtain ⟨v, rest, hsignature, -⟩ := h.signature_head
    exact List.exists_cons_of_ne_nil (by simp [hsignature])
  rw [hrest] at hnext ⊢
  have hv (mark : String) (hm : mark ≠ "<") : v.isSymbol mark = false :=
    (hnext v rfl).isSymbol_eq_false hm
  exact exists_rejected_of_not_tail (hmark "(") (by simp [hv])
    ⟨v, rest, by rw [readDimensions_of_head (by simp [hv])], hv "=" (by decide)⟩

theorem exists_rejected_of_signature (hs : IsTypeStart t)
    (hno : ¬(h.result = [] ∧ ∀ u ∈ h.typeParameters, IsArgumentToken u))
    (hwf : ∀ u ∈ h.signature, u.WellFormed) :
    ∃ reason, readTyped (t :: h.signature) = .rejected reason := by
  by_cases hall : ∀ u ∈ h.typeParameters, IsArgumentToken u
  · have hrun : IsTypeRun h.result := h.isResult.resolve_left fun hresult ↦ hno ⟨hresult, hall⟩
    obtain ⟨start, more, hresult, hstart⟩ := hrun.exists_cons
    have hmark (mark : String) := Token.isSymbol_eq_false_of_isWord mark hstart.1
    have hread : readType t h.signature =
        .ok (t :: h.typeParameters ++ [], h.result ++ h.name :: h.parameters) :=
      readType_append (h.isTypeParameters.imp_right fun hg ↦ ⟨hg, hall⟩) .nil hwf
        (by simp [hresult, hmark]) (endsDimensions_of_head (by simp [hresult, hmark]))
    rw [readTyped_of_readType hs hread]
    exact exists_rejected_of_typeRun hrun h.name_isWord
  · have hg : IsGroup "<" ">" h.typeParameters := by
      refine h.isTypeParameters.resolve_left fun htypes ↦ hall ?_
      simp [htypes]
    obtain ⟨reason, hread⟩ := exists_error_of_group (t := t) hg hall hwf
    exact ⟨reason, readTyped_of_error hs hread⟩

theorem readDeclaration_tokens (h : MethodHeader) (hwf : ∀ t ∈ h.tokens, t.WellFormed) :
    (h.PassesForField → ∃ reason, readDeclaration h.tokens = .rejected reason) ∧
      (¬h.PassesForField → ¬(readDeclaration h.tokens).IsRecorded) := by
  have hsignature : ∀ t ∈ h.signature, t.WellFormed :=
    fun t ht ↦ hwf t (List.mem_append_right _ ht)
  have hrun := h.modifierRun
  generalize hm : h.modifiers = modifiers at hrun
  generalize h.words = words at hrun
  cases hrun with
  | shared hrun =>
    rw [← hm] at hrun
    refine ⟨fun hpasses ↦ absurd hpasses (not_passesForField hrun), fun _ hrecorded ↦ ?_⟩
    rw [readDeclaration_isRecorded_iff_readTyped, readModifiers_shared hrun] at hrecorded
    exact not_isRecorded_signature hsignature hrecorded.2.2
  | @methodOnly words more front back t hfront hw ht hback =>
    have hs := isTypeStart_of_methodOnly hw ht
    have hread := readModifiers_methodOnly hm hfront hw ht
    rw [passesForField_iff hm hfront hw ht]
    constructor
    · intro hpasses
      obtain ⟨hp, hex, hno⟩ := hpasses
      rw [readDeclaration_eq_readTyped (by rwa [hread]) (by rwa [hread]), hread]
      by_cases hback' : back = []
      · subst hback'
        exact exists_rejected_of_signature hs (fun hx ↦ hno ⟨rfl, hx⟩) hsignature
      · exact exists_rejected_of_modifiers hs hback hback'
    · intro hno hrecorded
      rw [readDeclaration_isRecorded_iff_readTyped, hread] at hrecorded
      obtain ⟨hp, hex, hrecorded⟩ := hrecorded
      obtain ⟨rfl, hresult, hall⟩ : back = [] ∧ h.result = [] ∧
          ∀ u ∈ h.typeParameters, IsArgumentToken u := by
        by_contra hx
        exact hno ⟨hp, hex, hx⟩
      refine not_isRecorded_constructor hs hresult hall (List.forall_mem_cons.mpr ⟨?_, hsignature⟩)
        hrecorded
      exact hwf t (List.mem_append_left _ (by simp [hm]))

theorem not_passesForField_of_words (h : MethodHeader)
    (hno : ∀ word ∈ methodOnlyModifiers, word ∉ h.words) : ¬h.PassesForField := by
  have hrun := h.modifierRun
  generalize hm : h.modifiers = modifiers at hrun
  generalize h.words = words at hrun hno
  cases hrun with
  | shared hrun => exact not_passesForField (hm ▸ hrun)
  | methodOnly _ _ ht _ => exact absurd (by simp) (hno _ ht)

end MethodHeader

section Extractions

variable {source : String} {ts : List Token} {before after : List (List Token)}

/-- No header of a method or a constructor gives a field. It gives a warning exactly if it passes
for a field, which takes a modifier that only methods have. -/
theorem methodHeader_ignored_iff (h : MethodHeader) (hts : tokens source = .ok ts)
    (hs : allStatements ts = before ++ h.tokens :: after) (start : Text.CodePoints) :
    ((∀ word ∈ methodOnlyModifiers, word ∉ h.words) → ¬h.PassesForField) ∧
    ∃ x front back, extract source start = .ok x ∧
      before.mapM (findingOf start) = .ok front ∧ after.mapM (findingOf start) = .ok back ∧
      x.fields = Extraction.fields ⟨front ++ back⟩ ∧
      x.prefixMismatches = Extraction.prefixMismatches ⟨front ++ back⟩ ∧
      (¬h.PassesForField → x.warnings = Extraction.warnings ⟨front ++ back⟩) ∧
      (h.PassesForField → ∃ reason, x.warnings = Extraction.warnings ⟨front⟩ ++
        warningText h.tokens reason :: Extraction.warnings ⟨back⟩) := by
  have hmem : h.tokens ∈ allStatements ts := by
    rw [hs]
    exact List.mem_append_right _ (.head _)
  have hwf : ∀ t ∈ h.tokens, t.WellFormed :=
    fun t ht ↦ tokens_wellFormed hts t (mem_of_mem_allStatements hmem t ht)
  obtain ⟨hrejected, hsilent⟩ := h.readDeclaration_tokens hwf
  refine ⟨h.not_passesForField_of_words, ?_⟩
  by_cases hpasses : h.PassesForField
  · obtain ⟨reason, hread⟩ := hrejected hpasses
    have hfinding : findingOf start h.tokens = .ok (.rejected h.tokens reason) := by
      rw [findingOf, hread]
    obtain ⟨front, back, hfront, hback, hx⟩ := extract_split hts hs hfinding
    refine ⟨_, front, back, hx, hfront, hback, ?_, ?_, fun hno ↦ absurd hpasses hno,
      fun _ ↦ ⟨reason, ?_⟩⟩
    · simp [Extraction.fields_eq, Finding.trace]
    · simp [Extraction.prefixMismatches_eq, Finding.trace]
    · simp [Extraction.warnings_eq, Finding.trace]
  · obtain ⟨finding, hfinding, htrace⟩ := exists_findingOf_of_not_isRecorded (hsilent hpasses) start
    obtain ⟨front, back, hfront, hback, hx⟩ := extract_split hts hs hfinding
    refine ⟨_, front, back, hx, hfront, hback, ?_, ?_, fun _ ↦ ?_, fun hp ↦ absurd hp hpasses⟩
    · simp [Extraction.fields_eq, htrace]
    · simp [Extraction.prefixMismatches_eq, htrace]
    · simp [Extraction.warnings_eq, htrace]

end Extractions

section Samples

variable {opening closing : String} {a b : Token} {inner : List Token}

theorem isGroup_around (hne : opening ≠ closing) (ha : a.isSymbol opening = true)
    (hinner : ∀ t ∈ inner, t.isSymbol opening = false ∧ t.isSymbol closing = false)
    (hb : b.isSymbol closing = true) : IsGroup opening closing (a :: (inner ++ [b])) := by
  rw [isGroup_cons_iff hne ha]
  induction inner with
  | nil => exact (closes_cons_closing hne hb).mpr (closes_nil.mpr rfl)
  | cons t inner ih =>
    obtain ⟨ht, hrest⟩ := List.forall_mem_cons.mp hinner
    exact (closes_cons_other ht.1 ht.2).mpr (ih hrest)

def nativeHeader : MethodHeader where
  words := ["private", "native"]
  modifiers := [wordToken 2 "private", wordToken 2 "native"]
  typeParameters := []
  result := [wordToken 2 "int"]
  name := wordToken 2 "f"
  parameters := signToken 2 '(' :: ([] ++ [signToken 2 ')'])
  modifierRun := .methodOnly (t := wordToken 2 "native")
    (.word (t := wordToken 2 "private") rfl (by decide) .nil) rfl (by decide) (.shared .nil)
  private_mem := List.mem_cons_self
  isTypeParameters := .inl rfl
  isResult := .inr (IsTypeStart.isTypeRun ⟨rfl, by decide, by decide⟩ (.inl rfl))
  name_isWord := rfl
  point_not_mem := by decide
  name_not_reserved := by decide
  isParameters := isGroup_around (by decide) (by decide) (by decide) (by decide)

def genericHeader : MethodHeader where
  words := ["private"]
  modifiers := ⟨.atName, "@A", 3, []⟩ ::
    (signToken 3 '(' :: ([wordToken 3 "b"] ++ [signToken 3 ')'])) ++ [wordToken 3 "private"]
  typeParameters := signToken 3 '<' :: ([wordToken 3 "T"] ++ [signToken 3 '>'])
  result := wordToken 3 "List" :: (signToken 3 '<' :: ([wordToken 3 "T"] ++ [signToken 3 '>']))
  name := wordToken 3 "f"
  parameters := signToken 3 '(' :: ([wordToken 3 "int", wordToken 3 "a"] ++ [signToken 3 ')'])
  modifierRun := .shared (.call rfl
    (isGroup_around (by decide) (by decide) (by decide) (by decide))
    (.word (t := wordToken 3 "private") rfl (by decide) .nil))
  private_mem := List.mem_singleton_self _
  isTypeParameters := .inr (isGroup_around (by decide) (by decide) (by decide) (by decide))
  isResult := .inr (IsTypeStart.isTypeRun ⟨rfl, by decide, by decide⟩
    (.inr ⟨isGroup_around (by decide) (by decide) (by decide) (by decide), by decide⟩))
  name_isWord := rfl
  point_not_mem := by decide
  name_not_reserved := by decide
  isParameters := isGroup_around (by decide) (by decide) (by decide) (by decide)

theorem methodHeader_ignored_iff_generic :
    let source := "class A \x7b\n private int a;\n @A(b) private <T> List<T> f(int a);\n\x7d"
    ∃ ts before x front back, tokens source = .ok ts ∧
      allStatements ts = before ++ genericHeader.tokens :: [] ∧ extract source "" = .ok x ∧
      before.mapM (findingOf "") = .ok front ∧ [].mapM (findingOf "") = .ok back ∧
      x.fields = Extraction.fields ⟨front ++ back⟩ ∧
      x.warnings = Extraction.warnings ⟨front ++ back⟩ := by
  intro source
  obtain ⟨ts, hts, hs⟩ : ∃ ts, tokens source = .ok ts ∧ allStatements ts =
      [[wordToken 2 "private", wordToken 2 "int", wordToken 2 "a"]] ++ genericHeader.tokens :: [] :=
    exists_eq_ok_of_any (by decide +kernel)
  obtain ⟨hwords, x, front, back, hx, hfront, hback, hfields, -, hwarnings, -⟩ :=
    methodHeader_ignored_iff genericHeader hts hs ""
  exact ⟨ts, _, x, front, back, hts, hs, hx, hfront, hback, hfields,
    hwarnings (hwords (by decide))⟩

/-- The modifier is read as the type and the result as the name. -/
theorem native_header_reported :
    let source := "class A \x7b\n private native int f();\n\x7d"
    let warning : Text.CodePoints :=
      "line 2: skipped 'private native int f ( );' (unexpected token 'f' after field name)"
    ∃ ts x, tokens source = .ok ts ∧ allStatements ts = [nativeHeader.tokens] ∧
      extract source "" = .ok x ∧ x.fields = [] ∧ x.warnings = [warning] := by
  intro source warning
  obtain ⟨ts, hts, hs⟩ : ∃ ts, tokens source = .ok ts ∧ allStatements ts = [nativeHeader.tokens] :=
    exists_eq_ok_of_any (by decide +kernel)
  obtain ⟨x, hx, hfields, hwarnings⟩ : ∃ x, extract source "" = .ok x ∧ x.fields = [] ∧
      x.warnings = [warning] :=
    exists_eq_ok_of_any (by decide +kernel)
  exact ⟨ts, x, hts, hs, hx, hfields, hwarnings⟩

end Samples

end Boilerplate.Source
