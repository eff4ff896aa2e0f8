import Boilerplate.Proofs.Source.Findings

namespace Boilerplate.Source

def binaryOperators : List String :=
  ["||", "&&", "|", "^", "&", "==", "!=", "<", ">", "<=", ">=", "<<", "+", "-", "*", "/", "%"]

/-- The tokens of an operator. A shift to the right is a run of closing angle brackets. -/
inductive OperatorRun : List Token → Prop
  | sign {t : Token} {mark : String} :
      mark ∈ binaryOperators → t.isSymbol mark = true → OperatorRun [t]
  | instanceOf {t : Token} : t.isWord = true → t.text = "instanceof" → OperatorRun [t]
  | shift {ts : List Token} :
      ts.length = 2 ∨ ts.length = 3 → (∀ t ∈ ts, t.isSymbol ">" = true) → OperatorRun ts

inductive ExpressionRun : List Token → Prop
  | operand {t : Token} : t.kind ∈ [.word, .string, .character, .number] → ExpressionRun [t]
  | group {a b : Token} {inner : List Token} :
      a.isSymbol "(" = true → ExpressionRun inner → b.isSymbol ")" = true →
      ExpressionRun (a :: (inner ++ [b]))
  | binary {left operator right : List Token} :
      ExpressionRun left → OperatorRun operator → ExpressionRun right →
      ExpressionRun (left ++ (operator ++ right))

/-- Whether an opening angle bracket stands where it passes for the start of type arguments: right
behind a capitalized name or a point. -/
def OpensArguments (ts : List Token) : Prop :=
  ∃ before mark after, ts = before ++ mark :: after ∧ mark.isSymbol "<" = true ∧
    opensTypeArguments before.getLast? = true

structure SeveralDeclarators where
  words : List String
  modifiers : List Token
  type : List Token
  name : Token
  sign : Token
  value : List Token
  comma : Token
  rest : List Token
  modifierRun : ModifierRun words modifiers
  private_mem : "private" ∈ words
  not_excluded : ∀ word ∈ excludedModifiers, word ∉ words
  isTypeRun : IsTypeRun type
  name_isWord : name.isWord = true
  point_not_mem : '.' ∉ name.text.toList
  sign_isSymbol : sign.isSymbol "=" = true
  expressionRun : ExpressionRun value
  comma_isSymbol : comma.isSymbol "," = true

namespace SeveralDeclarators

variable (d : SeveralDeclarators)

def tokens : List Token :=
  d.modifiers ++ (d.type ++ d.name :: d.sign :: (d.value ++ d.comma :: d.rest))

/-- Whether a comma, this one or a later one, stands outside all brackets and behind as many
closing as opening angle brackets that pass for those of type arguments. -/
def ShowsComma : Prop :=
  ∃ before comma after, d.value ++ d.comma :: d.rest = before ++ comma :: after ∧
    comma.isSymbol "," = true ∧ bracketDepth before = 0 ∧ openAngles before.reverse = 0

end SeveralDeclarators

section Expressions

variable {t : Token} {ts us : List Token}

theorem bracketDepth_eq_zero (h : ∀ t ∈ ts, t.isOpener = false ∧ t.isCloser = false) :
    bracketDepth ts = 0 := by
  have hopen : ts.countP Token.isOpener = 0 := List.countP_eq_zero.mpr fun t ht ↦ by simp [h t ht]
  have hclose : ts.countP Token.isCloser = 0 := List.countP_eq_zero.mpr fun t ht ↦ by simp [h t ht]
  rw [bracketDepth, hopen, hclose]
  rfl

theorem not_bracket_of_kind_ne (h : t.kind ≠ .symbol) :
    t.isOpener = false ∧ t.isCloser = false := by
  simp [Token.isOpener, Token.isCloser, Token.isSymbol, h]

theorem OperatorRun.not_bracket (h : OperatorRun ts) :
    ∀ t ∈ ts, t.isOpener = false ∧ t.isCloser = false := by
  intro t ht
  cases h with
  | @sign u mark hmark hu =>
    obtain rfl := List.mem_singleton.mp ht
    have hmarks : ∀ mark ∈ binaryOperators,
        mark ∉ ["(", "[", "\x7b"] ∧ mark ∉ [")", "]", "\x7d"] := by decide
    exact not_bracket_of_isSymbol hu (hmarks mark hmark)
  | instanceOf hw =>
    obtain rfl := List.mem_singleton.mp ht
    exact not_bracket_of_kind_ne (by simp_all [Token.isWord])
  | shift _ hall => exact not_bracket_of_isSymbol (hall t ht) (by decide)

theorem ExpressionRun.bracketDepth_eq_zero (h : ExpressionRun ts) : bracketDepth ts = 0 := by
  induction h with
  | @operand t hk =>
    refine Source.bracketDepth_eq_zero fun u hu ↦ ?_
    obtain rfl := List.mem_singleton.mp hu
    refine not_bracket_of_kind_ne fun he ↦ ?_
    simp [he] at hk
  | @group a b inner ha _ hb ih =>
    have hopen : a.isOpener = true := isOpener_iff.mpr ⟨"(", .head _, ha⟩
    have hclose : b.isCloser = true := isCloser_iff.mpr ⟨")", .head _, hb⟩
    rw [bracketDepth_cons, bracketDepth_append, bracketDepth_cons, ih, hopen, hclose,
      isCloser_eq_false_of_isOpener hopen, isOpener_eq_false_of_isCloser hclose]
    rfl
  | binary _ ho _ ihl ihr =>
    rw [bracketDepth_append, bracketDepth_append, ihl, ihr,
      Source.bracketDepth_eq_zero ho.not_bracket]
    rfl

theorem openAngles_eq_zero
    (h : ∀ mark before, mark :: before <:+ ts → mark.isSymbol "<" = true →
      opensTypeArguments before.head? = false) : openAngles ts = 0 := by
  induction ts with
  | nil => rfl
  | cons t before ih =>
    have hbefore := ih fun mark before' hs ↦ h mark before' (hs.trans (List.suffix_cons _ _))
    have ht : ¬(t.isSymbol "<" = true ∧ opensTypeArguments before.head? = true) := by
      intro hx
      rw [h t before List.suffix_rfl hx.1] at hx
      exact absurd hx.2 Bool.false_ne_true
    rw [openAngles, if_neg ht, hbefore]
    split <;> rfl

theorem openAngles_reverse_eq_zero (h : ¬OpensArguments ts) : openAngles ts.reverse = 0 := by
  refine openAngles_eq_zero fun mark before hs hmark ↦ ?_
  by_contra ho
  obtain ⟨after, hafter⟩ := hs
  refine h ⟨before.reverse, mark, after.reverse, ?_, hmark, ?_⟩
  · rw [← List.reverse_reverse ts, ← hafter]
    simp
  · rw [List.getLast?_reverse]
    simpa using ho

end Expressions

section Reading

variable {words : List String} {run type rest : List Token} {name : Token}

theorem readDeclaration_append (hrun : ModifierRun words run) (hp : "private" ∈ words)
    (hex : ∀ word ∈ excludedModifiers, word ∉ words) (ht : IsTypeRun type)
    (hn : name.isWord = true) (hwf : ∀ t ∈ type ++ name :: rest, t.WellFormed) :
    readDeclaration (run ++ (type ++ name :: rest)) = readDeclarator type (name :: rest) := by
  obtain ⟨start, arguments, dimensions, rfl, hs, ha, hd⟩ := ht
  have hmodifiers : readModifiers (run ++ (start :: arguments ++ dimensions ++ name :: rest)) =
      (words, start :: (arguments ++ (dimensions ++ name :: rest))) := by
    rw [readModifiers_append hrun (by simpa using hs.endsModifiers)]
    simp
  have hread : readType start (arguments ++ (dimensions ++ name :: rest)) =
      .ok (start :: arguments ++ dimensions, name :: rest) := by
    refine readType_append ha hd (fun t ht ↦ hwf t ?_) ?_ ?_
    · simp only [List.cons_append, List.append_assoc]
      exact .tail _ ht
    · intro t ht
      obtain rfl : name = t := by simpa using ht
      exact Token.isSymbol_eq_false_of_isWord "<" hn
    · refine endsDimensions_of_isWord fun t ht ↦ ?_
      obtain rfl : name = t := by simpa using ht
      exact hn
  rw [readDeclaration_eq_readTyped (by rwa [hmodifiers]) (by rwa [hmodifiers]), hmodifiers]
  exact readTyped_of_readType hs hread

theorem readDeclarator_initializer {sign : Token} (hn : name.isWord = true)
    (hp : '.' ∉ name.text.toList) (hs : sign.isSymbol "=" = true) :
    readDeclarator type (name :: sign :: rest) =
      if hasSecondDeclarator 0 0 none rest then .rejected .severalFields
      else .declares (typeText type) name.text name.line := by
  have hne (mark : String) (hm : "=" ≠ mark) : sign.isSymbol mark = false :=
    Token.isSymbol_eq_false hs hm
  rw [readDeclarator, if_neg (by simp [Token.isSymbol_eq_false_of_isWord "(" hn]),
    if_neg (by simp [hn, hp]), if_neg (by simp [hne "(" (by decide)]),
    readDimensions_of_head (by simp [hne])]
  simp only [tailFault?, hne "," (by decide), hs, Bool.false_eq_true, ↓reduceIte, List.append_nil]
  by_cases h : hasSecondDeclarator 0 0 none rest = true
  · rw [if_pos h, if_pos h]
  · rw [if_neg h, if_neg h]

end Reading

namespace SeveralDeclarators

variable {d : SeveralDeclarators}

theorem showsComma_iff (d : SeveralDeclarators) :
    d.ShowsComma ↔ hasSecondDeclarator 0 0 none (d.value ++ d.comma :: d.rest) = true := by
  have h := @hasSecondDeclarator_iff (d.value ++ d.comma :: d.rest) []
  simp only [List.append_nil, bracketDepth_reverse] at h
  exact h.symm

theorem readDeclaration_tokens (hwf : ∀ t ∈ d.tokens, t.WellFormed) :
    readDeclaration d.tokens =
      if hasSecondDeclarator 0 0 none (d.value ++ d.comma :: d.rest) then
        .rejected .severalFields
      else .declares (typeText d.type) d.name.text d.name.line := by
  rw [tokens, readDeclaration_append d.modifierRun d.private_mem d.not_excluded d.isTypeRun
    d.name_isWord fun t ht ↦ hwf t (List.mem_append_right _ ht)]
  exact readDeclarator_initializer d.name_isWord d.point_not_mem d.sign_isSymbol

theorem readDeclaration_eq_rejected_iff (hwf : ∀ t ∈ d.tokens, t.WellFormed) :
    readDeclaration d.tokens = .rejected .severalFields ↔ d.ShowsComma := by
  rw [readDeclaration_tokens hwf, showsComma_iff]
  split <;> simp_all

theorem showsComma_of_not_opensArguments (h : ¬OpensArguments d.value) : d.ShowsComma :=
  ⟨d.value, d.comma, d.rest, rfl, d.comma_isSymbol, d.expressionRun.bracketDepth_eq_zero,
    openAngles_reverse_eq_zero h⟩

theorem findingOf_tokens (hwf : ∀ t ∈ d.tokens, t.WellFormed) (h : d.ShowsComma) (start : Text.CodePoints) :
    findingOf start d.tokens = .ok (.rejected d.tokens .severalFields) := by
  rw [findingOf, (readDeclaration_eq_rejected_iff hwf).mpr h]

end SeveralDeclarators

/-- A declaration of several fields is rejected, with a warning, exactly if a comma of it shows.
One always does unless a comparison looks like the start of type arguments. If none shows, the
first field is taken alone. -/
theorem severalFields_iff (d : SeveralDeclarators) (hlex : ∀ t ∈ d.tokens, t.IsLexed) :
    (readDeclaration d.tokens = .rejected .severalFields ↔ d.ShowsComma) ∧
      (readDeclaration d.tokens = .declares (typeText d.type) d.name.text d.name.line ↔
        ¬d.ShowsComma) ∧
      (¬OpensArguments d.value → d.ShowsComma) ∧
      (d.ShowsComma → ∀ source ts, tokens source = .ok ts → d.tokens ∈ allStatements ts →
        ∀ start, ∃ x, extract source start = .ok x ∧
          warningText d.tokens .severalFields ∈ x.warnings) := by
  have hwf : ∀ t ∈ d.tokens, t.WellFormed := fun t ht ↦ (hlex t ht).wellFormed
  refine ⟨d.readDeclaration_eq_rejected_iff hwf, ?_, d.showsComma_of_not_opensArguments, ?_⟩
  · rw [d.readDeclaration_tokens hwf, d.showsComma_iff]
    split <;> simp_all
  · intro h source ts hts hmem start
    obtain ⟨x, hx⟩ := exists_extract hts start
    refine ⟨x, hx, warningText_mem_warnings ?_⟩
    exact (mem_findings_iff hts hx).mpr ⟨d.tokens, hmem, d.findingOf_tokens hwf h start⟩

section Comparing

variable {left right : String}

theorem private_not_excluded : ∀ word ∈ excludedModifiers, word ∉ ["private"] := by decide

def comparing (left right : String) : SeveralDeclarators where
  words := ["private"]
  modifiers := [⟨.word, "private", 2, []⟩]
  type := [⟨.word, "boolean", 2, []⟩]
  name := ⟨.word, "a", 2, []⟩
  sign := ⟨.symbol, "=", 2, []⟩
  value := [⟨.word, left, 2, []⟩, ⟨.symbol, "<", 2, []⟩, ⟨.word, right, 2, []⟩]
  comma := ⟨.symbol, ",", 2, []⟩
  rest := [⟨.word, "b", 2, []⟩, ⟨.symbol, "=", 2, []⟩, ⟨.word, "true", 2, []⟩]
  modifierRun := .word (t := ⟨.word, "private", 2, []⟩) rfl (by decide) .nil
  private_mem := List.mem_singleton_self _
  not_excluded := private_not_excluded
  isTypeRun :=
    ⟨⟨.word, "boolean", 2, []⟩, [], [], rfl, ⟨rfl, by decide, by decide⟩, .inl rfl, .nil⟩
  name_isWord := rfl
  point_not_mem := by decide
  sign_isSymbol := by decide
  expressionRun := .binary (.operand (.head _))
    (.sign (by decide : "<" ∈ binaryOperators) (by decide)) (.operand (.head _))
  comma_isSymbol := by decide

theorem opensArguments_comparing_iff : OpensArguments (comparing left right).value ↔
    opensTypeArguments (some ⟨.word, left, 2, []⟩) = true := by
  constructor
  · intro h
    obtain ⟨before, mark, after, he, hmark, hbefore⟩ := h
    match before, he with
    | [], he =>
      obtain ⟨rfl, -⟩ := List.cons.inj he
      simp [Token.isSymbol] at hmark
    | [_], he =>
      obtain ⟨rfl, -⟩ := List.cons.inj he
      exact hbefore
    | [_, _], he =>
      simp only [comparing, List.cons_append, List.nil_append, List.cons.injEq] at he
      obtain ⟨-, -, rfl, -⟩ := he
      simp [Token.isSymbol] at hmark
    | _ :: _ :: _ :: _, he => simp [comparing] at he
  · intro h
    exact ⟨[_], _, _, rfl, by decide, h⟩

theorem severalFields_iff_comparing :
    let d := comparing "x" "MAX"
    let source := "class A \x7b\n private boolean a = x < MAX, b = true;\n\x7d"
    ∃ ts x, tokens source = .ok ts ∧ d.tokens ∈ allStatements ts ∧
      (∀ t ∈ d.tokens, t.IsLexed) ∧ ¬OpensArguments d.value ∧
      readDeclaration d.tokens = .rejected .severalFields ∧ extract source "" = .ok x ∧
      warningText d.tokens .severalFields ∈ x.warnings := by
  intro d source
  have hrun : (tokens source).toOption.any (d.tokens ∈ allStatements ·) = true := by
    decide +kernel
  obtain ⟨ts, hts, hmem⟩ := Option.any_eq_true _ _ |>.mp hrun
  have hts := eq_ok_of_toOption hts
  have hmem : d.tokens ∈ allStatements ts := of_decide_eq_true hmem
  have hlex : ∀ t ∈ d.tokens, t.IsLexed :=
    fun t ht ↦ ⟨_, ts, hts, mem_of_mem_allStatements hmem t ht⟩
  have hopens : ¬OpensArguments d.value := by
    rw [opensArguments_comparing_iff]
    decide +kernel
  obtain ⟨hread, -, hshows, hwarn⟩ := severalFields_iff d hlex
  obtain ⟨x, hx, hwarning⟩ := hwarn (hshows hopens) source ts hts hmem ""
  exact ⟨ts, x, hts, hmem, hlex, hopens, hread.mpr (hshows hopens), hx, hwarning⟩

/-- With the operands exchanged, the first field is taken and the second one is lost. -/
theorem comparing_declares :
    let d := comparing "MAX" "x"
    let source := "class A \x7b\n private boolean a = MAX < x, b = true;\n\x7d"
    ∃ ts x f, tokens source = .ok ts ∧ d.tokens ∈ allStatements ts ∧
      (∀ t ∈ d.tokens, t.IsLexed) ∧ readDeclaration d.tokens = .declares "boolean" "a" 2 ∧
      extract source "" = .ok x ∧ x.fields = [f] ∧ (f.type, f.name, f.line) = ("boolean", "a", 2) ∧
      x.warnings = [] := by
  intro d source
  have hlexes : (tokens source).toOption.any (d.tokens ∈ allStatements ·) = true := by
    decide +kernel
  have hextracts : (extract source "").toOption.any (fun x ↦
      x.fields.map (fun f ↦ (f.type, f.name, f.line)) = [("boolean", "a", 2)] ∧
        x.warnings = []) = true := by
    decide +kernel
  obtain ⟨ts, hts, hmem⟩ := Option.any_eq_true _ _ |>.mp hlexes
  obtain ⟨x, hx, hfields⟩ := Option.any_eq_true _ _ |>.mp hextracts
  have hts := eq_ok_of_toOption hts
  have hmem : d.tokens ∈ allStatements ts := of_decide_eq_true hmem
  obtain ⟨hfields, hwarnings⟩ := of_decide_eq_true hfields
  obtain ⟨f, hf, hfield⟩ := List.map_eq_singleton_iff.mp hfields
  exact ⟨ts, x, f, hts, hmem, fun t ht ↦ ⟨_, ts, hts, mem_of_mem_allStatements hmem t ht⟩,
    by decide +kernel, eq_ok_of_toOption hx, hf, hfield, hwarnings⟩

end Comparing

end Boilerplate.Source
