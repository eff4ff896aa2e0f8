import Boilerplate.Proofs.Source.Accounting
import Boilerplate.Proofs.Source.CanonicalText

namespace Boilerplate.Source

inductive LineForm where
  | header (name : Name)
  | declaration (type : TypeForm .type) (name : Name)
  | footer

def declarationTokens (line : Nat) (type : TypeForm .type) (name : Name) : List Token :=
  wordToken line "private" :: (type.tokens line ++ [wordToken line name.text])

namespace LineForm

def marks : LineForm → List Mark
  | header name => [.word "class", .word name.text, .sign '\x7b']
  | declaration type name =>
    .word "private" :: (type.marks ++ [.word name.text, .sign ';'])
  | footer => [.sign '\x7d']

def tokens (line : Nat) : LineForm → List Token
  | header name => [wordToken line "class", wordToken line name.text, signToken line '\x7b']
  | declaration type name => declarationTokens line type name ++ [signToken line ';']
  | footer => [signToken line '\x7d']

def statements (line : Nat) : LineForm → List (List Token)
  | header _ | footer => []
  | declaration type name => [declarationTokens line type name]

end LineForm

def classLines (name : Name) (fields : List (TypeForm .type × Name)) : List LineForm :=
  .header name :: (fields.map fun (type, name) ↦ .declaration type name) ++ [.footer]

/-- A source that declares the given fields, one on each line between the first and the last. -/
def IsClassText (name : Name) (fields : List (TypeForm .type × Name)) (source : String) : Prop :=
  ∃ texts ending, List.Forall₂ Spelled ((classLines name fields).map LineForm.marks) texts ∧
    IsEnding ending ∧ source = String.ofList (Text.joinLines texts ++ ending)

def lineTokens (first : Nat) (lines : List LineForm) : List Token :=
  (lines.zipIdx first).flatMap fun (l, line) ↦ l.tokens line

section Lines

variable {line first : Nat} {lines : List LineForm}

theorem LineForm.isLine (l : LineForm) : IsLine l.marks := by
  have hkeyword {word : String} (h : word ∈ Identifier.reservedWords) : IsAsciiWord word :=
    isAsciiWord_of_mem_reservedWords h
  have hend {c : Char} (hc : c ∈ ['\x7b', '\x7d', ';']) : IsLine [.sign c] := by
    have hall : ∀ c ∈ ['\x7b', '\x7d', ';'], c ∈ signs ∧ c ≠ '.' ∧ c ≠ '<' :=
      List.all_iff_forall_prop.mp (by decide)
    obtain ⟨hs, hp, ha⟩ := hall c hc
    exact isLine_nil.freeSign hs hp ha
  cases l with
  | header name =>
    exact ((hend (by decide)).word name.isAsciiWord).word (hkeyword (by decide))
  | declaration type name =>
    exact (type.isLine ((hend (by decide)).word name.isAsciiWord)).word (hkeyword (by decide))
  | footer => exact hend (by decide)

theorem LineForm.ofLexemes (l : LineForm) (rest : List Placed) :
    Token.ofLexemes (l.marks.map (Mark.place line) ++ rest) =
      l.tokens line ++ Token.ofLexemes rest := by
  cases l with
  | header name =>
    simp only [marks, List.map_cons, List.map_nil, List.cons_append, List.nil_append]
    rw [ofLexemes_word endsName_word, ofLexemes_word (endsName_sign (by decide)),
      ofLexemes_sign (by decide)]
    rfl
  | declaration type name =>
    simp only [marks, List.map_cons, List.map_append, List.map_nil, List.cons_append,
      List.append_assoc, List.nil_append]
    rw [ofLexemes_word type.endsName, type.ofLexemes endsName_word,
      ofLexemes_word (endsName_sign (by decide)), ofLexemes_sign (by decide)]
    simp only [tokens, declarationTokens, List.cons_append, List.append_assoc, List.nil_append]
  | footer => exact ofLexemes_sign (by decide)

theorem ofLexemes_placedLines (first : Nat) (lines : List LineForm) :
    Token.ofLexemes (placedLines first (lines.map LineForm.marks)) = lineTokens first lines := by
  induction lines generalizing first with
  | nil =>
    rw [List.map_nil, placedLines, List.zipIdx_nil, List.flatMap_nil, Token.ofLexemes]
    rfl
  | cons l lines ih =>
    have hrest := ih (first + 1)
    rw [placedLines] at hrest
    rw [placedLines, List.map_cons, List.zipIdx_cons, List.flatMap_cons, l.ofLexemes, hrest]
    rfl

theorem tokens_of_spelled {texts : List (List Char)} {ending : List Char}
    (h : List.Forall₂ Spelled (lines.map LineForm.marks) texts) (he : IsEnding ending) :
    tokens (String.ofList (Text.joinLines texts ++ ending)) = .ok (lineTokens 1 lines) := by
  have hl : ∀ ms ∈ lines.map LineForm.marks, IsLine ms := by
    intro ms hms
    obtain ⟨l, -, rfl⟩ := List.mem_map.mp hms
    exact l.isLine
  rw [← ofLexemes_placedLines]
  refine tokens_of_scans ?_ ?_
  · rw [String.toList_ofList]
    exact not_mem_strangers_of_spelled h hl he
  · rw [String.toList_ofList]
    exact scans_joinLines h hl he

theorem TypeForm.line_eq {part : Part} (t : TypeForm part) :
    ∀ u ∈ t.tokens line, u.line = line := by
  have hdims (count : Nat) : ∀ u ∈ dimensionTokens line count, u.line = line := by
    induction count with
    | zero => simp [dimensionTokens]
    | succ count ih => simpa [dimensionTokens, signToken] using ih
  induction t with
  | plain head dimensions => simpa [tokens, wordToken] using hdims dimensions
  | generic head arguments dimensions ih =>
    simp only [tokens, List.forall_mem_cons, List.forall_mem_append]
    exact ⟨rfl, rfl, ih, rfl, hdims dimensions⟩
  | exactly type ih | last argument ih => exact ih
  | any => simp [tokens, signToken]
  | upper bound ih | lower bound ih =>
    simp only [tokens, List.forall_mem_cons]
    exact ⟨rfl, rfl, ih⟩
  | next argument rest ih ih' =>
    simp only [tokens, List.forall_mem_cons, List.forall_mem_append]
    exact ⟨ih, rfl, ih'⟩

theorem LineForm.line_eq (l : LineForm) : ∀ u ∈ l.tokens line, u.line = line := by
  cases l with
  | header name => simp [tokens, wordToken, signToken]
  | declaration type name =>
    refine List.forall_mem_append.mpr ⟨List.forall_mem_cons.mpr ⟨rfl, ?_⟩, by simp [signToken]⟩
    exact List.forall_mem_append.mpr ⟨type.line_eq, by simp [wordToken]⟩
  | footer => simp [tokens, signToken]

theorem LineForm.tokens_ne_nil (l : LineForm) : l.tokens line ≠ [] := by
  cases l <;> simp [tokens, declarationTokens]

theorem le_line_of_mem_lineTokens {t : Token} (h : t ∈ lineTokens first lines) :
    first ≤ t.line := by
  obtain ⟨⟨l, line⟩, hl, ht⟩ := List.mem_flatMap.mp h
  rw [l.line_eq t ht]
  exact List.le_snd_of_mem_zipIdx hl

theorem byLine_append {ts us : List Token} (hne : ts ≠ []) (ht : ∀ t ∈ ts, t.line = line)
    (hu : ∀ u ∈ us, u.line ≠ line) : byLine (ts ++ us) = ts :: byLine us := by
  have hchain : ts.IsChain fun a b ↦ (a.line == b.line) = true := by
    refine (List.pairwise_of_forall_mem_list fun a ha b hb ↦ ?_).isChain
    rw [ht a ha, ht b hb, beq_self_eq_true]
  have hjoint : ∀ t ∈ ts.getLast?, ∀ u ∈ us.head?, (t.line == u.line) = false := by
    intro t htl u huh
    rw [ht t (List.mem_of_mem_getLast? htl)]
    exact beq_false_of_ne (hu u (List.mem_of_mem_head? huh)).symm
  rw [byLine, List.splitBy_append hjoint, List.splitBy_of_isChain hne hchain]
  rfl

theorem byLine_lineTokens (first : Nat) (lines : List LineForm) : byLine (lineTokens first lines) =
    (lines.zipIdx first).map fun (l, line) ↦ l.tokens line := by
  induction lines generalizing first with
  | nil => rfl
  | cons l lines ih =>
    have hrest := ih (first + 1)
    rw [lineTokens, List.zipIdx_cons, List.flatMap_cons, List.map_cons,
      byLine_append l.tokens_ne_nil l.line_eq]
    · exact congrArg _ hrest
    · intro u hu
      have hle : first + 1 ≤ u.line := le_line_of_mem_lineTokens hu
      omega

end Lines

section Statements

variable {line depth : Nat} {inside : Bool} {run rest : List Token}

def boundaries : List String := [";", "=", "(", "[", "\x7b", ")", "]", "\x7d"]

theorem statementsFrom_neutral {t : Token} (h : ∀ mark ∈ boundaries, t.isSymbol mark = false) :
    statementsFrom run depth inside (t :: rest) = statementsFrom (t :: run) depth inside rest := by
  simp only [boundaries, List.forall_mem_cons] at h
  obtain ⟨hend, hequals, hround, hsquare, hcurly, hround', hsquare', hcurly', -⟩ := h
  rw [statementsFrom.eq_def]
  simp only [Token.isOpener, Token.isCloser, hend, hequals, hround, hsquare, hcurly, hround',
    hsquare', hcurly', Bool.false_eq_true, false_and, if_false, Bool.or_false]

theorem statementsFrom_wordToken (text : String) :
    statementsFrom run depth inside (wordToken line text :: rest) =
      statementsFrom (wordToken line text :: run) depth inside rest :=
  statementsFrom_neutral fun mark _ ↦ Token.isSymbol_eq_false_of_isWord mark rfl

theorem statementsFrom_signToken {c : Char} (hc : c ∈ ['<', '>', ',', '?']) :
    statementsFrom run depth inside (signToken line c :: rest) =
      statementsFrom (signToken line c :: run) depth inside rest := by
  have hall : ∀ c ∈ ['<', '>', ',', '?'], ∀ mark ∈ boundaries, String.singleton c ≠ mark :=
    List.all_iff_forall_prop.mp (by decide)
  exact statementsFrom_neutral fun mark hm ↦
    Token.isSymbol_eq_false (isSymbol_signToken line c) (hall c hc mark hm)

theorem statementsFrom_dimensionTokens (count : Nat) :
    statementsFrom run depth inside (dimensionTokens line count ++ rest) =
      statementsFrom ((dimensionTokens line count).reverse ++ run) depth inside rest := by
  induction count generalizing run with
  | zero => rfl
  | succ count ih =>
    have hpair : statementsFrom run depth inside
        (signToken line '[' :: signToken line ']' :: (dimensionTokens line count ++ rest)) =
        statementsFrom (signToken line ']' :: signToken line '[' :: run) depth inside
          (dimensionTokens line count ++ rest) := rfl
    rw [dimensionTokens, List.cons_append, List.cons_append, hpair, ih]
    simp only [List.reverse_cons, List.append_assoc, List.cons_append, List.nil_append]

theorem TypeForm.statementsFrom_tokens {part : Part} (t : TypeForm part) :
    statementsFrom run depth inside (t.tokens line ++ rest) =
      statementsFrom ((t.tokens line).reverse ++ run) depth inside rest := by
  induction t generalizing run rest with
  | plain head dimensions =>
    rw [tokens, List.cons_append, statementsFrom_wordToken, statementsFrom_dimensionTokens]
    simp only [List.reverse_cons, List.append_assoc, List.cons_append, List.nil_append]
  | generic head arguments dimensions ih =>
    rw [tokens, List.cons_append, List.cons_append, List.append_assoc, List.cons_append,
      statementsFrom_wordToken, statementsFrom_signToken (by decide), ih,
      statementsFrom_signToken (by decide), statementsFrom_dimensionTokens]
    simp only [List.reverse_cons, List.reverse_append, List.append_assoc, List.cons_append,
      List.nil_append]
  | exactly type ih | last argument ih => exact ih
  | any => exact statementsFrom_signToken (by decide)
  | upper bound ih | lower bound ih =>
    rw [tokens, List.cons_append, List.cons_append, statementsFrom_signToken (by decide),
      statementsFrom_wordToken, ih]
    simp only [List.reverse_cons, List.append_assoc, List.cons_append, List.nil_append]
  | next argument rest ih ih' =>
    rw [tokens, List.append_assoc, List.cons_append, ih, statementsFrom_signToken (by decide), ih']
    simp only [List.reverse_cons, List.reverse_append, List.append_assoc, List.cons_append,
      List.nil_append]

theorem LineForm.statements_tokens (l : LineForm) :
    Source.statements (l.tokens line) = l.statements line := by
  cases l with
  | header name =>
    rw [tokens, Source.statements, statementsFrom_wordToken, statementsFrom_wordToken]
    rfl
  | declaration type name =>
    rw [tokens, declarationTokens, Source.statements, List.cons_append, List.append_assoc,
      statementsFrom_wordToken, type.statementsFrom_tokens, List.cons_append, List.nil_append,
      statementsFrom_wordToken]
    change [_] = [_]
    simp [declarationTokens]
  | footer => rfl

end Statements

section Fields

variable {line : Nat} {fields : List (TypeForm .type × Name)}

theorem allStatements_classLines (name : Name) (fields : List (TypeForm .type × Name)) :
    allStatements (lineTokens 1 (classLines name fields)) =
      (fields.zipIdx 2).map fun ((type, name), line) ↦ declarationTokens line type name := by
  have hdeclarations :
      (((fields.map fun (type, name) ↦ LineForm.declaration type name).zipIdx 2).flatMap
        fun (l, line) ↦ l.statements line) =
      (fields.zipIdx 2).map fun ((type, name), line) ↦ declarationTokens line type name := by
    rw [List.zipIdx_map, List.flatMap_map, List.map_eq_flatMap]
    rfl
  have hlines : (byLine (lineTokens 1 (classLines name fields))).flatMap statements =
      ((classLines name fields).zipIdx 1).flatMap fun (l, line) ↦ l.statements line := by
    rw [byLine_lineTokens, List.flatMap_map]
    simp only [LineForm.statements_tokens]
  have hne : ∀ statement ∈ (fields.zipIdx 2).map fun ((type, name), line) ↦
      declarationTokens line type name, (!statement.isEmpty) = true := by
    intro statement hs
    obtain ⟨⟨⟨type, name⟩, line⟩, -, rfl⟩ := List.mem_map.mp hs
    rfl
  rw [allStatements, hlines, classLines, List.cons_append, List.zipIdx_cons, List.flatMap_cons,
    List.zipIdx_append, List.flatMap_append, hdeclarations]
  simp only [LineForm.statements, List.zipIdx_singleton, List.flatMap_cons, List.flatMap_nil,
    List.append_nil, List.nil_append]
  exact List.filter_eq_self.mpr hne

theorem Name.point_not_mem (name : Name) : '.' ∉ name.text.toList := by
  obtain ⟨c, others, ht, hc, ho⟩ := name.isAsciiWord
  rw [ht]
  intro hm
  rcases List.mem_cons.mp hm with rfl | hm
  · exact absurd hc (by decide)
  · exact absurd (ho '.' hm) (by decide)

def fieldDeclaration (line : Nat) (type : TypeForm .type) (name : Name) : FieldDeclaration where
  words := ["private"]
  modifiers := [wordToken line "private"]
  type := type.tokens line
  name := wordToken line name.text
  dimensions := []
  tail := []
  modifierRun :=
    .word (t := wordToken line "private") rfl (by simp [wordToken, fieldModifiers]) .nil
  private_mem := by decide
  not_excluded := by decide
  isTypeRun := type.isTypeRun line
  name_isWord := rfl
  point_not_mem := name.point_not_mem
  dimensionRun := .nil
  isTail := .inl rfl

theorem findingOf_declarationTokens {type : TypeForm .type} {name : Name}
    (hwf : ∀ t ∈ declarationTokens line type name, t.WellFormed) :
    ∃ finding, findingOf "" (declarationTokens line type name) = .ok finding ∧
      ∃ f, finding = .field f ∧ (f.type, f.name, f.line) = (type.text, name.text, line) := by
  let d := fieldDeclaration line type name
  have htokens : d.tokens = declarationTokens line type name := by
    simp [d, fieldDeclaration, FieldDeclaration.tokens, declarationTokens]
  have htext : typeText (d.type ++ d.dimensions) = type.text := by
    rw [← type.typeText_tokens line]
    exact congrArg typeText (List.append_nil _)
  have hread : readDeclaration (declarationTokens line type name) =
      .declares type.text name.text line :=
    (readDeclaration_eq_declares_iff hwf).mpr ⟨d, htokens, htext, rfl, rfl⟩
  obtain ⟨f, hf⟩ := d.make?_eq_ok (htokens ▸ hwf)
  rw [htext] at hf
  refine ⟨.field f, ?_, f, rfl, ?_⟩
  · rw [findingOf_of_declares hread, hasPrefix_empty]
    exact map_eq_ok_iff.mpr ⟨f, hf, rfl⟩
  · obtain ⟨htype, hname, hline⟩ := Field.make?_eq_ok_iff.mp hf
    rw [htype, hname, hline]
    rfl

theorem extraction_of_fields {α : Type} {g : α → String × String × Nat} {xs : List α}
    {findings : List Finding} (h : List.Forall₂ (fun x finding ↦
      ∃ f : Field, finding = .field f ∧ (f.type, f.name, f.line) = g x) xs findings) :
    (Extraction.mk findings).fields.map (fun f ↦ (f.type, f.name, f.line)) = xs.map g ∧
      (Extraction.mk findings).warnings = [] ∧ (Extraction.mk findings).prefixMismatches = 0 := by
  induction h with
  | nil => exact ⟨rfl, rfl, rfl⟩
  | @cons x finding xs findings h _ ih =>
    obtain ⟨f, rfl, hf⟩ := h
    obtain ⟨hfields, hwarnings, hmismatches⟩ := ih
    refine ⟨?_, hwarnings, ?_⟩
    · rw [List.map_cons, ← hf, ← hfields]
      rfl
    · simpa [Extraction.prefixMismatches] using hmismatches

/-- A class is extracted to the fields that it declares, each with the canonical text of its type
and on its own line, however its lines are spelled. -/
theorem extract_classText {name : Name} {source : String} (h : IsClassText name fields source) :
    ∃ x, extract source "" = .ok x ∧
      x.fields.map (fun f ↦ (f.type, f.name, f.line)) =
        (fields.zipIdx 2).map (fun ((type, name), line) ↦ (type.text, name.text, line)) ∧
      x.warnings = [] ∧ x.prefixMismatches = 0 := by
  obtain ⟨texts, ending, hspelled, hending, rfl⟩ := h
  have htokens := tokens_of_spelled hspelled hending
  have hstatements := allStatements_classLines name fields
  have hfinding : ∀ x ∈ fields.zipIdx 2,
      ∃ finding, (fun ((type, name), line) ↦ findingOf "" (declarationTokens line type name)) x =
        .ok finding ∧ ∃ f, finding = .field f ∧ (f.type, f.name, f.line) =
          (fun ((type, name), line) ↦ (type.text, name.text, line)) x := by
    intro ⟨⟨type, name'⟩, line⟩ hx
    have hmem : declarationTokens line type name' ∈
        allStatements (lineTokens 1 (classLines name fields)) := by
      rw [hstatements]
      exact List.mem_map_of_mem hx
    exact findingOf_declarationTokens fun t ht ↦
      tokens_wellFormed htokens t (mem_of_mem_allStatements hmem t ht)
  obtain ⟨findings, hm, hall⟩ := mapM_eq_ok_of_forall hfinding
  refine ⟨⟨findings⟩, ?_, extraction_of_fields hall⟩
  have hmap : (allStatements (lineTokens 1 (classLines name fields))).mapM (findingOf "") =
      .ok findings := by
    rw [hstatements, List.mapM_map]
    exact hm
  simp only [extract, htokens, hmap]

theorem extract_classText_generic :
    let source := "class A\x7b\nprivate Map<K ,?extends\tjava . util.List<int[ ]>>[]x ;\n \x7d\n"
    ∃ x, extract source "" = .ok x ∧ x.fields.map (fun f ↦ (f.type, f.name, f.line)) =
        [("Map<K, ? extends java.util.List<int[]>>[]", "x", 2)] ∧
      x.warnings = [] ∧ x.prefixMismatches = 0 := by
  intro source
  let name (text : String) (hw : IsAsciiWord text) (hr : text ∉ Identifier.reservedWords) : Name :=
    ⟨text, hw, hr⟩
  let single (text : String) (hw : IsAsciiWord text) (hr : text ∉ Identifier.reservedWords) :
      TypeHead := .name (name text hw hr) []
  let bound : TypeForm .type :=
    .generic (.name (name "java" (by decide) (by decide))
        [name "util" (by decide) (by decide), name "List" (by decide) (by decide)])
      (.last (.exactly (.plain (.primitive "int" (by decide)) 1))) 0
  let type : TypeForm .type :=
    .generic (single "Map" (by decide) (by decide))
      (.next (.exactly (.plain (single "K" (by decide) (by decide)) 0)) (.last (.upper bound))) 1
  let fields := [(type, name "x" (by decide) (by decide))]
  have htext : IsClassText (name "A" (by decide) (by decide)) fields source := by
    refine ⟨["class A\x7b".toList,
      "private Map<K ,?extends\tjava . util.List<int[ ]>>[]x ;".toList, " \x7d".toList], ['\n'],
      .cons (spelled_of_spells ?_) (.cons (spelled_of_spells ?_)
        (.cons (spelled_of_spells ?_) .nil)), .inr rfl, ?_⟩
    all_goals decide +kernel
  exact extract_classText htext

end Fields

end Boilerplate.Source
