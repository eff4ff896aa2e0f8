import Boilerplate.Proofs.Source.Spelling
import Boilerplate.Proofs.TypeKind
import Boilerplate.Source.Declaration

namespace Boilerplate.Source

structure Name where
  text : String
  isAsciiWord : IsAsciiWord text
  not_reserved : text ∉ Identifier.reservedWords

inductive TypeHead where
  | primitive (word : String) (mem : word ∈ primitiveWords)
  | name (first : Name) (rest : List Name)

inductive Part where
  | type
  | argument
  | arguments

inductive TypeForm : Part → Type where
  | plain (head : TypeHead) (dimensions : Nat) : TypeForm .type
  | generic (head : TypeHead) (arguments : TypeForm .arguments) (dimensions : Nat) : TypeForm .type
  | exactly (type : TypeForm .type) : TypeForm .argument
  | any : TypeForm .argument
  | upper (bound : TypeForm .type) : TypeForm .argument
  | lower (bound : TypeForm .type) : TypeForm .argument
  | last (argument : TypeForm .argument) : TypeForm .arguments
  | next (argument : TypeForm .argument) (rest : TypeForm .arguments) : TypeForm .arguments

section Forms

def wordToken (line : Nat) (text : String) : Token := ⟨.word, text, line, []⟩

def signToken (line : Nat) (c : Char) : Token := ⟨.symbol, String.singleton c, line, []⟩

namespace TypeHead

def text : TypeHead → String
  | primitive word _ => word
  | name first rest => rest.foldl (fun text part ↦ text ++ "." ++ part.text) first.text

def marks : TypeHead → List Mark
  | primitive word _ => [.word word]
  | name first rest => .word first.text :: rest.flatMap fun part ↦ [.sign '.', .word part.text]

end TypeHead

def dimensionText : Nat → String
  | 0 => ""
  | count + 1 => "[]" ++ dimensionText count

def dimensionMarks : Nat → List Mark
  | 0 => []
  | count + 1 => .sign '[' :: .sign ']' :: dimensionMarks count

def dimensionTokens (line : Nat) : Nat → List Token
  | 0 => []
  | count + 1 => signToken line '[' :: signToken line ']' :: dimensionTokens line count

namespace TypeForm

variable {part : Part}

def text {part : Part} : TypeForm part → String
  | plain head dimensions => head.text ++ dimensionText dimensions
  | generic head arguments dimensions =>
    head.text ++ "<" ++ arguments.text ++ ">" ++ dimensionText dimensions
  | exactly type => type.text
  | any => "?"
  | upper bound => "? extends " ++ bound.text
  | lower bound => "? super " ++ bound.text
  | last argument => argument.text
  | next argument rest => argument.text ++ ", " ++ rest.text

def marks {part : Part} : TypeForm part → List Mark
  | plain head dimensions => head.marks ++ dimensionMarks dimensions
  | generic head arguments dimensions =>
    head.marks ++ .sign '<' :: (arguments.marks ++ .sign '>' :: dimensionMarks dimensions)
  | exactly type => type.marks
  | any => [.sign '?']
  | upper bound => .sign '?' :: .word "extends" :: bound.marks
  | lower bound => .sign '?' :: .word "super" :: bound.marks
  | last argument => argument.marks
  | next argument rest => argument.marks ++ .sign ',' :: rest.marks

def tokens {part : Part} (line : Nat) : TypeForm part → List Token
  | plain head dimensions => wordToken line head.text :: dimensionTokens line dimensions
  | generic head arguments dimensions =>
    wordToken line head.text :: signToken line '<' ::
      (arguments.tokens line ++ signToken line '>' :: dimensionTokens line dimensions)
  | exactly type => type.tokens line
  | any => [signToken line '?']
  | upper bound => signToken line '?' :: wordToken line "extends" :: bound.tokens line
  | lower bound => signToken line '?' :: wordToken line "super" :: bound.tokens line
  | last argument => argument.tokens line
  | next argument rest => argument.tokens line ++ signToken line ',' :: rest.tokens line

end TypeForm

end Forms

section Words

theorem isAsciiWord_of_mem_reservedWords {word : String} (h : word ∈ Identifier.reservedWords) :
    IsAsciiWord word := by
  have hall : ∀ w ∈ Identifier.reservedWords, IsAsciiWord w := by decide
  exact hall word h

theorem not_mem_of_point_mem {text : String} (h : '.' ∈ text.toList) :
    text ∉ fieldModifiers ∧ text ∉ classKeywords := by
  have hall : ∀ w ∈ fieldModifiers ++ classKeywords, '.' ∉ w.toList := by decide
  constructor
  · intro hm
    exact hall text (List.mem_append_left _ hm) h
  · intro hm
    exact hall text (List.mem_append_right _ hm) h

theorem point_mem_foldl {start : String} {parts : List Name} (h : '.' ∈ start.toList) :
    '.' ∈ (parts.foldl (fun text part ↦ text ++ "." ++ part.text) start).toList := by
  induction parts generalizing start with
  | nil => exact h
  | cons part parts ih =>
    rw [List.foldl_cons]
    exact ih (by simp [String.toList_append, h])

theorem TypeHead.not_mem (head : TypeHead) :
    head.text ∉ fieldModifiers ∧ head.text ∉ classKeywords := by
  cases head with
  | primitive word mem =>
    have hall : ∀ w ∈ primitiveWords, w ∉ fieldModifiers ∧ w ∉ classKeywords := by decide
    exact hall word mem
  | name first rest =>
    cases rest with
    | nil =>
      have hall : ∀ w ∈ fieldModifiers ++ classKeywords, w ∈ Identifier.reservedWords := by decide
      exact ⟨fun h ↦ first.not_reserved (hall _ (List.mem_append_left _ h)),
        fun h ↦ first.not_reserved (hall _ (List.mem_append_right _ h))⟩
    | cons part rest =>
      refine not_mem_of_point_mem ?_
      rw [text, List.foldl_cons]
      exact point_mem_foldl (by simp [String.toList_append])

end Words

section Marks

variable {text : String} {c : Char} {ms : List Mark} {part : Part}

theorem isLine_nil : IsLine [] := ⟨by simp, .nil⟩

theorem IsLine.word (ht : IsAsciiWord text) (h : IsLine ms) : IsLine (.word text :: ms) := by
  refine ⟨List.forall_mem_cons.mpr ⟨ht, h.1⟩, List.isChain_cons.mpr ⟨fun next _ ↦ ?_, h.2⟩⟩
  constructor <;> exact fun he ↦ nomatch he

theorem IsLine.sign (hc : c ∈ signs) (hne : ∀ m ∈ ms.head?, c = '.' ∨ c = '<' → m ≠ .sign c)
    (h : IsLine ms) : IsLine (.sign c :: ms) := by
  refine ⟨List.forall_mem_cons.mpr ⟨hc, h.1⟩, List.isChain_cons.mpr ⟨fun next hn ↦ ?_, h.2⟩⟩
  constructor
  · intro hx
    cases hx
    exact hne next hn (.inl rfl)
  · intro hx
    cases hx
    exact hne next hn (.inr rfl)

theorem IsLine.freeSign (hc : c ∈ signs) (hp : c ≠ '.') (ha : c ≠ '<') (h : IsLine ms) :
    IsLine (.sign c :: ms) :=
  h.sign hc fun _ _ hor ↦ (hor.elim hp ha).elim

theorem isLine_dimensionMarks (count : Nat) (h : IsLine ms) :
    IsLine (dimensionMarks count ++ ms) := by
  induction count with
  | zero => exact h
  | succ count ih =>
    exact (ih.freeSign (by decide) (by decide) (by decide)).freeSign (by decide) (by decide)
      (by decide)

theorem TypeHead.isLine (head : TypeHead) (h : IsLine ms) : IsLine (head.marks ++ ms) := by
  cases head with
  | primitive word mem =>
    exact h.word (isAsciiWord_of_mem_reservedWords (mem_reservedWords_of_mem_primitiveWords mem))
  | name first rest =>
    refine IsLine.word first.isAsciiWord ?_
    induction rest with
    | nil => exact h
    | cons part rest ih =>
      exact (ih.word part.isAsciiWord).sign (by decide) (by simp)

theorem TypeForm.marks_head (t : TypeForm part) :
    ∃ m ms, t.marks = m :: ms ∧ (m.IsWord ∨ m = .sign '?') := by
  have hhead (head : TypeHead) : ∃ m ms, head.marks = m :: ms ∧ (m.IsWord ∨ m = .sign '?') := by
    cases head with
    | primitive word mem => exact ⟨_, _, rfl, .inl trivial⟩
    | name first rest => exact ⟨_, _, rfl, .inl trivial⟩
  induction t with
  | plain head dimensions | generic head _ dimensions =>
    obtain ⟨m, ms, hms, hm⟩ := hhead head
    exact ⟨m, _, by rw [marks, hms]; rfl, hm⟩
  | exactly _ ih | last _ ih => exact ih
  | any | upper | lower => exact ⟨_, _, rfl, .inr rfl⟩
  | next argument rest ih _ =>
    obtain ⟨m, ms, hms, hm⟩ := ih
    exact ⟨m, _, by rw [marks, hms]; rfl, hm⟩

theorem TypeForm.isLine (t : TypeForm part) (h : IsLine ms) : IsLine (t.marks ++ ms) := by
  induction t generalizing ms with
  | plain head dimensions =>
    rw [marks, List.append_assoc]
    exact head.isLine (isLine_dimensionMarks dimensions h)
  | generic head arguments dimensions ih =>
    rw [marks, List.append_assoc, List.cons_append, List.append_assoc, List.cons_append]
    have hclose := (isLine_dimensionMarks dimensions h).freeSign (c := '>') (by decide)
      (by decide) (by decide)
    refine head.isLine ((ih hclose).sign (by decide) ?_)
    obtain ⟨m, ms', hms, hm⟩ := arguments.marks_head
    intro m' hm' _
    obtain rfl : m = m' := by simpa [hms] using hm'
    intro hx
    subst hx
    rcases hm with hm | hm
    · exact hm
    · cases hm
  | exactly type ih => exact ih h
  | any => exact h.freeSign (by decide) (by decide) (by decide)
  | upper bound ih | lower bound ih =>
    exact ((ih h).word (isAsciiWord_of_mem_reservedWords (by decide))).freeSign (by decide)
      (by decide) (by decide)
  | last argument ih => exact ih h
  | next argument rest ih ih' =>
    rw [marks, List.append_assoc, List.cons_append]
    exact ih ((ih' h).freeSign (by decide) (by decide) (by decide))

end Marks

section Tokens

variable {line : Nat} {text : String} {c : Char} {part : Part} {rest : List Placed}

def EndsName (rest : List Placed) : Prop := ∀ p ∈ rest.head?, p.lexeme ≠ .separator '.'

theorem endsName_sign (hc : c ≠ '.') : EndsName ((Mark.sign c).place line :: rest) := by
  intro p hp
  obtain rfl : (Mark.sign c).place line = p := by simpa using hp
  simp only [Mark.place, Mark.lexeme]
  split
  · simpa using hc
  · simp

theorem endsName_word : EndsName ((Mark.word text).place line :: rest) := by
  intro p hp
  obtain rfl : (Mark.word text).place line = p := by simpa using hp
  simp only [Mark.place, Mark.lexeme, Lexeme.ofWord]
  split <;> simp

theorem qualifiedName_of_endsName (h : EndsName rest) : qualifiedName text rest = (text, rest) := by
  cases rest with
  | nil => rw [qualifiedName]; simp
  | cons dot rest =>
    cases rest with
    | nil => rw [qualifiedName]; simp
    | cons part rest =>
      rw [qualifiedName]
      split
      · next hdot _ => exact absurd hdot (h dot rfl)
      · rfl

theorem ofLexemes_sign (hc : c ∈ signs) : Token.ofLexemes ((Mark.sign c).place line :: rest) =
    signToken line c :: Token.ofLexemes rest := by
  have hangle : String.singleton c ∉ angleRuns := by
    have hall : ∀ c ∈ signs, String.singleton c ∉ angleRuns :=
      List.all_iff_forall_prop.mp (by decide)
    exact hall c hc
  simp only [Mark.place, Mark.lexeme]
  split
  · rw [Token.ofLexemes]
    · rfl
    all_goals simp
  · rw [Token.ofLexemes, Token.ofLexeme, if_neg hangle]
    · rfl
    all_goals simp

theorem ofLexemes_word (h : EndsName rest) : Token.ofLexemes ((Mark.word text).place line :: rest) =
    wordToken line text :: Token.ofLexemes rest := by
  simp only [Mark.place, Mark.lexeme, Lexeme.ofWord]
  split
  · rw [Token.ofLexemes]
    · rfl
    all_goals simp
  · rw [Token.ofLexemes, qualifiedName_of_endsName h]
    rfl

theorem ofLexemes_dimensionMarks (count : Nat) :
    Token.ofLexemes ((dimensionMarks count).map (Mark.place line) ++ rest) =
      dimensionTokens line count ++ Token.ofLexemes rest := by
  induction count with
  | zero => rfl
  | succ count ih =>
    simp only [dimensionMarks, List.map_cons, List.cons_append]
    rw [ofLexemes_sign (by decide), ofLexemes_sign (by decide), ih]
    rfl

theorem endsName_dimensionMarks (count : Nat) (h : EndsName rest) :
    EndsName ((dimensionMarks count).map (Mark.place line) ++ rest) := by
  cases count with
  | zero => exact h
  | succ count => exact endsName_sign (by decide)

theorem TypeHead.ofLexemes (head : TypeHead) (h : EndsName rest) :
    Token.ofLexemes (head.marks.map (Mark.place line) ++ rest) =
      wordToken line head.text :: Token.ofLexemes rest := by
  cases head with
  | primitive word mem => exact ofLexemes_word h
  | name first parts =>
    have hname (name : Name) : (Mark.word name.text).lexeme = .identifier name.text := by
      rw [Mark.lexeme, Lexeme.ofWord, if_neg name.not_reserved]
    have hqualified (start : String) : qualifiedName start ((parts.flatMap fun part ↦
        [.sign '.', .word part.text]).map (Mark.place line) ++ rest) =
        (parts.foldl (fun text part ↦ text ++ "." ++ part.text) start, rest) := by
      induction parts generalizing start with
      | nil => exact qualifiedName_of_endsName h
      | cons part parts ih =>
        have hdot : (Mark.sign '.').lexeme = .separator '.' := rfl
        simp only [List.flatMap_cons, List.map_cons, List.cons_append, List.nil_append, Mark.place,
          hname, hdot]
        rw [qualifiedName]
        exact ih (start ++ "." ++ part.text)
    simp only [marks, List.map_cons, List.cons_append, Mark.place, hname]
    rw [Token.ofLexemes, hqualified]
    rfl

theorem TypeForm.endsName (t : TypeForm part) :
    EndsName (t.marks.map (Mark.place line) ++ rest) := by
  obtain ⟨m, ms, hms, hm⟩ := t.marks_head
  rw [hms, List.map_cons, List.cons_append]
  cases m with
  | word text => exact endsName_word
  | sign c =>
    obtain rfl : c = '?' := by simpa [Mark.IsWord] using hm
    exact endsName_sign (by decide)

theorem TypeForm.ofLexemes (t : TypeForm part) (h : EndsName rest) :
    Token.ofLexemes (t.marks.map (Mark.place line) ++ rest) =
      t.tokens line ++ Token.ofLexemes rest := by
  induction t generalizing rest with
  | plain head dimensions =>
    rw [marks, List.map_append, List.append_assoc,
      head.ofLexemes (endsName_dimensionMarks dimensions h), ofLexemes_dimensionMarks]
    rfl
  | generic head arguments dimensions ih =>
    simp only [marks, List.map_append, List.map_cons, List.append_assoc, List.cons_append]
    rw [head.ofLexemes (endsName_sign (by decide)), ofLexemes_sign (by decide),
      ih (endsName_sign (by decide)), ofLexemes_sign (by decide), ofLexemes_dimensionMarks]
    simp only [tokens, List.cons_append, List.append_assoc]
  | exactly type ih => exact ih h
  | any => exact ofLexemes_sign (by decide)
  | upper bound ih | lower bound ih =>
    simp only [marks, List.map_cons, List.cons_append]
    rw [ofLexemes_sign (by decide), ofLexemes_word bound.endsName, ih h]
    rfl
  | last argument ih => exact ih h
  | next argument rest ih ih' =>
    simp only [marks, List.map_append, List.map_cons, List.append_assoc, List.cons_append]
    rw [ih (endsName_sign (by decide)), ofLexemes_sign (by decide), ih' h]
    simp only [tokens, List.cons_append, List.append_assoc]

end Tokens

end Boilerplate.Source
