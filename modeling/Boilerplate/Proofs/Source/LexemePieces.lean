import Boilerplate.Proofs.Lists
import Boilerplate.Proofs.Source.TokenForm

namespace Boilerplate.Source

def spelled (placed : List Placed) : String := String.join (placed.map (·.lexeme.text))

def written (ts : List Token) : String := String.join (ts.map Token.text)

namespace Lexeme

def isIdentifier : Lexeme → Bool
  | identifier _ => true
  | _ => false

def isAngleRun : Lexeme → Bool
  | operator mark => decide (mark ∈ angleRuns)
  | _ => false

def kind : Lexeme → Token.Kind
  | identifier _ | reserved _ => .word
  | string _ _ => .string
  | character _ => .character
  | number _ => .number
  | separator _ | operator _ | atSign => .symbol

/-- What a scan sees to: a point is a separator, and what is reserved is a word of the list. -/
def IsScanned : Lexeme → Prop
  | operator mark => mark ≠ "."
  | reserved word => word ∈ Identifier.reservedWords
  | _ => True

end Lexeme

structure NamePart where
  pointLine : Nat
  name : String
  line : Nat

def NamePart.lexemes (part : NamePart) : List Placed :=
  [⟨.separator '.', part.pointLine⟩, ⟨.identifier part.name, part.line⟩]

structure PointedName where
  first : String
  line : Nat
  parts : List NamePart

def PointedName.lexemes (name : PointedName) : List Placed :=
  ⟨.identifier name.first, name.line⟩ :: name.parts.flatMap NamePart.lexemes

/-- Lexemes that become tokens together. -/
inductive Piece where
  | name (name : PointedName)
  | atName (line : Nat) (name : PointedName)
  | marked (line : Nat) (other : Placed) (h : other.lexeme.isIdentifier = false)
  | run (p : Placed) (h : p.lexeme.isAngleRun = true)
  | alone (p : Placed) (h : p.lexeme.isIdentifier = false) (h' : p.lexeme.isAngleRun = false)

namespace Piece

def lexemes : Piece → List Placed
  | name n => n.lexemes
  | atName line n => ⟨.atSign, line⟩ :: n.lexemes
  | marked line other _ => [⟨.atSign, line⟩, other]
  | run p _ => [p]
  | alone p _ _ => [p]

/-- One token, which is on the line of the first lexeme and has the text of all of them. Only a run
of angle brackets is taken apart. -/
def tokens : Piece → List Token
  | name n => [⟨.word, spelled n.lexemes, n.line, []⟩]
  | atName line n => [⟨.atName, spelled (⟨.atSign, line⟩ :: n.lexemes), line, []⟩]
  | marked line other _ =>
    [⟨.atName, spelled [⟨.atSign, line⟩, other], line, other.lexeme.surrogates⟩]
  | run p _ => List.replicate p.lexeme.text.length ⟨.symbol, ">", p.line, []⟩
  | alone p _ _ => [⟨p.lexeme.kind, p.lexeme.text, p.line, p.lexeme.surrogates⟩]

def EndsWithName : Piece → Prop
  | name _ | atName _ _ => True
  | _ => False

def IsLoneSign : Piece → Prop
  | alone p _ _ => p.lexeme = .atSign
  | _ => False

end Piece

/-- Whether a name that stands in front would go on. -/
def StartsWithPart (placed : List Placed) : Prop :=
  ∃ part rest, placed = NamePart.lexemes part ++ rest

/-- Pieces in a row. Every name goes as far as it can, and a sign `@` by itself is the last one. -/
inductive IsReading : List Piece → Prop
  | nil : IsReading []
  | cons {piece : Piece} {pieces : List Piece} : IsReading pieces →
      (piece.EndsWithName → ¬StartsWithPart (pieces.flatMap Piece.lexemes)) →
      (piece.IsLoneSign → pieces = []) → IsReading (piece :: pieces)

/-- Whether these tokens are those of pieces into which the lexemes can be cut. -/
def Reads (raw : List Placed) (ts : List Token) : Prop :=
  ∃ pieces, IsReading pieces ∧ pieces.flatMap Piece.lexemes = raw ∧
    pieces.flatMap Piece.tokens = ts

theorem spelled_cons (p : Placed) (placed : List Placed) :
    spelled (p :: placed) = p.lexeme.text ++ spelled placed := by
  rw [spelled, List.map_cons, String.join_cons, spelled]

theorem spelled_append (placed more : List Placed) :
    spelled (placed ++ more) = spelled placed ++ spelled more := by
  rw [spelled, List.map_append, String.join_append, spelled, spelled]

theorem written_append (ts us : List Token) : written (ts ++ us) = written ts ++ written us := by
  rw [written, List.map_append, String.join_append, written, written]

theorem written_singleton (t : Token) : written [t] = t.text := by
  simp [written]

theorem Lexeme.isIdentifier_eq_false {l : Lexeme} (h : ∀ name, l ≠ .identifier name) :
    l.isIdentifier = false := by
  cases l with
  | identifier name => exact absurd rfl (h name)
  | _ => rfl

theorem eq_nil_of_flatMap_lexemes {pieces : List Piece}
    (h : pieces.flatMap Piece.lexemes = []) : pieces = [] := by
  cases pieces with
  | nil => rfl
  | cons piece pieces =>
    rw [List.flatMap_cons] at h
    cases piece <;> cases (List.append_eq_nil_iff.mp h).1

theorem qualifiedName_spec (start : String) (placed : List Placed) : ∃ parts rest,
    placed = List.flatMap NamePart.lexemes parts ++ rest ∧ ¬StartsWithPart rest ∧
      qualifiedName start placed = (start ++ spelled (parts.flatMap NamePart.lexemes), rest) := by
  fun_induction qualifiedName start placed with
  | case1 start dot part rest next hpart hdot ih =>
    obtain ⟨parts, after, hrest, hends, hname⟩ := ih
    refine ⟨⟨dot.line, next, part.line⟩ :: parts, after, ?_, hends, ?_⟩
    · rw [List.flatMap_cons, List.append_assoc, ← hrest, NamePart.lexemes, ← hdot, ← hpart]
      rfl
    · rw [hname, List.flatMap_cons, spelled_append]
      simp [NamePart.lexemes, spelled, Lexeme.text, String.append_assoc]
  | case2 start dot part rest hno =>
    refine ⟨[], _, rfl, ?_, by simp [spelled]⟩
    rintro ⟨p, more, hmore⟩
    obtain ⟨rfl, rfl, -⟩ : dot = ⟨.separator '.', p.pointLine⟩ ∧
        part = ⟨.identifier p.name, p.line⟩ ∧ rest = more := by
      simpa [NamePart.lexemes] using hmore
    exact hno _ rfl rfl
  | case3 start placed hno =>
    refine ⟨[], _, rfl, ?_, by simp [spelled]⟩
    rintro ⟨p, more, rfl⟩
    exact hno _ _ _ rfl

theorem ofLexeme_eq {l : Lexeme} (h : l.isAngleRun = false) (line : Nat) :
    Token.ofLexeme line l = [⟨l.kind, l.text, line, l.surrogates⟩] := by
  cases l with
  | operator mark =>
    rw [Token.ofLexeme, if_neg (of_decide_eq_false h)]
    rfl
  | _ => rfl

theorem ofLexeme_run {l : Lexeme} (h : l.isAngleRun = true) (line : Nat) :
    Token.ofLexeme line l = List.replicate l.text.length ⟨.symbol, ">", line, []⟩ := by
  cases l with
  | operator mark =>
    rw [Token.ofLexeme, if_pos (of_decide_eq_true h)]
    rfl
  | _ => cases h

theorem Reads.cons {raw : List Placed} {ts : List Token} (h : Reads raw ts) (piece : Piece)
    (hname : piece.EndsWithName → ¬StartsWithPart raw) (hsign : piece.IsLoneSign → raw = []) :
    Reads (piece.lexemes ++ raw) (piece.tokens ++ ts) := by
  obtain ⟨pieces, hread, rfl, rfl⟩ := h
  exact ⟨piece :: pieces, hread.cons hname fun hlone ↦ eq_nil_of_flatMap_lexemes (hsign hlone),
    List.flatMap_cons, List.flatMap_cons⟩

theorem reads_ofLexemes (raw : List Placed) : Reads raw (Token.ofLexemes raw) := by
  fun_induction Token.ofLexemes raw with
  | case1 => exact ⟨[], .nil, rfl, rfl⟩
  | case2 line first line' rest _ ih =>
    obtain ⟨parts, after, rfl, hends, hname⟩ := qualifiedName_spec first rest
    rw [hname] at ih ⊢
    have hreads := ih.cons (.atName line ⟨first, line', parts⟩) (fun _ ↦ hends) False.elim
    simpa [Piece.lexemes, Piece.tokens, PointedName.lexemes, spelled_cons, Lexeme.text] using hreads
  | case3 line other rest hother ih =>
    have hmarked : other.lexeme.isIdentifier = false :=
      Lexeme.isIdentifier_eq_false fun name he ↦ hother name other.line (by rw [← he])
    have hreads := ih.cons (.marked line other hmarked) False.elim False.elim
    simpa [Piece.lexemes, Piece.tokens, spelled, Lexeme.text] using hreads
  | case4 first line rest _ ih =>
    obtain ⟨parts, after, rfl, hends, hname⟩ := qualifiedName_spec first rest
    rw [hname] at ih ⊢
    have hreads := ih.cons (.name ⟨first, line, parts⟩) (fun _ ↦ hends) False.elim
    simpa [Piece.lexemes, Piece.tokens, PointedName.lexemes, spelled_cons, Lexeme.text] using hreads
  | case5 l line rest _ hmarked hidentifier ih =>
    cases hrun : l.isAngleRun with
    | true =>
      rw [ofLexeme_run hrun]
      exact ih.cons (.run ⟨l, line⟩ hrun) False.elim False.elim
    | false =>
      rw [ofLexeme_eq hrun]
      refine ih.cons (.alone ⟨l, line⟩ (Lexeme.isIdentifier_eq_false hidentifier) hrun)
        False.elim fun hsign ↦ ?_
      cases rest with
      | nil => rfl
      | cons other rest => exact (hmarked other rest rfl hsign).elim

section Tokens

variable {piece : Piece} {pieces : List Piece} {before after : List Token} {t : Token}

theorem Lexeme.text_of_isAngleRun {l : Lexeme} (h : l.isAngleRun = true) :
    l.text = String.ofList (List.replicate l.text.length '>') := by
  have hruns : ∀ mark ∈ angleRuns, mark = String.ofList (List.replicate mark.length '>') := by
    decide
  cases l with
  | operator mark => exact hruns mark (of_decide_eq_true h)
  | _ => cases h

theorem written_replicate (count line : Nat) :
    written (List.replicate count ⟨.symbol, ">", line, []⟩) =
      String.ofList (List.replicate count '>') := by
  induction count with
  | zero => rfl
  | succ count ih =>
    have hangle : String.ofList ['>'] = ">" := rfl
    rw [List.replicate_succ, List.replicate_succ, ← List.singleton_append, written_append, ih,
      written_singleton, ← List.singleton_append, String.ofList_append, hangle]

theorem Piece.written_tokens (piece : Piece) : written piece.tokens = spelled piece.lexemes := by
  cases piece with
  | run p h =>
    rw [tokens, written_replicate, ← Lexeme.text_of_isAngleRun h, lexemes]
    simp [spelled]
  | name n => rw [tokens, written_singleton, lexemes]
  | atName line n => rw [tokens, written_singleton, lexemes]
  | marked line other h => rw [tokens, written_singleton, lexemes]
  | alone p h h' => simp [tokens, written_singleton, lexemes, spelled]

theorem Piece.starts (h : piece.tokens = before ++ t :: after) :
    ∃ p others rest, piece.lexemes = p :: others ∧ t.line = p.line ∧
      p.lexeme.text = written before ++ rest ∧ (rest = "" → written before = "") := by
  have hfirst {u : Token} (h : [u] = before ++ t :: after) : before = [] ∧ u = t := by
    cases before with
    | nil => exact ⟨rfl, (List.cons.inj h).1⟩
    | cons v before => simp at h
  cases piece with
  | run p hrun =>
    obtain ⟨hlength, hbefore, hrest⟩ := List.replicate_eq_append_iff.mp h
    obtain ⟨-, ht⟩ := List.eq_replicate_iff.mp hrest
    have hline : t.line = p.line := by rw [ht t (.head _)]
    refine ⟨p, [], String.ofList (List.replicate (t :: after).length '>'), rfl, hline, ?_, ?_⟩
    · rw [hbefore, written_replicate, ← String.ofList_append, List.replicate_append_replicate,
        hlength, ← Lexeme.text_of_isAngleRun hrun]
    · intro hnil
      have hzero := congrArg String.toList hnil
      simp at hzero
  | name n | atName line n | marked line other h' | alone p h' h'' =>
    obtain ⟨rfl, rfl⟩ := hfirst h
    exact ⟨_, _, _, rfl, rfl, String.empty_append.symm, fun _ ↦ rfl⟩

theorem written_flatMap_tokens (pieces : List Piece) :
    written (pieces.flatMap Piece.tokens) = spelled (pieces.flatMap Piece.lexemes) := by
  induction pieces with
  | nil => rfl
  | cons piece pieces ih =>
    rw [List.flatMap_cons, List.flatMap_cons, written_append, spelled_append,
      piece.written_tokens, ih]

theorem exists_start (h : pieces.flatMap Piece.tokens = before ++ t :: after) :
    ∃ earlier p later inside rest, pieces.flatMap Piece.lexemes = earlier ++ p :: later ∧
      t.line = p.line ∧ written before = spelled earlier ++ inside ∧
      p.lexeme.text = inside ++ rest ∧ (rest = "" → inside = "") := by
  induction pieces generalizing before with
  | nil => simp at h
  | cons piece pieces ih =>
    rw [List.flatMap_cons] at h
    rcases append_eq_append_cons h with ⟨more, hpiece, -⟩ | ⟨front, rfl, hmore⟩
    · obtain ⟨p, others, rest, hlexemes, hline, htext, hrest⟩ := Piece.starts hpiece
      refine ⟨[], p, others ++ pieces.flatMap Piece.lexemes, written before, rest, ?_, hline, ?_,
        htext, hrest⟩
      · rw [List.flatMap_cons, hlexemes]
        rfl
      · simp [spelled]
    · obtain ⟨earlier, p, later, inside, rest, hlexemes, hline, hbefore, htext, hrest⟩ := ih hmore
      refine ⟨piece.lexemes ++ earlier, p, later, inside, rest, ?_, hline, ?_, htext, hrest⟩
      · rw [List.flatMap_cons, hlexemes, List.append_assoc]
      · rw [written_append, piece.written_tokens, hbefore, spelled_append, String.append_assoc]

theorem Piece.not_mem_angleRuns (ht : t ∈ piece.tokens) (hk : t.kind = .symbol) :
    t.text ∉ angleRuns := by
  cases piece with
  | run p h =>
    rw [List.eq_of_mem_replicate ht]
    exact (by decide : ">" ∉ angleRuns)
  | alone p h h' =>
    obtain rfl := List.mem_singleton.mp ht
    obtain ⟨l, line⟩ := p
    cases l with
    | operator mark => exact of_decide_eq_false h'
    | separator mark =>
      have hlong : ∀ run ∈ angleRuns, run.length ≠ 1 := by decide
      exact fun hmem ↦ hlong _ hmem String.length_singleton
    | atSign => exact (by decide : "@" ∉ angleRuns)
    | _ => cases hk
  | name n | atName line n | marked line other h =>
    obtain rfl := List.mem_singleton.mp ht
    cases hk

end Tokens

section Points

variable {piece : Piece} {pieces : List Piece} {before after ts : List Token} {t : Token}

theorem Piece.tokens_ne_nil (piece : Piece) : piece.tokens ≠ [] := by
  cases piece with
  | run p h =>
    have hlong : ∀ mark ∈ angleRuns, mark.length ≠ 0 := by decide
    obtain ⟨l, line⟩ := p
    cases l with
    | operator mark =>
      intro hnil
      exact hlong mark (of_decide_eq_true h) ((List.replicate_eq_nil_iff _).mp hnil)
    | _ => cases h
  | _ => exact List.cons_ne_nil _ _

theorem Piece.of_isWord (ht : t ∈ piece.tokens) (hw : t.isWord = true) : piece.tokens = [t] ∧
    ((∃ n, piece = .name n) ∨ ∃ line, piece.lexemes = [⟨.reserved t.text, line⟩]) := by
  have hkind := Token.isWord_iff.mp hw
  cases piece with
  | name n =>
    obtain rfl := List.mem_singleton.mp ht
    exact ⟨rfl, .inl ⟨n, rfl⟩⟩
  | run p h =>
    rw [List.eq_of_mem_replicate ht] at hkind
    cases hkind
  | alone p h h' =>
    obtain rfl := List.mem_singleton.mp ht
    obtain ⟨l, line⟩ := p
    cases l with
    | reserved word => exact ⟨rfl, .inr ⟨line, rfl⟩⟩
    | identifier name => cases h
    | _ => cases hkind
  | atName line n | marked line other h =>
    obtain rfl := List.mem_singleton.mp ht
    cases hkind

theorem Piece.of_isPoint (ht : t ∈ piece.tokens) (hpoint : t.isSymbol "." = true)
    (hscanned : ∀ p ∈ piece.lexemes, p.lexeme.IsScanned) :
    piece.tokens = [t] ∧ ∃ line, piece.lexemes = [⟨.separator '.', line⟩] := by
  obtain ⟨hkind, htext⟩ := Token.isSymbol_iff.mp hpoint
  cases piece with
  | run p h =>
    rw [List.eq_of_mem_replicate ht] at htext
    exact absurd htext (by decide : ">" ≠ ".")
  | alone p h h' =>
    obtain rfl := List.mem_singleton.mp ht
    obtain ⟨l, line⟩ := p
    cases l with
    | operator mark => exact absurd htext (hscanned ⟨.operator mark, line⟩ (.head _))
    | separator mark =>
      obtain rfl : mark = '.' := by simpa [Lexeme.text] using congrArg String.toList htext
      exact ⟨rfl, line, rfl⟩
    | atSign => exact absurd htext (by decide : "@" ≠ ".")
    | _ => cases hkind
  | name n | atName line n | marked line other h =>
    obtain rfl := List.mem_singleton.mp ht
    cases hkind

theorem exists_first_piece (h : pieces.flatMap Piece.tokens = t :: ts) :
    ∃ piece rest, pieces = piece :: rest ∧ t ∈ piece.tokens ∧
      (piece.tokens = [t] → rest.flatMap Piece.tokens = ts) := by
  cases pieces with
  | nil => cases h
  | cons piece rest =>
    obtain ⟨u, us, hpiece⟩ := List.exists_cons_of_ne_nil piece.tokens_ne_nil
    rw [List.flatMap_cons, hpiece] at h
    obtain ⟨rfl, hrest⟩ := List.cons.inj h
    refine ⟨piece, rest, rfl, by simp [hpiece], fun hsingle ↦ ?_⟩
    obtain rfl : us = [] := (List.cons.inj (hpiece.symm.trans hsingle)).2
    exact hrest

/-- A point with a word behind it goes on with a name in front, or the word is reserved. -/
theorem startsWithPart_or_mem_reservedWords {point second : Token}
    (hscanned : ∀ p ∈ pieces.flatMap Piece.lexemes, p.lexeme.IsScanned)
    (h : pieces.flatMap Piece.tokens = point :: second :: after)
    (hpoint : point.isSymbol "." = true) (hsecond : second.isWord = true) :
    StartsWithPart (pieces.flatMap Piece.lexemes) ∨
      second.text ∈ Identifier.reservedWords := by
  obtain ⟨dot, rest, rfl, hdot, hrest⟩ := exists_first_piece h
  have hdotScanned : ∀ p ∈ dot.lexemes, p.lexeme.IsScanned := fun p hp ↦
    hscanned p (by rw [List.flatMap_cons]; exact List.mem_append_left _ hp)
  obtain ⟨hsingle, pointLine, hseparator⟩ := Piece.of_isPoint hdot hpoint hdotScanned
  obtain ⟨last, rest, rfl, hlast, -⟩ := exists_first_piece (hrest hsingle)
  rcases (Piece.of_isWord hlast hsecond).2 with ⟨n, rfl⟩ | ⟨line, hreserved⟩
  · refine .inl ⟨⟨pointLine, n.first, n.line⟩, ?_, ?_⟩
    · exact n.parts.flatMap NamePart.lexemes ++ rest.flatMap Piece.lexemes
    · rw [List.flatMap_cons, List.flatMap_cons, hseparator]
      rfl
  · refine .inr (hscanned ⟨.reserved second.text, line⟩ ?_)
    rw [List.flatMap_cons, List.flatMap_cons, hreserved]
    simp

theorem IsReading.mem_reservedWords (hread : IsReading pieces)
    (hscanned : ∀ p ∈ pieces.flatMap Piece.lexemes, p.lexeme.IsScanned)
    {first point second : Token}
    (h : pieces.flatMap Piece.tokens = before ++ first :: point :: second :: after)
    (hfirst : first.isWord = true) (hpoint : point.isSymbol "." = true)
    (hsecond : second.isWord = true) :
    first.text ∈ Identifier.reservedWords ∨ second.text ∈ Identifier.reservedWords := by
  induction hread generalizing before with
  | nil => simp at h
  | @cons piece pieces hread hends _ ih =>
    rw [List.flatMap_cons] at h hscanned
    obtain ⟨hpiece, hmore⟩ := List.forall_mem_append.mp hscanned
    rcases append_eq_append_cons h with ⟨more, htokens, hafter⟩ | ⟨front, rfl, hrest⟩
    · have hmem : first ∈ piece.tokens := by simp [htokens]
      obtain ⟨hsingle, hword⟩ := Piece.of_isWord hmem hfirst
      obtain rfl : more = [] := by
        have hlength := congrArg List.length (htokens.symm.trans hsingle)
        simp only [List.length_append, List.length_cons, List.length_nil] at hlength
        exact List.eq_nil_of_length_eq_zero (by omega)
      rcases hword with ⟨n, rfl⟩ | ⟨line, hreserved⟩
      · have hsecond' := startsWithPart_or_mem_reservedWords hmore hafter.symm hpoint hsecond
        exact .inr (hsecond'.resolve_left (hends trivial))
      · refine .inl (hpiece ⟨.reserved first.text, line⟩ ?_)
        rw [hreserved]
        exact .head _
    · exact ih hmore hrest

end Points

theorem Lexeme.WellFormed.isScanned {l : Lexeme} (h : l.WellFormed) : l.IsScanned := by
  cases l with
  | operator mark =>
    rintro rfl
    exact absurd h (by decide : "." ∉ operators)
  | reserved word => exact h
  | _ => trivial

/-- No text is lost on the way from lexemes to tokens, and none is added: each token is on the line
of the lexeme in which its text starts, runs of closing angle brackets are all that is taken apart,
and names with their points and signs `@` are all that is put together. -/
theorem ofLexemes_faithful (raw : List Placed) :
    written (Token.ofLexemes raw) = spelled raw ∧
      (∀ before t after, Token.ofLexemes raw = before ++ t :: after →
        ∃ earlier p later inside rest, raw = earlier ++ p :: later ∧ t.line = p.line ∧
          written before = spelled earlier ++ inside ∧ p.lexeme.text = inside ++ rest ∧
            (rest = "" → inside = "")) ∧
      (∀ t ∈ Token.ofLexemes raw, t.kind = .symbol → t.text ∉ angleRuns) ∧
      Reads raw (Token.ofLexemes raw) ∧
      ((∀ p ∈ raw, p.lexeme.IsScanned) → ∀ before first point second after,
        Token.ofLexemes raw = before ++ first :: point :: second :: after →
          first.isWord = true → point.isSymbol "." = true → second.isWord = true →
            first.text ∈ Identifier.reservedWords ∨ second.text ∈ Identifier.reservedWords) ∧
      (∀ source, lexemes source = .ok raw → ∀ p ∈ raw, p.lexeme.IsScanned) := by
  obtain ⟨pieces, hread, rfl, htokens⟩ := reads_ofLexemes raw
  rw [← htokens]
  refine ⟨written_flatMap_tokens pieces, fun _ _ _ h ↦ exists_start h, ?_,
    ⟨pieces, hread, rfl, rfl⟩, ?_, ?_⟩
  · intro t ht
    obtain ⟨piece, -, hmem⟩ := List.mem_flatMap.mp ht
    exact Piece.not_mem_angleRuns hmem
  · intro hscanned before first point second after h hfirst hpoint hsecond
    exact hread.mem_reservedWords hscanned h hfirst hpoint hsecond
  · intro source h p hp
    obtain ⟨surrogates, cs, hscan⟩ := scan_of_lexemes h
    exact (scan_wellFormed hscan p hp).isScanned

end Boilerplate.Source
