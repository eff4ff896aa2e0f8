import Boilerplate.Proofs.Source.MaskedText
import Boilerplate.Proofs.Source.TokenForm
import Boilerplate.Text.Lines
import Mathlib.Data.Bool.AllAny
import Mathlib.Data.List.Chain

namespace Boilerplate.Source

def isNameStart (c : Char) : Bool := c.isAlpha || c == '_' || c == '$'

def isNamePart (c : Char) : Bool := isNameStart c || c.isDigit

def signs : List Char := ['<', '>', ',', '?', '[', ']', '.', ';', '\x7b', '\x7d']

def IsAsciiWord (text : String) : Prop :=
  ∃ c others, text.toList = c :: others ∧ isNameStart c = true ∧
    ∀ d ∈ others, isNamePart d = true

instance (text : String) : Decidable (IsAsciiWord text) :=
  decidable_of_iff
    (text.toList.head?.any isNameStart = true ∧ text.toList.tail.all isNamePart = true) (by
      rw [IsAsciiWord]
      cases text.toList <;> simp)

inductive Mark where
  | word (text : String)
  | sign (c : Char)

namespace Mark

def text : Mark → List Char
  | word text => text.toList
  | sign c => [c]

def IsWord : Mark → Prop
  | word _ => True
  | sign _ => False

instance : DecidablePred IsWord
  | word _ => isTrue trivial
  | sign _ => isFalse id

def Valid : Mark → Prop
  | word text => IsAsciiWord text
  | sign c => c ∈ signs

def lexeme : Mark → Lexeme
  | word text => .ofWord text
  | sign c => if c ∈ separators then .separator c else .operator (String.singleton c)

def place (line : Nat) (m : Mark) : Placed := ⟨m.lexeme, line⟩

def Follows (m next : Mark) : Prop :=
  (m = sign '.' → next ≠ sign '.') ∧ (m = sign '<' → next ≠ sign '<')

end Mark

def IsGap (cs : List Char) : Prop := ∀ c ∈ cs, c = ' ' ∨ c = '\t'

/-- The ways to spell marks on a line. Gaps stand around all marks; one between two words has to
hold a blank. -/
inductive Spelled : List Mark → List Char → Prop
  | nil {gap : List Char} : IsGap gap → Spelled [] gap
  | cons {gap cs : List Char} {m : Mark} {ms : List Mark} : IsGap gap → Spelled ms cs →
      (m.IsWord → ∀ next ∈ ms.head?, next.IsWord → ∀ c ∈ cs.head?, c = ' ' ∨ c = '\t') →
      Spelled (m :: ms) (gap ++ m.text ++ cs)

def isGapChar (c : Char) : Bool := c == ' ' || c == '\t'

def spells : List Mark → List Char → Bool
  | [], cs => cs.all isGapChar
  | m :: ms, cs =>
    let rest := cs.dropWhile isGapChar
    let after := rest.drop m.text.length
    m.text.isPrefixOf rest && spells ms after &&
      (!(decide m.IsWord && ms.head?.any (decide ·.IsWord)) || after.head?.all isGapChar)

theorem isGapChar_iff {c : Char} : isGapChar c = true ↔ c = ' ' ∨ c = '\t' := by
  simp [isGapChar]

theorem spelled_of_spells {ms : List Mark} {cs : List Char} (h : spells ms cs = true) :
    Spelled ms cs := by
  induction ms generalizing cs with
  | nil =>
    simp only [spells, List.all_eq_true] at h
    exact .nil fun c hc ↦ isGapChar_iff.mp (h c hc)
  | cons m ms ih =>
    simp only [spells, Bool.and_eq_true, Bool.or_eq_true, Bool.not_eq_true'] at h
    obtain ⟨⟨hstarts, hspells⟩, hjoint⟩ := h
    obtain ⟨after, hafter⟩ := List.isPrefixOf_iff_prefix.mp hstarts
    have hgap : IsGap (cs.takeWhile isGapChar) :=
      fun c hc ↦ isGapChar_iff.mp (List.mem_takeWhile_imp hc)
    have hcs : cs = cs.takeWhile isGapChar ++ m.text ++ after := by
      rw [List.append_assoc, hafter, List.takeWhile_append_dropWhile]
    rw [← hafter, List.drop_left] at hspells hjoint
    rw [hcs]
    refine .cons hgap (ih hspells) fun hw next hnext hnw c hc ↦ ?_
    rcases hjoint with hjoint | hjoint
    · rw [hnext] at hjoint
      simp [hw, hnw] at hjoint
    · rw [hc] at hjoint
      exact isGapChar_iff.mp hjoint

section Characters

variable {c : Char}

theorem toNat_lt_of_isNamePart (h : isNamePart c = true) : c.toNat < 128 := by
  have hle {n : UInt32} (h : c.val ≤ n) : c.toNat ≤ n.toNat := UInt32.le_iff_toNat_le.mp h
  have hupper (h : c.isUpper = true) : c.toNat < 128 :=
    (hle (of_decide_eq_true h).2).trans_lt (by decide)
  have hlower (h : c.isLower = true) : c.toNat < 128 :=
    (hle (of_decide_eq_true (Bool.and_eq_true_iff.mp h).2)).trans_lt (by decide)
  have hdigit (h : c.isDigit = true) : c.toNat < 128 :=
    (hle (of_decide_eq_true (Bool.and_eq_true_iff.mp h).2)).trans_lt (by decide)
  simp only [isNamePart, isNameStart, Bool.or_eq_true, beq_iff_eq] at h
  rcases h with ((h | rfl) | rfl) | h
  · exact (Bool.or_eq_true_iff.mp h).elim hupper hlower
  · decide
  · decide
  · exact hdigit h

theorem isNamePart_of_isNameStart (h : isNameStart c = true) : isNamePart c = true := by
  simp [isNamePart, h]

theorem isIdentifierPart_of_isNamePart (h : isNamePart c = true) :
    Text.isIdentifierPart c = true := by
  have hall : ∀ n < 128, isNamePart (Char.ofNat n) = true →
      Text.isIdentifierPart (Char.ofNat n) = true := by decide +kernel
  have hc := hall c.toNat (toNat_lt_of_isNamePart h)
  rw [Char.ofNat_toNat] at hc
  exact hc h

theorem isNameStart_spec (h : isNameStart c = true) :
    Text.isIdentifierStart c = true ∧ Text.isDigit c = false ∧ Numeral.isDecimal c = false ∧
      Text.isBlank c = false ∧ c ∉ separators ∧ c ∉ ['/', '@', '\'', '"', '<', '=', '\\'] := by
  have hall : ∀ n < 128, isNameStart (Char.ofNat n) = true →
      Text.isIdentifierStart (Char.ofNat n) = true ∧ Text.isDigit (Char.ofNat n) = false ∧
        Numeral.isDecimal (Char.ofNat n) = false ∧ Text.isBlank (Char.ofNat n) = false ∧
        Char.ofNat n ∉ separators ∧ Char.ofNat n ∉ ['/', '@', '\'', '"', '<', '=', '\\'] := by
    decide +kernel
  have hc := hall c.toNat (toNat_lt_of_isNamePart (isNamePart_of_isNameStart h))
  rw [Char.ofNat_toNat] at hc
  exact hc h

/-- The characters that are scanned in another way than blanks, words and signs. -/
def strangers : List Char := ['=', '"', '\\']

theorem not_mem_strangers_of_isNamePart (h : isNamePart c = true) : c ∉ strangers := by
  intro hc
  have hall : ∀ c ∈ strangers, isNamePart c = false :=
    List.all_iff_forall_prop.mp (by decide)
  rw [hall c hc] at h
  exact absurd h Bool.false_ne_true

end Characters

section Steps

variable {surrogates : List (Nat × Nat)} {marked : List Char} {line : Nat} {c : Char} {cs rest : List Char}

theorem scan_of_gap {feeds : Nat} (h : step surrogates c cs = .gap feeds rest) :
    scan surrogates marked line (c :: cs) = scan surrogates marked (line + feeds) rest := by
  rw [scan.eq_def]
  dsimp only
  split <;> simp_all

theorem scan_of_lexeme {l : Lexeme} (h : step surrogates c cs = .lexeme l rest) :
    scan surrogates marked line (c :: cs) = (scan surrogates rest line rest).map (⟨l, line⟩ :: ·) := by
  rw [scan.eq_def]
  dsimp only
  split <;> simp_all

theorem step_blank (h : Text.isBlank c = true) : step surrogates c cs =
    .gap ((c :: cs.takeWhile Text.isBlank).count '\n') (cs.dropWhile Text.isBlank) := by
  rw [step, if_pos h]

theorem scan_blanks (cs : List Char) : scan surrogates marked line cs =
    scan surrogates marked (line + (cs.takeWhile Text.isBlank).count '\n')
      (cs.dropWhile Text.isBlank) := by
  cases cs with
  | nil => rfl
  | cons c cs =>
    by_cases h : Text.isBlank c = true
    · rw [scan_of_gap (step_blank h), List.takeWhile_cons_of_pos h, List.dropWhile_cons_of_pos h]
    · rw [List.takeWhile_cons_of_neg h, List.dropWhile_cons_of_neg h]
      rfl

theorem scan_cons_blank (h : Text.isBlank c = true) : scan surrogates marked line (c :: cs) =
    scan surrogates marked (line + if c = '\n' then 1 else 0) cs := by
  rw [scan_of_gap (step_blank h), scan_blanks cs, List.count_cons]
  congr 1
  simp only [beq_iff_eq]
  omega

theorem step_word (surrogates : List (Nat × Nat)) {others : List Char} (hc : isNameStart c = true)
    (ho : ∀ d ∈ others, isNamePart d = true)
    (hcs : ∀ d ∈ cs.head?, Text.isIdentifierPart d = false) :
    step surrogates c (others ++ cs) = .lexeme (.ofWord (String.ofList (c :: others))) cs := by
  obtain ⟨hstart, hdigit, hdecimal, hblank, hsep, hother⟩ := isNameStart_spec hc
  have hpoint : c ≠ '.' := fun he ↦ hsep (by rw [he]; decide)
  have hpart : ∀ d ∈ others, Text.isIdentifierPart d = true :=
    fun d hd ↦ isIdentifierPart_of_isNamePart (ho d hd)
  have htake : cs.takeWhile Text.isIdentifierPart = [] ∧
      cs.dropWhile Text.isIdentifierPart = cs := by
    cases cs with
    | nil => exact ⟨rfl, rfl⟩
    | cons d cs => simp [hcs d rfl]
  simp only [List.mem_cons, List.not_mem_nil, or_false, not_or] at hother
  obtain ⟨hslash, hat, hquote, hquotes, -⟩ := hother
  rw [step, if_neg (by simp [hblank]), if_neg (by simp [hslash]), if_neg (by simp [hslash]),
    if_neg (by simp [hpoint]), if_neg hat, if_neg (by simp [hpoint]), if_neg hsep,
    if_neg (by simp [hquote, hquotes]), if_neg (by simp [hdecimal]), if_pos hstart,
    List.takeWhile_append_of_pos hpart, List.dropWhile_append_of_pos hpart, htake.1, htake.2,
    List.append_nil]

theorem operatorAt?_angle (hc : c = '<' ∨ c = '>' ∨ c = '?') (heq : '=' ∉ cs)
    (hangle : c = '<' → ∀ d ∈ cs.head?, d ≠ '<') :
    operatorAt? (c :: cs) = some (String.singleton c) := by
  have hstarts {ds : List Char} (hd : '=' ∈ ds) : ds.isPrefixOf cs = false := by
    cases h : ds.isPrefixOf cs
    · rfl
    · exact absurd ((List.isPrefixOf_iff_prefix.mp h).subset hd) heq
  rcases hc with rfl | rfl | rfl
  · have hopen : ['<'].isPrefixOf cs = false := by
      cases cs with
      | nil => rfl
      | cons d cs =>
        have hd : ('<' == d) = false := beq_false_of_ne fun he ↦ hangle rfl d rfl he.symm
        simp [List.isPrefixOf, hd]
    simp [operatorAt?, operators, hstarts, hopen]
  · simp [operatorAt?, operators, hstarts]
  · simp [operatorAt?, operators]

theorem step_sign (surrogates : List (Nat × Nat)) (hc : c ∈ signs) (heq : '=' ∉ cs)
    (hpoint : c = '.' → ∀ d ∈ cs.head?, d ≠ '.' ∧ Text.isDigit d = false)
    (hangle : c = '<' → ∀ d ∈ cs.head?, d ≠ '<') :
    step surrogates c cs = .lexeme (Mark.sign c).lexeme cs := by
  have hall : ∀ c ∈ signs, Text.isBlank c = false ∧ c ≠ '/' ∧ c ≠ '@' ∧
      (c ∉ separators → c ≠ '\'' ∧ c ≠ '"' ∧ Numeral.isDecimal c = false ∧
        Text.isIdentifierStart c = false ∧ (c = '<' ∨ c = '>' ∨ c = '?')) :=
    List.all_iff_forall_prop.mp (by decide +kernel)
  obtain ⟨hblank, hslash, hat, hangles⟩ := hall c hc
  have hdots : ¬(c = '.' ∧ ['.', '.'].isPrefixOf cs = true) := by
    intro h
    obtain ⟨more, rfl⟩ := List.isPrefixOf_iff_prefix.mp h.2
    exact (hpoint h.1 '.' rfl).1 rfl
  have hdigit : ¬(c = '.' ∧ cs.head?.any Text.isDigit = true) := by
    intro h
    obtain ⟨d, hd, hdigit⟩ := Option.any_eq_true _ _ |>.mp h.2
    rw [(hpoint h.1 d hd).2] at hdigit
    exact absurd hdigit Bool.false_ne_true
  rw [step, if_neg (by simp [hblank]), if_neg (by simp [hslash]), if_neg (by simp [hslash]),
    if_neg hdots, if_neg hat, if_neg hdigit, Mark.lexeme]
  by_cases hsep : c ∈ separators
  · rw [if_pos hsep, if_pos hsep]
  · obtain ⟨hquote, hquotes, hdecimal, hstart, hop⟩ := hangles hsep
    rw [if_neg hsep, if_neg (by simp [hquote, hquotes]), if_neg (by simp [hdecimal]),
      if_neg (by simp [hstart]), if_neg hsep, operatorStep, operatorAt?_angle hop heq hangle]
    simp

end Steps

section Lines

variable {line : Nat} {c : Char} {m next : Mark} {ms : List Mark} {cs rest : List Char}
  {placed : List Placed}

/-- A text is cut into these lexemes, whatever stands before it. -/
def Scans (line : Nat) (cs : List Char) (placed : List Placed) : Prop :=
  ∀ marked, scan [] marked line cs = .ok placed

theorem scans_nil : Scans line [] [] := by
  intro marked
  rw [scan.eq_def]

theorem Scans.afterGap {gap : List Char} (hg : IsGap gap) (h : Scans line cs placed) :
    Scans line (gap ++ cs) placed := by
  intro marked
  induction gap with
  | nil => exact h marked
  | cons c gap ih =>
    have hc : Text.isBlank c = true ∧ c ≠ '\n' := by
      rcases hg c (.head _) with rfl | rfl <;> decide
    rw [List.cons_append, scan_cons_blank hc.1, if_neg hc.2]
    exact ih fun d hd ↦ hg d (.tail _ hd)

theorem Scans.lineFeed (h : Scans (line + 1) cs placed) : Scans line ('\n' :: cs) placed := by
  intro marked
  rw [scan_cons_blank (by decide), if_pos rfl]
  exact h marked

def Mark.Precedes (m : Mark) (c : Char) : Prop :=
  (m.IsWord → Text.isIdentifierPart c = false) ∧
    (m = sign '.' → c ≠ '.' ∧ Text.isDigit c = false) ∧ (m = sign '<' → c ≠ '<')

theorem Scans.mark (hm : m.Valid) (heq : '=' ∉ cs) (hcs : ∀ c ∈ cs.head?, m.Precedes c)
    (h : Scans line cs placed) : Scans line (m.text ++ cs) (m.place line :: placed) := by
  intro marked
  cases m with
  | word text =>
    obtain ⟨c, others, ht, hc, ho⟩ := hm
    have hstep := step_word [] hc ho fun c hc ↦ (hcs c hc).1 trivial
    rw [← ht, String.ofList_toList] at hstep
    rw [Mark.text, ht, List.cons_append, scan_of_lexeme hstep, h]
    rfl
  | sign c =>
    have hstep := step_sign [] hm heq (fun he d hd ↦ (hcs d hd).2.1 (by rw [he]))
      fun he d hd ↦ (hcs d hd).2.2 (by rw [he])
    rw [Mark.text, List.cons_append, List.nil_append, scan_of_lexeme hstep, h]
    rfl

theorem Mark.precedes_blank (m : Mark) (hc : c = ' ' ∨ c = '\t' ∨ c = '\n') : m.Precedes c := by
  have hall : ∀ c ∈ [' ', '\t', '\n'], Text.isIdentifierPart c = false ∧ c ≠ '.' ∧
      Text.isDigit c = false ∧ c ≠ '<' := List.all_iff_forall_prop.mp (by decide +kernel)
  obtain ⟨hpart, hpoint, hdigit, hangle⟩ := hall c (by simpa using hc)
  exact ⟨fun _ ↦ hpart, fun _ ↦ ⟨hpoint, hdigit⟩, fun _ ↦ hangle⟩

theorem Mark.precedes_of_follows (hf : m.Follows next) (hnext : next.Valid)
    (hw : m.IsWord → ¬next.IsWord) (hc : c ∈ next.text.head?) : m.Precedes c := by
  cases next with
  | word text =>
    obtain ⟨d, others, ht, hd, -⟩ := hnext
    obtain rfl : d = c := by simpa [Mark.text, ht] using hc
    obtain ⟨-, hdigit, -, -, hsep, hother⟩ := isNameStart_spec hd
    refine ⟨fun h ↦ absurd trivial (hw h), fun _ ↦ ⟨?_, hdigit⟩, fun _ ↦ ?_⟩
    · intro hx
      subst hx
      exact hsep (by decide)
    · intro hx
      subst hx
      exact hother (by decide)
  | sign d =>
    obtain rfl : d = c := by simpa [Mark.text] using hc
    have hall : ∀ d ∈ signs, Text.isIdentifierPart d = false ∧ Text.isDigit d = false :=
      List.all_iff_forall_prop.mp (by decide +kernel)
    obtain ⟨hpart, hdigit⟩ := hall d hnext
    refine ⟨fun _ ↦ hpart, fun h ↦ ⟨?_, hdigit⟩, fun h ↦ ?_⟩
    · intro hx
      subst hx
      exact hf.1 h rfl
    · intro hx
      subst hx
      exact hf.2 h rfl

theorem Spelled.head? (h : Spelled ms cs) (hv : ∀ m ∈ ms, m.Valid)
    (hrest : ∀ c ∈ rest.head?, c = '\n') (hc : c ∈ (cs ++ rest).head?) :
    (c = ' ' ∨ c = '\t' ∨ c = '\n') ∨ ∃ m ∈ ms.head?, c ∈ m.text.head? := by
  have hgap {gap more : List Char} (hg : IsGap gap) (hc : c ∈ (gap ++ more).head?) :
      (c = ' ' ∨ c = '\t' ∨ c = '\n') ∨ c ∈ more.head? := by
    cases gap with
    | nil => exact .inr hc
    | cons d gap =>
      obtain rfl : d = c := by simpa using hc
      rcases hg d (.head _) with rfl | rfl <;> simp
  cases h with
  | nil hg =>
    rcases hgap hg hc with hc | hc
    · exact .inl hc
    · exact .inl (.inr (.inr (hrest c hc)))
  | @cons gap cs m ms hg _ _ =>
    rw [List.append_assoc, List.append_assoc] at hc
    rcases hgap hg hc with hc | hc
    · exact .inl hc
    · refine .inr ⟨m, rfl, ?_⟩
      cases m with
      | word text =>
        obtain ⟨d, others, ht, -⟩ := hv _ (.head _)
        simpa [Mark.text, ht] using hc
      | sign d => simpa [Mark.text] using hc

theorem Spelled.not_mem_strangers (h : Spelled ms cs) (hv : ∀ m ∈ ms, m.Valid) :
    ∀ c ∈ cs, c ∉ strangers := by
  have hgap {gap : List Char} (hg : IsGap gap) : ∀ c ∈ gap, c ∉ strangers := by
    intro c hc
    rcases hg c hc with rfl | rfl <;> decide
  induction h with
  | nil hg => exact hgap hg
  | @cons gap cs m ms hg hs hblank ih =>
    obtain ⟨hm, hms⟩ := List.forall_mem_cons.mp hv
    intro c hc
    rcases List.mem_append.mp hc with hc | hc
    · rcases List.mem_append.mp hc with hc | hc
      · exact hgap hg c hc
      · cases m with
        | word text =>
          obtain ⟨d, others, ht, hd, ho⟩ := hm
          rw [Mark.text, ht] at hc
          rcases List.mem_cons.mp hc with rfl | hc
          · exact not_mem_strangers_of_isNamePart (isNamePart_of_isNameStart hd)
          · exact not_mem_strangers_of_isNamePart (ho c hc)
        | sign d =>
          obtain rfl : c = d := by simpa [Mark.text] using hc
          have hall : ∀ c ∈ signs, c ∉ strangers := List.all_iff_forall_prop.mp (by decide)
          exact hall c hm
    · exact ih hms c hc

/-- However its marks are spelled, a line is cut into the lexemes of the marks. -/
theorem Spelled.scans (h : Spelled ms cs) (hv : ∀ m ∈ ms, m.Valid) (hf : ms.IsChain Mark.Follows)
    (hrest : ∀ c ∈ rest.head?, c = '\n') (heq : '=' ∉ rest) (hs : Scans line rest placed) :
    Scans line (cs ++ rest) (ms.map (Mark.place line) ++ placed) := by
  induction h with
  | nil hg => exact hs.afterGap hg
  | @cons gap cs m ms hg hspelled hblank ih =>
    obtain ⟨hm, hms⟩ := List.forall_mem_cons.mp hv
    have hmore := ih hms (List.isChain_cons.mp hf).2
    have heq' : '=' ∉ cs ++ rest := by
      intro he
      rcases List.mem_append.mp he with he | he
      · exact hspelled.not_mem_strangers hms '=' he (by decide)
      · exact heq he
    have hhead : ∀ c ∈ (cs ++ rest).head?, m.Precedes c := by
      intro c hc
      by_cases hb : c = ' ' ∨ c = '\t' ∨ c = '\n'
      · exact m.precedes_blank hb
      · obtain ⟨next, hnext, hcn⟩ := (hspelled.head? hms hrest hc).resolve_left hb
        refine Mark.precedes_of_follows ((List.isChain_cons.mp hf).1 next hnext)
          (hms next (List.mem_of_mem_head? hnext)) (fun hmw hnw ↦ hb ?_) hcn
        cases cs with
        | nil => exact .inr (.inr (hrest c hc))
        | cons d cs =>
          obtain rfl : d = c := by simpa using hc
          rcases hblank hmw next hnext hnw d rfl with hd | hd
          · exact .inl hd
          · exact .inr (.inl hd)
    rw [List.append_assoc, List.append_assoc, List.map_cons, List.cons_append]
    exact (hmore.mark hm heq' hhead).afterGap hg

end Lines

section Sources

variable {cs rest ending : List Char} {placed : List Placed} {lines : List (List Mark)}
  {texts : List (List Char)}

def IsLine (ms : List Mark) : Prop := (∀ m ∈ ms, m.Valid) ∧ ms.IsChain Mark.Follows

def placedLines (first : Nat) (lines : List (List Mark)) : List Placed :=
  (lines.zipIdx first).flatMap fun (ms, line) ↦ ms.map (Mark.place line)

def IsEnding (ending : List Char) : Prop := ending = [] ∨ ending = ['\n']

theorem IsEnding.scans (h : IsEnding ending) (line : Nat) : Scans line ending [] := by
  rcases h with rfl | rfl
  · exact scans_nil
  · exact scans_nil.lineFeed

theorem not_mem_strangers_of_spelled (h : List.Forall₂ Spelled lines texts)
    (hl : ∀ ms ∈ lines, IsLine ms) (he : IsEnding ending) :
    ∀ c ∈ Text.joinLines texts ++ ending, c ∉ strangers := by
  have hending : ∀ c ∈ ending, c ∉ strangers := by
    rcases he with rfl | rfl <;> simp [strangers]
  induction h with
  | nil => simpa [Text.joinLines] using hending
  | @cons ms text lines texts h hs ih =>
    obtain ⟨hms, hlines⟩ := List.forall_mem_cons.mp hl
    have htext := h.not_mem_strangers hms.1
    cases texts with
    | nil =>
      simp only [Text.joinLines, List.intercalate_singleton]
      intro c hc
      exact (List.mem_append.mp hc).elim (htext c) (hending c)
    | cons text' texts =>
      intro c hc
      rw [Text.joinLines, List.intercalate_cons_cons, List.append_assoc, List.append_assoc] at hc
      rcases List.mem_append.mp hc with hc | hc
      · exact htext c hc
      rcases List.mem_append.mp hc with hc | hc
      · obtain rfl := List.mem_singleton.mp hc
        decide
      · exact ih hlines c hc

theorem scans_joinLines {first : Nat} (h : List.Forall₂ Spelled lines texts)
    (hl : ∀ ms ∈ lines, IsLine ms) (he : IsEnding ending) :
    Scans first (Text.joinLines texts ++ ending) (placedLines first lines) := by
  have hending : (∀ c ∈ ending.head?, c = '\n') ∧ '=' ∉ ending := by
    rcases he with rfl | rfl <;> simp
  induction h generalizing first with
  | nil => simpa [Text.joinLines, placedLines] using he.scans first
  | @cons ms text lines texts h hs ih =>
    obtain ⟨hms, hlines⟩ := List.forall_mem_cons.mp hl
    rw [placedLines, List.zipIdx_cons, List.flatMap_cons]
    cases hs with
    | nil =>
      simp only [Text.joinLines, List.intercalate_singleton]
      exact h.scans hms.1 hms.2 hending.1 hending.2 (he.scans first)
    | @cons ms' text' lines texts h' hs' =>
      have hrest : Scans (first + 1) (Text.joinLines (text' :: texts) ++ ending) _ := ih hlines
      have heq : '=' ∉ '\n' :: (Text.joinLines (text' :: texts) ++ ending) := by
        intro hc
        rcases List.mem_cons.mp hc with hc | hc
        · exact absurd hc (by decide)
        · exact not_mem_strangers_of_spelled (.cons h' hs') hlines he '=' hc (by decide)
      rw [Text.joinLines, List.intercalate_cons_cons, List.append_assoc, List.append_assoc]
      exact h.scans hms.1 hms.2 (fun c hc ↦ by simpa using hc.symm) heq hrest.lineFeed

theorem maskTextBlocks_eq (h : '"' ∉ cs) : maskTextBlocks cs = cs := by
  have happend := maskTextBlocks_append h []
  rwa [maskTextBlocks, List.append_nil] at happend

theorem decodeEscapes_eq (h : '\\' ∉ cs) : decodeEscapes cs = .ok (.ofChars cs) := by
  have happend : decodeEscapes (cs ++ []) = _ := decodeEscapes_append h rfl
  rwa [decodeEscapes, decodeEscapes, resolveEscapes, List.append_nil, Except.map,
    List.append_nil] at happend

theorem surrogates_ofChars (cs : List Char) : Text.CodePoints.surrogates (.ofChars cs) = [] := by
  have happend := Text.CodePoints.surrogates_ofChars_append cs []
  rwa [List.append_nil] at happend

theorem tokens_of_scans {source : String} (hs : ∀ c ∈ source.toList, c ∉ strangers)
    (h : Scans 1 source.toList placed) : tokens source = .ok (Token.ofLexemes placed) := by
  have hmask : maskTextBlocks source.toList = source.toList :=
    maskTextBlocks_eq fun hc ↦ hs _ hc (by decide)
  have hescapes : decodeEscapes source.toList = .ok (.ofChars source.toList) :=
    decodeEscapes_eq fun hc ↦ hs _ hc (by decide)
  have hscan := h source.toList
  rw [tokens, hmask, lexemes, hescapes]
  simp only [Text.CodePoints.chars_ofChars, surrogates_ofChars, hscan]
  rfl

end Sources

end Boilerplate.Source
