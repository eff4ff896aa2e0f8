import Boilerplate.Code.Statement
import Boilerplate.Proofs.Text.Lines

namespace Boilerplate.Code

open Text (IsOneLine IsCodeLine)

def Expr.IsFlat : Expr → Prop
  | var name | verbatim name | call name => IsOneLine name
  | this | null | boolean _ | integer _ => True
  | member object name | callOn object name => object.IsFlat ∧ IsOneLine name
  | apply _ argument | parenthesized argument => argument.IsFlat
  | applyTwo _ first second | binary _ first second => first.IsFlat ∧ second.IsFlat
  | construct type argument | cast type argument => IsOneLine type ∧ argument.IsFlat
  | conditional condition ifTrue ifFalse =>
    condition.IsFlat ∧ ifTrue.IsFlat ∧ ifFalse.IsFlat

def Statement.IsFlat : Statement → Prop
  | declare type name => IsOneLine type ∧ IsOneLine name
  | define type name value => IsOneLine type ∧ IsOneLine name ∧ value.IsFlat
  | assign first second | returnIf first second => first.IsFlat ∧ second.IsFlat
  | result value => value.IsFlat
  | conjunction terms => ∀ term ∈ terms, term.IsFlat

theorem isOneLine_repr (n : Nat) : IsOneLine n.repr := by
  intro h
  have hdigit := Nat.isDigit_of_mem_toDigits (b := 10) (n := n) (by decide) (by decide)
    (by simpa [Nat.repr] using h)
  exact absurd hdigit (by decide)

theorem isOneLine_toString (n : Int) : IsOneLine (toString n) := by
  cases n with
  | ofNat n => exact isOneLine_repr n
  | negSucc n =>
    change IsOneLine ("-" ++ (n + 1).repr)
    simp +decide [isOneLine_repr]

theorem isOneLine_constructorType {type : String} (h : IsOneLine type) :
    IsOneLine (constructorType type) := by
  rw [constructorType]
  split
  · have hstart : IsOneLine (String.ofList (type.toList.takeWhile (· != '<'))) := by
      rw [Text.isOneLine_ofList]
      exact fun hmem ↦ h (List.takeWhile_subset _ hmem)
    simp +decide [hstart]
  · exact h

theorem isOneLine_text_operator (o : Operator) : IsOneLine o.text := by
  cases o <;> decide

theorem isOneLine_text_function (f : LibraryFunction) : IsOneLine f.text := by
  cases f <;> decide

theorem Expr.isOneLine_text (e : Expr) (h : e.IsFlat) : IsOneLine e.text := by
  induction e with
  | var name | verbatim text => exact h
  | this | null => decide
  | boolean value => cases value <;> decide
  | integer value => exact isOneLine_toString value
  | member object name ih => simp +decide [text, ih h.1, h.2]
  | call method =>
    have hmethod : IsOneLine method := h
    simp +decide [text, hmethod]
  | callOn object method ih => simp +decide [text, ih h.1, h.2]
  | apply function argument ih => simp +decide [text, isOneLine_text_function, ih h]
  | applyTwo function first second ih ih' =>
    simp +decide [text, isOneLine_text_function, ih h.1, ih' h.2]
  | construct type argument ih =>
    simp +decide [text, isOneLine_constructorType h.1, ih h.2]
  | cast type value ih => simp +decide [text, h.1, ih h.2]
  | binary operator left right ih ih' =>
    simp +decide [text, isOneLine_text_operator, ih h.1, ih' h.2]
  | conditional condition ifTrue ifFalse ih ih' ih'' =>
    simp +decide [text, ih h.1, ih' h.2.1, ih'' h.2.2]
  | parenthesized inner ih => simp +decide [text, ih h]

theorem isCodeLine_of_mem_continueTerms {terms : List String}
    (h : ∀ term ∈ terms, IsOneLine term) : ∀ line ∈ continueTerms terms, IsCodeLine line := by
  fun_induction continueTerms terms with
  | case1 => simp
  | case2 term =>
    intro line hline
    obtain rfl := List.mem_singleton.mp hline
    simp +decide [h term (.head _)]
  | case3 term terms _ ih =>
    intro line hline
    rcases List.mem_cons.mp hline with rfl | hline
    · simp +decide [h term (.head _)]
    · exact ih (fun term hterm ↦ h term (.tail _ hterm)) line hline

theorem isCodeLine_of_mem_joinTerms {terms : List String} (h : ∀ term ∈ terms, IsOneLine term) :
    ∀ line ∈ joinTerms terms, IsCodeLine line := by
  have hterms := isCodeLine_of_mem_continueTerms h
  intro line hline
  rw [joinTerms] at hline
  split at hline
  · obtain rfl := List.mem_singleton.mp hline
    decide
  · next first rest he =>
    rw [he] at hterms
    rcases List.mem_cons.mp hline with rfl | hline
    · simp +decide [hterms first (.head _)]
    · obtain ⟨term, hterm, rfl⟩ := List.mem_map.mp hline
      simp +decide [hterms term (.tail _ hterm)]

theorem Statement.isCodeLine_of_mem_lines {s : Statement} (h : s.IsFlat) :
    ∀ line ∈ s.lines, IsCodeLine line := by
  intro line hline
  cases s with
  | declare type name =>
    obtain rfl := List.mem_singleton.mp hline
    simp +decide [h.1, h.2]
  | define type name value =>
    obtain rfl := List.mem_singleton.mp hline
    simp +decide [h.1, h.2.1, value.isOneLine_text h.2.2]
  | assign target value =>
    obtain rfl := List.mem_singleton.mp hline
    simp +decide [target.isOneLine_text h.1, value.isOneLine_text h.2]
  | returnIf condition value =>
    obtain rfl := List.mem_singleton.mp hline
    simp +decide [condition.isOneLine_text h.1, value.isOneLine_text h.2]
  | result value =>
    obtain rfl := List.mem_singleton.mp hline
    simp +decide [value.isOneLine_text h]
  | conjunction terms =>
    refine isCodeLine_of_mem_joinTerms (fun text htext ↦ ?_) line hline
    obtain ⟨term, hterm, rfl⟩ := List.mem_map.mp htext
    exact term.isOneLine_text (h term hterm)

theorem isCodeLine_of_mem_lines {statements : List Statement} (h : ∀ s ∈ statements, s.IsFlat) :
    ∀ line ∈ lines statements, IsCodeLine line := by
  intro line hline
  obtain ⟨s, hs, hline⟩ := List.mem_flatMap.mp hline
  exact Statement.isCodeLine_of_mem_lines (h s hs) line hline

end Boilerplate.Code
