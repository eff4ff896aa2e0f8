import Boilerplate.Method.Equality
import Boilerplate.Proofs.TypeKind

namespace Boilerplate

namespace Code

def Expr.uses (function : LibraryFunction) : Expr → Bool
  | var _ | this | null | boolean _ | integer _ | verbatim _ | call _ => false
  | member object _ | callOn object _ => object.uses function
  | apply called argument => called == function || argument.uses function
  | applyTwo called first second =>
    called == function || first.uses function || second.uses function
  | construct _ argument | cast _ argument | parenthesized argument => argument.uses function
  | binary _ left right => left.uses function || right.uses function
  | conditional condition ifTrue ifFalse =>
    condition.uses function || ifTrue.uses function || ifFalse.uses function

def Statement.uses (function : LibraryFunction) : Statement → Bool
  | declare _ _ => false
  | define _ _ value | result value => value.uses function
  | assign first second | returnIf first second => first.uses function || second.uses function
  | conjunction terms => terms.any (·.uses function)

variable {immutables : List String} {f : Field}

theorem uses_equalityTerm (kind : TypeKind) (getter : String) (f : Field) :
    (equalityTerm kind getter f).uses .arraysDeepEquals = true ↔
      kind = .array ∧ 1 < f.arrayDepth := by
  cases kind with
  | array =>
    by_cases h : 1 < f.arrayDepth <;> simp [equalityTerm, isNested, Expr.uses, that, h]
  | _ => simp [equalityTerm, Expr.uses, that]

theorem uses_hashSteps (kind : TypeKind) (getter : String) (f : Field) (multiplier : Int) :
    (hashSteps kind getter f (.integer multiplier)).any (·.uses .arraysDeepHashCode) = true ↔
      kind = .array ∧ 1 < f.arrayDepth := by
  cases kind with
  | array =>
    by_cases h : 1 < f.arrayDepth <;>
      simp [hashSteps, accumulate, isNested, Statement.uses, Expr.uses, hashVariable, h]
  | _ =>
    simp [hashSteps, accumulate, Statement.uses, Expr.uses, hashVariable, wideVariable, foldedWide]

theorem ofField_of_nested (h : 1 < f.arrayDepth) : TypeKind.ofField immutables f = .array := by
  rw [TypeKind.ofField_eq_array_iff, Field.isArray, bne_iff_ne]
  omega

theorem uses_equalityTerm_ofField (immutables : List String) (getter : String) (f : Field) :
    (equalityTerm (.ofField immutables f) getter f).uses .arraysDeepEquals = true ↔
      1 < f.arrayDepth := by
  rw [uses_equalityTerm]
  exact ⟨fun h ↦ h.2, fun h ↦ ⟨ofField_of_nested h, h⟩⟩

theorem uses_hashSteps_ofField (immutables : List String) (getter : String) (f : Field)
    (multiplier : Int) : (hashSteps (.ofField immutables f) getter f (.integer multiplier)).any
      (·.uses .arraysDeepHashCode) = true ↔ 1 < f.arrayDepth := by
  rw [uses_hashSteps]
  exact ⟨fun h ↦ h.2, fun h ↦ ⟨ofField_of_nested h, h⟩⟩

end Code

namespace Method

open Code

theorem uses_equalsBody (immutables : List String) (className : String) (ps : List Property) :
    (equalsBody immutables className ps).any (·.uses .arraysDeepEquals) = true ↔
      ∃ p ∈ ps, 1 < p.field.arrayDepth := by
  have hterms : (equalityTerms immutables ps).any (·.uses .arraysDeepEquals) = true ↔
      ∃ p ∈ ps, 1 < p.field.arrayDepth := by
    simp only [equalityTerms, List.any_map, List.any_eq_true, Function.comp_apply,
      uses_equalityTerm_ofField]
  rw [equalsBody, List.any_append, List.any_append, ← hterms]
  cases ps.isEmpty <;> simp [Statement.uses, Expr.uses]

theorem uses_hashBody (immutables : List String) (multiplier : Int) (ps : List Property) :
    (hashBody immutables (.integer multiplier) ps).any (·.uses .arraysDeepHashCode) = true ↔
      ∃ p ∈ ps, 1 < p.field.arrayDepth := by
  have hsteps : (ps.flatMap fun p ↦ hashSteps (.ofField immutables p.field) p.names.getter p.field
      (.integer multiplier)).any (·.uses .arraysDeepHashCode) = true ↔
        ∃ p ∈ ps, 1 < p.field.arrayDepth := by
    rw [List.any_flatMap, List.any_eq_true]
    simp only [uses_hashSteps_ofField]
  rw [hashBody, List.any_append, List.any_append, ← hsteps]
  split <;> simp [Statement.uses, Expr.uses, hashVariable]

end Method

end Boilerplate
