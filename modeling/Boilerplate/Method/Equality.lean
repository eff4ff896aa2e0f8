import Boilerplate.Limits
import Boilerplate.Method.Basic

namespace Boilerplate.Method

open Code Code.Expr

def equalityTerms (immutables : List String) (ps : List Property) : List Expr :=
  ps.map fun p ↦ equalityTerm (.ofField immutables p.field) p.names.getter p.field

def equalsBody (immutables : List String) (className : String) (ps : List Property) :
    List Statement :=
  let other := var "o"
  [.returnIf (binary .equal this other) (boolean true),
    .returnIf
      (binary .or (binary .equal other null)
        (binary .notEqual (call "getClass") (callOn other "getClass")))
      (boolean false)] ++
  (if ps.isEmpty then [] else [.define className "that" (cast className other)]) ++
  [.conjunction (equalityTerms immutables ps)]

def equals (immutables : List String) (comments : Bool) (c : ClassOutline)
    (ps : List Property) : Method where
  signature := "public boolean equals(Object o)"
  body := lines (equalsBody immutables c.displayName ps)
  doc := docLines comments
    ["Compares this " ++ c.displayName ++ " with another object field by field."]
  annotations := ["@Override"]

def hashBody (immutables : List String) (multiplier : Expr) (ps : List Property) :
    List Statement :=
  let kind (p : Property) := TypeKind.ofField immutables p.field
  .define "int" "result" (integer 1) ::
  (if ps.any (kind · |>.isWide) then [.declare "long" "temp"] else []) ++
  ps.flatMap (fun p ↦ hashSteps (kind p) p.names.getter p.field multiplier) ++
  [.result hashVariable]

def hashCode (immutables : List String) (multiplier : Expr) (comments : Bool)
    (ps : List Property) : Method where
  signature := "public int hashCode()"
  body := lines (hashBody immutables multiplier ps)
  doc := docLines comments ["Computes a hash code consistent with equals()."]
  annotations := ["@Override"]

/-- The method `hashCode`, unless the multiplier is to be written and has more digits than the most
that there may be. -/
def hashCode? (limits : Limits) (immutables : List String) (multiplier : Int) (comments : Bool)
    (ps : List Property) : Except Nat Method :=
  match if ps.isEmpty then none else limits.exceededBy? multiplier with
  | some most => .error most
  | none => .ok (hashCode immutables (.integer multiplier) comments ps)

section Written

variable {limits : Limits} {immutables : List String} {multiplier : Int} {comments : Bool}
  {ps : List Property}

theorem hashCode?_eq_ok {m : Method}
    (h : hashCode? limits immutables multiplier comments ps = .ok m) :
    m = hashCode immutables (.integer multiplier) comments ps := by
  rw [hashCode?] at h
  split at h
  · cases h
  · exact (Except.ok.inj h).symm

theorem exceededBy?_of_hashCode? {most : Nat}
    (h : hashCode? limits immutables multiplier comments ps = .error most) :
    limits.exceededBy? multiplier = some most := by
  rw [hashCode?] at h
  split at h
  · next hmost =>
    cases h
    split at hmost
    · cases hmost
    · exact hmost
  · cases h

theorem exists_hashCode?_iff : (∃ m, hashCode? limits immutables multiplier comments ps = .ok m) ↔
    ps = [] ∨ limits.exceededBy? multiplier = none := by
  rw [hashCode?]
  cases ps <;> cases limits.exceededBy? multiplier <;> simp

end Written

end Boilerplate.Method
