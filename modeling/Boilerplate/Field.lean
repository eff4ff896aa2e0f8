import Boilerplate.Text.Blank
import Boilerplate.Text.Quoted

namespace Boilerplate

open Text

structure Field where
  type : String
  name : String
  /-- The line of the declaration; it plays no part in what is generated. -/
  line : Nat
  type_ne_empty : type ≠ ""
  name_ne_empty : name ≠ ""
  not_isBlank_of_mem_name : ∀ c ∈ name.toList, isBlank c = false
  deriving DecidableEq

inductive FieldError where
  | empty
  | blankInName (name : String)

def FieldError.message : FieldError → String
  | empty => "Field type and name must be non-empty"
  | blankInName name => "Field name contains whitespace: " ++ quoted name

namespace Field

def make? (type name : String) (line : Nat) : Except FieldError Field :=
  if h : type ≠ "" ∧ name ≠ "" then
    if hb : name.toList.any isBlank = false then
      .ok ⟨type, name, line, h.1, h.2, by simpa using hb⟩
    else .error (.blankInName name)
  else .error .empty

def bracketPairs : List Char → Nat
  | ']' :: '[' :: rest => bracketPairs rest + 1
  | _ => 0

def arrayDepth (f : Field) : Nat := bracketPairs f.type.toList.reverse

def isArray (f : Field) : Bool := f.arrayDepth != 0

def isBoolean (f : Field) : Bool := f.type == "boolean" || f.type == "Boolean"

theorem make?_eq_ok_iff {type name : String} {line : Nat} {f : Field} :
    make? type name line = .ok f ↔ f.type = type ∧ f.name = name ∧ f.line = line := by
  unfold make?
  constructor
  · intro h
    split at h
    · split at h
      · simp only [Except.ok.injEq] at h
        subst h
        exact ⟨rfl, rfl, rfl⟩
      · simp at h
    · simp at h
  · rintro ⟨rfl, rfl, rfl⟩
    have h : f.name.toList.any isBlank = false := by simpa using f.not_isBlank_of_mem_name
    simp only [f.type_ne_empty, f.name_ne_empty, ne_eq, not_false_eq_true, and_self, h,
      ↓reduceDIte]

end Field

end Boilerplate
