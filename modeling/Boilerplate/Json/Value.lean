import Boilerplate.Decimal.Shortest
import Boilerplate.Text.Quoted

namespace Boilerplate

open Text (CodePoints)

inductive Json where
  | null
  | bool (value : Bool)
  | integer (value : Int)
  | number (value : Decimal.Binary64)
  | string (value : CodePoints)
  | array (items : List Json)
  | object (members : List (CodePoints × Json))

namespace Json

/-- The members of an object by name; a later value takes the place of an earlier one. -/
def setMember (name : CodePoints) (value : Json) :
    List (CodePoints × Json) → List (CodePoints × Json)
  | [] => [(name, value)]
  | (other, old) :: rest =>
    if other = name then (name, value) :: rest else (other, old) :: setMember name value rest

def member? (name : CodePoints) (members : List (CodePoints × Json)) : Option Json :=
  (members.find? (·.1 = name)).map (·.2)

/-- Members laid over others: values replace values, new names go to the end. -/
def overlay (below above : List (CodePoints × Json)) : List (CodePoints × Json) :=
  above.foldl (fun members (name, value) ↦ setMember name value members) below

def isTruthy : Json → Bool
  | null => false
  | bool value => value
  | integer value => value != 0
  | number value => !value.isZero
  | string value => !value.isEmpty
  | array items => !items.isEmpty
  | object members => !members.isEmpty

def string? : Json → Option CodePoints
  | string value => some value
  | _ => none

def integer? : Json → Option Int
  | integer value => some value
  | _ => none

theorem member?_setMember (name other : CodePoints) (value : Json)
    (members : List (CodePoints × Json)) :
    member? other (setMember name value members) =
      if other = name then some value else member? other members := by
  induction members with
  | nil => by_cases h : other = name <;> simp [setMember, member?, h, eq_comm]
  | cons head rest ih =>
    obtain ⟨first, old⟩ := head
    simp only [member?] at ih ⊢
    rw [setMember]
    by_cases hf : first = name
    · by_cases h : other = name
      · simp [hf, h]
      · simp [hf, h, Ne.symm h]
    · by_cases ho : first = other
      · have : ¬ other = name := by rintro rfl; exact hf ho
        simp [ho, this]
      · simp [hf, ho, ih]

end Json

end Boilerplate
