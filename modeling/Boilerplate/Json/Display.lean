import Boilerplate.Json.Value
import Boilerplate.Limits

namespace Boilerplate.Json

open Text (CodePoints)

inductive DisplayFault where
  | longInteger (most : Nat)
  | tooDeep
  deriving DecidableEq, Repr

/-- A value takes up one of the places for values that stand one inside the other. -/
def entered (room : Nat) (text : Except DisplayFault String) : Except DisplayFault String :=
  if room = 0 then .error .tooDeep else text

def displayInteger (limits : Limits) (n : Int) : Except DisplayFault String :=
  match limits.exceededBy? n with
  | some most => .error (.longInteger most)
  | none => .ok (toString n)

mutual

/-- How a value is named in a message: texts in quotes, `None`, `True` and `False` for the three
constants, lists in brackets and objects in braces. -/
def displayWithin (limits : Limits) (room : Nat) : Json → Except DisplayFault String
  | null => entered room (.ok "None")
  | bool value => entered room (.ok (if value then "True" else "False"))
  | integer value => entered room (displayInteger limits value)
  | number value => entered room (.ok value.text)
  | string value => entered room (.ok (Text.quotedPoints value))
  | array items =>
    entered room ((displayItems limits (room - 1) items).map fun texts ↦
      "[" ++ ", ".intercalate texts ++ "]")
  | object members =>
    entered room ((displayMembers limits (room - 1) members).map fun texts ↦
      "\x7b" ++ ", ".intercalate texts ++ "\x7d")

def displayItems (limits : Limits) (room : Nat) : List Json → Except DisplayFault (List String)
  | [] => .ok []
  | item :: items => do
    let text ← displayWithin limits room item
    return text :: (← displayItems limits room items)

def displayMembers (limits : Limits) (room : Nat) :
    List (CodePoints × Json) → Except DisplayFault (List String)
  | [] => .ok []
  | (name, value) :: members => do
    let text ← displayWithin limits room value
    return (Text.quotedPoints name ++ ": " ++ text) :: (← displayMembers limits room members)

end

def display (limits : Limits) (value : Json) : Except DisplayFault String :=
  displayWithin limits limits.depth value

end Boilerplate.Json
