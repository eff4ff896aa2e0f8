import Boilerplate.Field
import Boilerplate.Text.CodePoint
import Boilerplate.Text.Uppercase

namespace Boilerplate

structure Naming where
  variablePrefix : Text.CodePoints
  booleanPrefix : String
  deriving DecidableEq, Repr

structure Names where
  plain : String
  fragment : String
  getter : String
  setter : String
  deriving DecidableEq, Repr

structure Property where
  field : Field
  names : Names
  deriving DecidableEq

def stripStart (start : Text.CodePoints) (name : String) : String :=
  if start.isPrefixOf (Text.CodePoints.ofString name) then
    String.ofList (name.toList.drop start.length)
  else name

/-- Names such as `isReady`: `is` before a capital letter of ASCII. -/
def readsAsGetter (name : String) : Bool :=
  match name.toList with
  | 'i' :: 's' :: c :: _ => c.isUpper
  | _ => false

namespace Naming

variable (n : Naming) (f : Field)

def default : Naming := ⟨"", "is"⟩

def plainName : String := stripStart n.variablePrefix f.name

/-- The capitalized part of the getter's name; a boolean field `isReady` gives `Ready`. -/
def fragment : String :=
  if f.isBoolean ∧ readsAsGetter (n.plainName f) then
    String.ofList ((n.plainName f).toList.drop 2)
  else Text.capitalizeFirst (n.plainName f)

def getterName : String :=
  if !f.isBoolean then "get" ++ n.fragment f
  else if readsAsGetter f.name then n.plainName f
  else n.booleanPrefix ++ n.fragment f

def setterName : String := "set" ++ Text.capitalizeFirst (n.plainName f)

def names : Names := ⟨n.plainName f, n.fragment f, n.getterName f, n.setterName f⟩

def property : Property := ⟨f, n.names f⟩

end Naming

end Boilerplate
