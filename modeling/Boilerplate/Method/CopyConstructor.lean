import Boilerplate.Method.Basic

namespace Boilerplate.Method

open Code

def copyBody (immutables : List String) (fields : List Field) : List Statement :=
  fields.map fun f ↦ copyStatement (.ofField immutables f) f "other"

def copyConstructor (immutables : List String) (comments : Bool) (c : ClassOutline) : Method where
  signature := "public " ++ c.displayName ++ "(" ++ c.displayName ++ " other)"
  body := lines (copyBody immutables c.fields)
  doc := docLines comments
    ["Creates a deep copy of the given " ++ c.displayName ++ ".", "",
      "@param other The " ++ c.displayName ++ " to copy."]
  annotations := []

end Boilerplate.Method
