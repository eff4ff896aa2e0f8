import Boilerplate.Method.Basic

namespace Boilerplate.Method

open Code Code.Expr

def getter (comments : Bool) (p : Property) : Method where
  signature := "public " ++ p.field.type ++ " " ++ p.names.getter ++ "()"
  body := lines [.result (var p.field.name)]
  doc := docLines comments ["@return The " ++ p.names.plain ++ "."]
  annotations := []

def setter (comments : Bool) (p : Property) : Method where
  signature :=
    "public void " ++ p.names.setter ++ "(" ++ p.field.type ++ " " ++ p.names.plain ++ ")"
  body := lines [.assign (member this p.field.name) (var p.names.plain)]
  doc := docLines comments
    ["@param " ++ p.names.plain ++ " The " ++ p.names.plain ++ " to set."]
  annotations := []

end Boilerplate.Method
