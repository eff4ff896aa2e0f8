import Boilerplate.Identifier
import Boilerplate.Method.Basic
import Boilerplate.Settings.Basic

namespace Boilerplate.Validation

/-- A warning for every name that occurs before, `seen` being the names so far. -/
def repeatedNames (seen : List String) : List Field → List String
  | [] => []
  | f :: fs =>
    (if f.name ∈ seen then ["Field " ++ f.name ++ " is declared more than once"] else []) ++
      repeatedNames (f.name :: seen) fs

def lastWithGetter? (earlier : List Property) (getter : String) : Option Property :=
  earlier.find? (·.names.getter == getter)

def setterWarnings (p : Property) : List String :=
  (Identifier.faults p.names.plain).map fun fault ↦
    "Setter parameter for " ++ p.field.name ++ ": " ++ fault.message

def getterWarnings (earlier : List Property) (p : Property) : List String :=
  match lastWithGetter? earlier p.names.getter with
  | some other =>
    ["Fields " ++ other.field.name ++ " and " ++ p.field.name ++ " both resolve to getter " ++
      p.names.getter ++ "()"]
  | none => []

/-- Warnings about the names of fields. A field whose plain name is empty draws one warning and
takes part in no other check. -/
def nameWarnings (s : Settings) (earlier : List Property) : List Property → List String
  | [] => []
  | p :: ps =>
    if p.names.plain = "" then
      ("Field " ++ p.field.name ++ " is empty after removing prefix '" ++
        s.naming.variablePrefix.text ++ "'") :: nameWarnings s earlier ps
    else
      (if s.setters.isTruthy then setterWarnings p else []) ++
        (if s.getters.isTruthy || s.equalsHash.isTruthy then getterWarnings earlier p else []) ++
        nameWarnings s (p :: earlier) ps

def classNameWarnings (className : Option String) : List String :=
  match className.getD "" with
  | "" => []
  | name => (Identifier.faults name).map fun fault ↦ "Class name: " ++ fault.message

def warnings (s : Settings) (c : ClassOutline) (ps : List Property) : List String :=
  (if c.className.getD "" = "" then ["Class name is empty"] else []) ++
    repeatedNames [] c.fields ++ classNameWarnings c.className ++ nameWarnings s [] ps

end Boilerplate.Validation
