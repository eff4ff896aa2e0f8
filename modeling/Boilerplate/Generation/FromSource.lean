import Boilerplate.Generation.Generator
import Boilerplate.Source.Extraction

namespace Boilerplate

inductive SourceError where
  | extraction (error : Source.ExtractionError)
  | noClassName

def noClassNameMessage : String := "Could not determine class name from source"

def ClassOutline.ofExtraction (className : String) (x : Source.Extraction) : ClassOutline :=
  ⟨some className, x.fields, x.prefixMismatches⟩

def runOn (limits : Limits) (s : Settings) (className : String) (x : Source.Extraction) : Result :=
  ((Generator.ofSettings limits s true).run (.ofExtraction className x)).1

def resultOf (limits : Limits) (s : Settings) (className : String) (x : Source.Extraction) :
    Result :=
  let result := runOn limits s className x
  { result with warnings := x.warnings ++ result.warnings }

/-- The code for the class in `source`. Without a name, the first type of the source gives it. -/
def generateFrom (limits : Limits) (source : String) (className : Option String) (s : Settings) :
    Except SourceError Result := do
  let className ←
    match className with
    | some name => pure name
    | none =>
      match Source.className? source with
      | .error e => throw (.extraction (.lexical e))
      | .ok none => throw .noClassName
      | .ok (some name) => pure name
  match Source.extract source s.naming.variablePrefix with
  | .error e => throw (.extraction e)
  | .ok x => pure (resultOf limits s className x)

end Boilerplate
