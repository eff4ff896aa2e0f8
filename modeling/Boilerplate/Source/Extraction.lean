import Boilerplate.Field
import Boilerplate.Log
import Boilerplate.Source.Declaration

namespace Boilerplate.Source

open Text (CodePoints)

inductive Finding where
  | none
  | excluded (modifiers : List String) (line : Nat)
  /-- A field that is declared in a way that is not read. -/
  | rejected (statement : List Token) (reason : Rejection)
  /-- A field whose name lacks the prefix that was asked for. -/
  | mismatch (field : Field)
  | field (field : Field)

structure Extraction where
  findings : List Finding

inductive ExtractionError where
  | lexical (error : LexError)
  | field (error : FieldError)

def statementLine (statement : List Token) : Nat := (statement.head?.map (·.line)).getD 0

def warningText (statement : List Token) (reason : Rejection) : CodePoints :=
  .ofString ("line " ++ toString (statementLine statement) ++ ": skipped '") ++
    List.intercalate (CodePoints.ofString " ") (statement.map (·.points)) ++
    .ofString (";' (" ++ reason.message ++ ")")

namespace Extraction

def fields (x : Extraction) : List Field :=
  x.findings.filterMap fun
    | .field f => some f
    | _ => none

def rejections (x : Extraction) : List (List Token × Rejection) :=
  x.findings.filterMap fun
    | .rejected statement reason => some (statement, reason)
    | _ => none

def warnings (x : Extraction) : List CodePoints :=
  x.rejections.map fun (statement, reason) ↦ warningText statement reason

def prefixMismatches (x : Extraction) : Nat :=
  x.findings.countP fun
    | .mismatch _ => true
    | _ => false

end Extraction

def hasPrefix (start : CodePoints) (name : String) : Bool :=
  start.isPrefixOf (CodePoints.ofString name)

/-- What a statement contributes if only fields that start with `start` are wanted. -/
def findingOf (start : CodePoints) (statement : List Token) : Except FieldError Finding :=
  match readDeclaration statement with
  | .silent => .ok .none
  | .excluded modifiers => .ok (.excluded modifiers (statementLine statement))
  | .rejected reason => .ok (.rejected statement reason)
  | .declares type name line =>
    (Field.make? type name line).map fun f ↦
      if hasPrefix start name then .field f else .mismatch f

def allStatements (ts : List Token) : List (List Token) :=
  ((byLine ts).flatMap statements).filter (!·.isEmpty)

def extract (source : String) (start : CodePoints) : Except ExtractionError Extraction :=
  match tokens source with
  | .error e => .error (.lexical e)
  | .ok ts =>
    match (allStatements ts).mapM (findingOf start) with
    | .error e => .error (.field e)
    | .ok findings => .ok ⟨findings⟩

def classNameIn : List Token → Option String
  | a :: b :: rest =>
    if a.isWord ∧ a.text ∈ classKeywords ∧ b.isWord then some b.text
    else classNameIn (b :: rest)
  | _ => none

def className? (source : String) : Except LexError (Option String) :=
  (tokens source).map classNameIn

section Records

def extractionRecord (message : CodePoints) : Log.Record :=
  ⟨.debug, "barista.codegen.core.extractor", message⟩

def Finding.record? (start : CodePoints) : Finding → Option Log.Record
  | none => .none
  | excluded modifiers line =>
    some (extractionRecord ("Excluding " ++ "/".intercalate modifiers ++ " field on line " ++
      toString line))
  | rejected statement reason => some (extractionRecord (warningText statement reason))
  | mismatch f =>
    some (extractionRecord ("Field " ++ f.name ++ " does not match prefix " ++
      Text.quotedPoints start))
  | field _ => .none

def Extraction.records (start : CodePoints) (x : Extraction) : List Log.Record :=
  x.findings.filterMap (·.record? start) ++
    [extractionRecord ("Extracted " ++ toString x.fields.length ++ " field(s), " ++
      toString x.warnings.length ++ " warning(s)")]

end Records

end Boilerplate.Source
