import Boilerplate.Generation.NameCache
import Boilerplate.Generation.Validation
import Boilerplate.Layout
import Boilerplate.Method.Accessor
import Boilerplate.Method.CopyConstructor
import Boilerplate.Method.Equality
import Boilerplate.Text.Tidy

namespace Boilerplate

open Text (CodePoints)

inductive GenerationError where
  | missingTemplate (template : String)
  | layout (error : Layout.TemplateError)
  | longMultiplier (most : Nat)
  deriving DecidableEq, Repr

def GenerationError.message : GenerationError → String
  | missingTemplate template => template ++ " template not found"
  | layout error => error.message
  | longMultiplier most =>
    "Exceeds the limit (" ++ toString most ++ " digits) for integer string conversion; use " ++
      "sys.set_int_max_str_digits() to increase the limit"

structure Metadata where
  className : Option String
  fieldCount : Nat
  deriving DecidableEq, Repr

def Metadata.language : String := "java"

/-- The outcome of a run. A failed one has an error and nothing else. -/
structure Result where
  code : CodePoints
  warnings : List CodePoints
  metadata : Option Metadata
  error : Option GenerationError
  deriving DecidableEq, Repr

namespace Result

def failed (error : GenerationError) : Result := ⟨[], [], none, some error⟩

def success (r : Result) : Bool := r.error.isNone

def errorMessage? (r : Result) : Option String :=
  r.error.map fun e ↦ "Code generation failed: " ++ e.message

end Result

structure Section where
  title : String
  methods : List Method

structure Generator where
  limits : Limits
  settings : Settings
  hasTemplates : Bool
  cache : NameCache

namespace Generator

def ofSettings (limits : Limits) (s : Settings) (hasTemplates : Bool) : Generator :=
  ⟨limits, s, hasTemplates, .empty⟩

def equalitySection (limits : Limits) (s : Settings) (c : ClassOutline) (ps : List Property) :
    Except GenerationError Section :=
  let comments := s.comments.isTruthy
  let hashCode :=
    Method.hashCode? limits s.immutableTypes s.hashMultiplier comments ps
  (hashCode.mapError .longMultiplier).map fun hashCode ↦
    ⟨"Equals and HashCode", [Method.equals s.immutableTypes comments c ps, hashCode]⟩

def sections (limits : Limits) (s : Settings) (c : ClassOutline) (ps : List Property) :
    List (Except GenerationError Section) :=
  let comments := s.comments.isTruthy
  (if s.getters.isTruthy then [.ok ⟨"Getters", ps.map (Method.getter comments)⟩] else []) ++
    (if s.setters.isTruthy then [.ok ⟨"Setters", ps.map (Method.setter comments)⟩] else []) ++
    (if s.copyConstructor.isTruthy then
      [.ok ⟨"Copy Constructor", [Method.copyConstructor s.immutableTypes comments c]⟩]
    else []) ++
    (if s.equalsHash.isTruthy then [equalitySection limits s c ps] else [])

def sectionText (spaces : Int) (part : Section) : String :=
  Layout.sectionText spaces part.title (part.methods.map (Layout.methodText spaces))

def sectionText? (spaces : Int) (part : Section) : Except Layout.TemplateError String := do
  let methods ← part.methods.mapM (Layout.methodText? spaces)
  Layout.sectionText? (some part.title) (some spaces) (some methods)

def partText? (spaces : Int) (part : Except GenerationError Section) :
    Except GenerationError String :=
  part.bind fun part ↦ (sectionText? spaces part).mapError .layout

/-- The texts of sections with an empty line between every two of them. A section is put into text
before the next one is looked at. -/
def sectionsText? (spaces : Int) (parts : List (Except GenerationError Section)) :
    Except GenerationError String :=
  (parts.mapM (partText? spaces)).map ("\n".intercalate ·)

theorem sectionText?_eq_ok {spaces : Int} (h : Text.isCount spaces = true) (part : Section) :
    sectionText? spaces part = .ok (sectionText spaces part) := by
  have methods : part.methods.mapM (Layout.methodText? spaces) =
      .ok (part.methods.map (Layout.methodText spaces)) := by
    induction part.methods with
    | nil => rfl
    | cons m ms ih => simp [Layout.methodText?_eq_ok h, ih, bind, Except.bind, pure, Except.pure]
  simp [sectionText?, sectionText, methods, Layout.sectionText?_eq_ok h, bind, Except.bind]

theorem partText?_eq_ok {spaces : Int} (h : Text.isCount spaces = true) (part : Section) :
    partText? spaces (.ok part) = .ok (sectionText spaces part) := by
  rw [partText?, Except.bind, sectionText?_eq_ok h]
  rfl

theorem sectionsText?_eq_ok {spaces : Int} (h : Text.isCount spaces = true)
    (parts : List Section) :
    sectionsText? spaces (parts.map .ok) =
      .ok ("\n".intercalate (parts.map (sectionText spaces))) := by
  have texts : (parts.map .ok).mapM (partText? spaces) = .ok (parts.map (sectionText spaces)) := by
    induction parts with
    | nil => rfl
    | cons part parts ih =>
      rw [List.map_cons, List.mapM_cons, ih, partText?_eq_ok h]
      rfl
  simp [sectionsText?, texts, Except.map]

def usesNames (s : Settings) : Bool :=
  s.getters.isTruthy || s.setters.isTruthy || s.equalsHash.isTruthy

/-- The text of the enabled sections. A run forgets the names of earlier ones, unless it fails for
want of a layout. -/
def generate (g : Generator) (c : ClassOutline) : Except GenerationError String × Generator :=
  if g.hasTemplates then
    let (ps, cache) :=
      if usesNames g.settings then g.cache.clear.properties g.settings.naming c.fields
      else ([], g.cache.clear)
    (sectionsText? g.settings.indentSize (sections g.limits g.settings c ps), { g with cache })
  else (.error (.missingTemplate Layout.methodTemplate), g)

def validate (g : Generator) (c : ClassOutline) : List String × Generator :=
  let (ps, cache) := g.cache.properties g.settings.naming c.fields
  (Validation.warnings g.settings c ps, { g with cache })

def noOptionsMessage : String :=
  "// No generation options selected. Run with --help to see available options."

def noFieldsMessage : String :=
  "// No non-static, non-final, non-transient private fields found to process."

def noMatchMessage (start : CodePoints) : CodePoints :=
  .ofString "// No fields found with the specified prefix '" ++ start ++ .ofString "'."

/-- The one line that stands for the code if there is nothing to generate. -/
def informational? (s : Settings) (c : ClassOutline) : Option CodePoints :=
  if !s.anyEnabled then some noOptionsMessage
  else if c.fields.isEmpty then
    if s.naming.variablePrefix ≠ [] ∧ c.prefixMismatches ≠ 0 then
      some (noMatchMessage s.naming.variablePrefix)
    else some noFieldsMessage
  else none

def run (g : Generator) (c : ClassOutline) : Result × Generator :=
  let metadata : Metadata := ⟨c.className, c.fields.length⟩
  match informational? g.settings c with
  | some message => (⟨message ++ [Text.lineFeed], [], some metadata, none⟩, g)
  | none =>
    let (warnings, g) := g.validate c
    match g.generate c with
    | (.error e, g) => (.failed e, g)
    | (.ok text, g) => (⟨Text.tidy text, warnings.map .ofString, some metadata, none⟩, g)

def records (g : Generator) (c : ClassOutline) : List Log.Record :=
  match informational? g.settings c with
  | some message =>
    [⟨.info, "barista.codegen.core.generator",
      message.dropWhile fun n ↦ n == '/'.toNat || n == ' '.toNat⟩]
  | none =>
    match (g.generate c).1 with
    | .ok _ =>
      [⟨.debug, "barista.codegen.languages.java.generator",
        "Generated " ++ toString (sections g.limits g.settings c []).length ++
          " section(s) for " ++ c.displayName ++ " (" ++ toString c.fields.length ++
          " field(s))"⟩]
    | .error _ => [⟨.debug, "barista.codegen.core.generator", "Generation failed"⟩]

end Generator

end Boilerplate
