import Boilerplate.Method.Basic
import Boilerplate.Text.Lines

namespace Boilerplate

namespace Layout

def methodTemplate : String := "method.java.j2"

def sectionTemplate : String := "section.java.j2"

inductive TemplateError where
  | missing (template : String)
  | undefined (template key : String)
  | indent (template : String)
  deriving DecidableEq, Repr

def TemplateError.message : TemplateError → String
  | missing template => "Failed to render template " ++ template ++ ": " ++ template
  | undefined template key =>
    "Failed to render template " ++ template ++ ": '" ++ key ++ "' is undefined"
  | indent template =>
    "Failed to render template " ++ template ++ ": cannot fit 'int' into an index-sized integer"

def docLine (line : String) : String := " *" ++ (if line = "" then "" else " " ++ line) ++ "\n"

def docText (doc : List String) : String :=
  if doc.isEmpty then "" else "/**\n" ++ String.join (doc.map docLine) ++ " */\n"

/-- A method without outer indentation; no line feed follows its closing brace. -/
def methodText (spaces : Int) (m : Method) : String :=
  docText m.doc ++ String.join (m.annotations.map (· ++ "\n")) ++ m.signature ++ " \x7b\n" ++
    String.join (m.body.map fun line ↦ Text.indent spaces line ++ "\n") ++ "\x7d"

/-- The text of a method. The indentation matters only where there is a body. -/
def methodText? (spaces : Int) (m : Method) : Except TemplateError String :=
  if Text.isCount spaces || m.body.isEmpty then .ok (methodText spaces m)
  else .error (.indent methodTemplate)

theorem methodText?_eq_ok {spaces : Int} (h : Text.isCount spaces = true) (m : Method) :
    methodText? spaces m = .ok (methodText spaces m) := by
  simp [methodText?, h]

def sectionTitle (spaces : Int) (title : String) : String :=
  Text.indent spaces (Text.lineComment "//" ("--- " ++ title ++ " ---")) ++ "\n"

def sectionText (spaces : Int) (title : String) (methods : List String) : String :=
  sectionTitle spaces title ++
    String.join (methods.map fun text ↦ "\n" ++ Text.indent spaces text ++ "\n")

/-- The text of a section whose parts may be missing; the first missing one is reported. The title
is indented before the methods are looked at. -/
def sectionText? (title : Option String) (spaces : Option Int) (methods : Option (List String)) :
    Except TemplateError String :=
  match title, spaces, methods with
  | none, _, _ => .error (.undefined sectionTemplate "title")
  | some _, none, _ => .error (.undefined sectionTemplate "indent_size")
  | some title, some spaces, methods =>
    if Text.isCount spaces then
      match methods with
      | none => .error (.undefined sectionTemplate "methods")
      | some methods => .ok (sectionText spaces title methods)
    else .error (.indent sectionTemplate)

theorem sectionText?_eq_ok {spaces : Int} (h : Text.isCount spaces = true) (title : String)
    (methods : List String) :
    sectionText? (some title) (some spaces) (some methods) =
      .ok (sectionText spaces title methods) := by
  simp [sectionText?, h]

end Layout

end Boilerplate
