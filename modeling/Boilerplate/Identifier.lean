import Boilerplate.Text.Letter

namespace Boilerplate.Identifier

/-- The keywords of Java 7 and the three constants. -/
def reservedWords : List String :=
  ["abstract", "assert", "boolean", "break", "byte", "case", "catch", "char", "class", "const",
    "continue", "default", "do", "double", "else", "enum", "extends", "final", "finally", "float",
    "for", "goto", "if", "implements", "import", "instanceof", "int", "interface", "long",
    "native", "new", "package", "private", "protected", "public", "return", "short", "static",
    "strictfp", "super", "switch", "synchronized", "this", "throw", "throws", "transient", "try",
    "void", "volatile", "while", "true", "false", "null"]

def simpleName (name : String) : String :=
  String.ofList (name.toList.reverse.takeWhile (· != '.')).reverse

inductive Fault where
  | empty
  | reserved (name : String)
  | badStart (name : String)
  deriving DecidableEq, Repr

def Fault.message : Fault → String
  | empty => "Identifier cannot be empty"
  | reserved name => "'" ++ name ++ "' is a Java reserved word"
  | badStart name => "'" ++ name ++ "' does not start with a letter, '_' or '$'"

/-- What is wrong with a name, judged by the words that are taken and by its first character. A
low line alone is taken as well. -/
def faults (name : String) : List Fault :=
  match name.toList with
  | [] => [.empty]
  | c :: _ =>
    (if name ∈ reservedWords ∨ name = "_" then [.reserved name] else []) ++
      (if Text.isLetter c ∨ c = '_' ∨ c = '$' then [] else [.badStart name])

end Boilerplate.Identifier
