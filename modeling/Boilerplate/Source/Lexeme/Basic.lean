import Boilerplate.Identifier

namespace Boilerplate.Source

inductive Lexeme where
  | atSign
  | identifier (name : String)
  /-- A keyword, or one of the constants `true`, `false` and `null`. -/
  | reserved (word : String)
  /-- A literal, with the surrogates that its text does not show. -/
  | string (text : String) (surrogates : List (Nat × Nat))
  | character (text : String)
  | number (text : String)
  | separator (mark : Char)
  | operator (mark : String)
  deriving DecidableEq, Repr

structure Placed where
  lexeme : Lexeme
  line : Nat
  deriving DecidableEq, Repr

def Lexeme.text : Lexeme → String
  | atSign => "@"
  | identifier name => name
  | reserved word => word
  | string text _ => text
  | character text => text
  | number text => text
  | separator mark => String.singleton mark
  | operator mark => mark

/-- The surrogates in the text, each with the number of characters that follow it. -/
def Lexeme.surrogates : Lexeme → List (Nat × Nat)
  | string _ surrogates => surrogates
  | _ => []

def Lexeme.ofWord (word : String) : Lexeme :=
  if word ∈ Identifier.reservedWords then reserved word else identifier word

def separators : List Char := ['(', ')', '\x7b', '\x7d', '[', ']', ';', ',', '.']

/-- All operators, longer ones first. -/
def operators : List String :=
  [">>>=", ">>=", "<<=", "...", "%=", "^=", "|=", "&=", "/=", "*=", "-=", "+=", "<<", "--", "++",
    "||", "&&", "!=", ">=", "<=", "==", "->", "::", "%", "^", "|", "&", "/", "*", "-", "+", ":",
    "?", "~", "!", "<", ">", "="]

def operatorAt? (cs : List Char) : Option String :=
  operators.find? fun mark ↦ mark.toList.isPrefixOf cs

end Boilerplate.Source
