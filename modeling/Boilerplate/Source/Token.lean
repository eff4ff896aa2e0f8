import Boilerplate.Source.Lexeme.Error
import Boilerplate.Source.TextBlock
import Boilerplate.Text.Quoted

namespace Boilerplate.Source

inductive Token.Kind where
  | word
  | atName
  | string
  | character
  | number
  | symbol
  deriving DecidableEq, Repr

structure Token where
  kind : Token.Kind
  text : String
  line : Nat
  /-- The surrogates in the text, each with the number of characters that follow it. -/
  surrogates : List (Nat × Nat) := []
  deriving DecidableEq, Repr

def Token.isSymbol (t : Token) (text : String) : Bool := t.kind == .symbol && t.text == text

def Token.isWord (t : Token) : Bool := t.kind == .word

def Token.points (t : Token) : Text.CodePoints := .restore t.surrogates t.text.toList

def Token.quoted (t : Token) : String := Text.quotedPoints t.points

def qualifiedName (name : String) : List Placed → String × List Placed
  | dot :: part :: rest =>
    match dot.lexeme, part.lexeme with
    | .separator '.', .identifier next => qualifiedName (name ++ "." ++ next) rest
    | _, _ => (name, dot :: part :: rest)
  | rest => (name, rest)

theorem qualifiedName_length (name : String) (cs : List Placed) :
    (qualifiedName name cs).2.length ≤ cs.length := by
  fun_induction qualifiedName name cs <;> simp_all
  omega

def angleRuns : List String := [">>", ">>>"]

def Token.ofLexeme (line : Nat) : Lexeme → List Token
  | .reserved word => [⟨.word, word, line, []⟩]
  | .identifier name => [⟨.word, name, line, []⟩]
  | .string text surrogates => [⟨.string, text, line, surrogates⟩]
  | .character text => [⟨.character, text, line, []⟩]
  | .number text => [⟨.number, text, line, []⟩]
  | .operator mark =>
    if mark ∈ angleRuns then List.replicate mark.length ⟨.symbol, ">", line, []⟩
    else [⟨.symbol, mark, line, []⟩]
  | .separator mark => [⟨.symbol, String.singleton mark, line, []⟩]
  | .atSign => [⟨.symbol, "@", line, []⟩]

/-- An annotation takes the name behind its sign, or whatever else follows it. -/
def Token.ofLexemes (placed : List Placed) : List Token :=
  match placed with
  | [] => []
  | ⟨.atSign, line⟩ :: ⟨.identifier name, _⟩ :: rest =>
    have := qualifiedName_length name rest
    ⟨.atName, "@" ++ (qualifiedName name rest).1, line, []⟩ ::
      Token.ofLexemes (qualifiedName name rest).2
  | ⟨.atSign, line⟩ :: other :: rest =>
    ⟨.atName, "@" ++ other.lexeme.text, line, other.lexeme.surrogates⟩ :: Token.ofLexemes rest
  | ⟨.identifier name, line⟩ :: rest =>
    have := qualifiedName_length name rest
    ⟨.word, (qualifiedName name rest).1, line, []⟩ :: Token.ofLexemes (qualifiedName name rest).2
  | ⟨lexeme, line⟩ :: rest => Token.ofLexeme line lexeme ++ Token.ofLexemes rest
termination_by placed.length
decreasing_by
  all_goals
    simp only [List.length_cons]
    omega

def tokens (source : String) : Except LexError (List Token) :=
  (lexemes (maskTextBlocks source.toList)).map Token.ofLexemes

end Boilerplate.Source
