import Boilerplate.Source.Token

namespace Boilerplate.Source

def Token.isOpener (t : Token) : Bool :=
  t.isSymbol "(" || t.isSymbol "[" || t.isSymbol "\x7b"

def Token.isCloser (t : Token) : Bool :=
  t.isSymbol ")" || t.isSymbol "]" || t.isSymbol "\x7d"

def byLine (ts : List Token) : List (List Token) := ts.splitBy fun a b ↦ a.line == b.line

/-- The statements of a line, of which `run` is the start of the first one in reverse, read inside
`depth` brackets. An opening brace outside an initializer and a closing bracket without its
partner end a run without a statement. -/
def statementsFrom (run : List Token) (depth : Nat) (initializer : Bool) :
    List Token → List (List Token)
  | [] => []
  | t :: rest =>
    if t.isSymbol ";" ∧ depth = 0 then run.reverse :: statementsFrom [] 0 false rest
    else if t.isSymbol "=" ∧ depth = 0 then statementsFrom (t :: run) depth true rest
    else if t.isSymbol "\x7b" ∧ depth = 0 ∧ !initializer then statementsFrom [] 0 false rest
    else if t.isOpener then statementsFrom (t :: run) (depth + 1) initializer rest
    else if t.isCloser then
      match depth with
      | 0 => statementsFrom [] 0 false rest
      | depth + 1 => statementsFrom (t :: run) depth initializer rest
    else statementsFrom (t :: run) depth initializer rest

def statements (line : List Token) : List (List Token) := statementsFrom [] 0 false line

end Boilerplate.Source
