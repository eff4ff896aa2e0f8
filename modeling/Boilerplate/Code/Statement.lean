import Boilerplate.Code.Expr

namespace Boilerplate.Code

inductive Statement where
  | declare (type name : String)
  | define (type name : String) (value : Expr)
  | assign (target value : Expr)
  | returnIf (condition value : Expr)
  | result (value : Expr)
  | conjunction (terms : List Expr)
  deriving DecidableEq, Repr

def continueTerms : List String → List String
  | [] => []
  | [term] => [term ++ ";"]
  | term :: terms => (term ++ " &&") :: continueTerms terms

def termIndent : String := "       "

/-- A return statement over the terms, one a line; without terms it returns true. -/
def joinTerms (terms : List String) : List String :=
  match continueTerms terms with
  | [] => ["return true;"]
  | first :: rest => ("return " ++ first) :: rest.map (termIndent ++ ·)

def Statement.lines : Statement → List String
  | declare type name => [type ++ " " ++ name ++ ";"]
  | define type name value => [type ++ " " ++ name ++ " = " ++ value.text ++ ";"]
  | assign target value => [target.text ++ " = " ++ value.text ++ ";"]
  | returnIf condition value => ["if (" ++ condition.text ++ ") return " ++ value.text ++ ";"]
  | result value => ["return " ++ value.text ++ ";"]
  | conjunction terms => joinTerms (terms.map Expr.text)

def lines (statements : List Statement) : List String := statements.flatMap Statement.lines

end Boilerplate.Code
