import Boilerplate.Source.Statement
import Boilerplate.Source.TypeText
import Boilerplate.Text.Uppercase

namespace Boilerplate.Source

def fieldModifiers : List String :=
  ["public", "protected", "private", "static", "final", "transient", "volatile"]

/-- Fields with one of these are left out; the words stand in alphabetical order. -/
def excludedModifiers : List String := ["final", "static", "transient"]

def classKeywords : List String := ["class", "interface", "enum"]

def typeArgumentSymbols : List String := ["<", ">", ",", "?", "[", "]", "&"]

inductive Rejection where
  | missingName
  | unexpectedAfterType (token : Token)
  | unexpectedAfterName (token : Token)
  | severalFields
  | openTypeArguments
  | annotatedTypeArguments
  | unsupportedInType (token : Token)
  deriving DecidableEq

def Rejection.message : Rejection → String
  | missingName => "missing field name"
  | unexpectedAfterType token => "unexpected token " ++ token.quoted ++ " after type"
  | unexpectedAfterName token => "unexpected token " ++ token.quoted ++ " after field name"
  | severalFields => "declares more than one field"
  | openTypeArguments => "unterminated type arguments"
  | annotatedTypeArguments => "annotated type arguments are not supported"
  | unsupportedInType token => "unsupported token " ++ token.quoted ++ " in type"

inductive Verdict where
  | silent
  | excluded (modifiers : List String)
  | rejected (reason : Rejection)
  | declares (type name : String) (line : Nat)
  deriving DecidableEq

/-- What follows a group in parentheses, of which `depth` are open. -/
def afterGroup (depth : Nat) : List Token → List Token
  | [] => []
  | t :: rest =>
    if t.isSymbol "(" then afterGroup (depth + 1) rest
    else if t.isSymbol ")" then if depth ≤ 1 then rest else afterGroup (depth - 1) rest
    else afterGroup depth rest

theorem afterGroup_length (depth : Nat) (ts : List Token) :
    (afterGroup depth ts).length ≤ ts.length := by
  fun_induction afterGroup depth ts <;> simp_all <;> omega

/-- The modifiers at the start of a statement and what follows them. Annotations are passed over
with their arguments. -/
def readModifiers (ts : List Token) : List String × List Token :=
  match ts with
  | [] => ([], [])
  | t :: rest =>
    if t.kind = .atName then
      if rest.head?.any (·.isSymbol "(") then
        have := afterGroup_length 0 rest
        readModifiers (afterGroup 0 rest)
      else readModifiers rest
    else if t.isWord ∧ t.text ∈ fieldModifiers then
      (t.text :: (readModifiers rest).1, (readModifiers rest).2)
    else ([], t :: rest)
termination_by ts.length
decreasing_by
  all_goals
    simp only [List.length_cons] at *
    omega

/-- Type arguments up to the bracket that closes the first of them, with `depth` open, and what
follows. -/
def readTypeArguments (depth : Nat) : List Token → Except Rejection (List Token × List Token)
  | [] => .error .openTypeArguments
  | t :: rest =>
    if t.kind = .atName then .error .annotatedTypeArguments
    else if t.isWord = false ∧ t.text ∉ typeArgumentSymbols then
      .error (.unsupportedInType t)
    else if t.isSymbol "<" then
      (readTypeArguments (depth + 1) rest).map fun (read, after) ↦ (t :: read, after)
    else if t.isSymbol ">" ∧ depth ≤ 1 then .ok ([t], rest)
    else if t.isSymbol ">" then
      (readTypeArguments (depth - 1) rest).map fun (read, after) ↦ (t :: read, after)
    else (readTypeArguments depth rest).map fun (read, after) ↦ (t :: read, after)

def readDimensions : List Token → List Token × List Token
  | a :: b :: rest =>
    if a.isSymbol "[" ∧ b.isSymbol "]" then
      (a :: b :: (readDimensions rest).1, (readDimensions rest).2)
    else ([], a :: b :: rest)
  | ts => ([], ts)

def readType (start : Token) (ts : List Token) : Except Rejection (List Token × List Token) :=
  match ts with
  | [] => .ok ([start], [])
  | t :: _ =>
    if t.isSymbol "<" then
      (readTypeArguments 0 ts).map fun (arguments, after) ↦
        (start :: arguments ++ (readDimensions after).1, (readDimensions after).2)
    else .ok (start :: (readDimensions ts).1, (readDimensions ts).2)

/-- Whether an opening angle bracket in an initializer starts type arguments: it does behind a
capitalized name and behind a point. -/
def opensTypeArguments : Option Token → Bool
  | none => false
  | some before =>
    before.isSymbol "." ||
      (before.isWord && (Identifier.simpleName before.text).toList.head?.any Text.isUppercase)

/-- Whether an initializer goes on to a second declarator: a comma outside all brackets and all
type arguments. -/
def hasSecondDeclarator (depth : Int) (angles : Nat) (before : Option Token) :
    List Token → Bool
  | [] => false
  | t :: rest =>
    if t.isOpener then hasSecondDeclarator (depth + 1) angles (some t) rest
    else if t.isCloser then hasSecondDeclarator (depth - 1) angles (some t) rest
    else if t.isSymbol "<" ∧ opensTypeArguments before then
      hasSecondDeclarator depth (angles + 1) (some t) rest
    else if t.isSymbol ">" ∧ angles ≠ 0 then
      hasSecondDeclarator depth (angles - 1) (some t) rest
    else if t.isSymbol "," ∧ depth = 0 ∧ angles = 0 then true
    else hasSecondDeclarator depth angles (some t) rest

def tailFault? : List Token → Option Rejection
  | [] => none
  | t :: rest =>
    if t.isSymbol "," then some .severalFields
    else if t.isSymbol "=" then
      if hasSecondDeclarator 0 0 none rest then some .severalFields else none
    else some (.unexpectedAfterName t)

def readDeclarator (type : List Token) : List Token → Verdict
  | [] => .rejected .missingName
  | name :: rest =>
    if name.isSymbol "(" then .silent
    else if name.isWord = false ∨ '.' ∈ name.text.toList then
      .rejected (.unexpectedAfterType name)
    else if rest.head?.any (·.isSymbol "(") then .silent
    else
      match tailFault? (readDimensions rest).2 with
      | some reason => .rejected reason
      | none => .declares (typeText (type ++ (readDimensions rest).1)) name.text name.line

def readTyped : List Token → Verdict
  | [] => .silent
  | start :: rest =>
    if start.isWord = false ∨ start.text ∈ classKeywords then .silent
    else
      match readType start rest with
      | .error reason => .rejected reason
      | .ok (type, after) => readDeclarator type after

def readDeclaration (statement : List Token) : Verdict :=
  let (modifiers, rest) := readModifiers statement
  if "private" ∉ modifiers then .silent
  else
    match excludedModifiers.filter (· ∈ modifiers) with
    | [] => readTyped rest
    | excluded => .excluded excluded

end Boilerplate.Source
