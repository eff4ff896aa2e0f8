namespace Boilerplate.Code

inductive LibraryFunction where
  | objectsEquals
  | arraysEquals
  | arraysDeepEquals
  | arraysHashCode
  | arraysDeepHashCode
  | arraysCopyOf
  | floatCompare
  | floatBits
  | doubleCompare
  | doubleBits
  deriving DecidableEq, Repr

def LibraryFunction.text : LibraryFunction → String
  | objectsEquals => "java.util.Objects.equals"
  | arraysEquals => "java.util.Arrays.equals"
  | arraysDeepEquals => "java.util.Arrays.deepEquals"
  | arraysHashCode => "java.util.Arrays.hashCode"
  | arraysDeepHashCode => "java.util.Arrays.deepHashCode"
  | arraysCopyOf => "java.util.Arrays.copyOf"
  | floatCompare => "Float.compare"
  | floatBits => "Float.floatToIntBits"
  | doubleCompare => "Double.compare"
  | doubleBits => "Double.doubleToLongBits"

inductive Operator where
  | equal
  | notEqual
  | or
  | plus
  | times
  | xor
  | shiftRight
  deriving DecidableEq, Repr

def Operator.text : Operator → String
  | equal => "=="
  | notEqual => "!="
  | or => "||"
  | plus => "+"
  | times => "*"
  | xor => "^"
  | shiftRight => ">>>"

inductive Expr where
  | var (name : String)
  | this
  | null
  | boolean (value : Bool)
  | integer (value : Int)
  /-- A value in the words in which it was given. -/
  | verbatim (text : String)
  | member (object : Expr) (name : String)
  | call (method : String)
  | callOn (object : Expr) (method : String)
  | apply (function : LibraryFunction) (argument : Expr)
  | applyTwo (function : LibraryFunction) (first second : Expr)
  | construct (type : String) (argument : Expr)
  | cast (type : String) (value : Expr)
  | binary (operator : Operator) (left right : Expr)
  | conditional (condition ifTrue ifFalse : Expr)
  | parenthesized (inner : Expr)
  deriving DecidableEq, Repr

/-- The type in a constructor call: its arguments are left to inference. -/
def constructorType (type : String) : String :=
  if '<' ∈ type.toList then String.ofList (type.toList.takeWhile (· != '<')) ++ "<>" else type

def Expr.text : Expr → String
  | var name => name
  | this => "this"
  | null => "null"
  | boolean value => if value then "true" else "false"
  | integer value => toString value
  | verbatim text => text
  | member object name => object.text ++ "." ++ name
  | call method => method ++ "()"
  | callOn object method => object.text ++ "." ++ method ++ "()"
  | apply function argument => function.text ++ "(" ++ argument.text ++ ")"
  | applyTwo function first second =>
    function.text ++ "(" ++ first.text ++ ", " ++ second.text ++ ")"
  | construct type argument => "new " ++ constructorType type ++ "(" ++ argument.text ++ ")"
  | cast type value => "(" ++ type ++ ") " ++ value.text
  | binary operator left right => left.text ++ " " ++ operator.text ++ " " ++ right.text
  | conditional condition ifTrue ifFalse =>
    condition.text ++ " ? " ++ ifTrue.text ++ " : " ++ ifFalse.text
  | parenthesized inner => "(" ++ inner.text ++ ")"

end Boilerplate.Code
