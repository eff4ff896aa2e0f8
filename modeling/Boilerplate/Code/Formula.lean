import Boilerplate.Code.Statement
import Boilerplate.TypeKind

namespace Boilerplate.Code

open Boilerplate.Code.Expr

def that : Expr := var "that"

def isNested (f : Field) : Bool := 1 < f.arrayDepth

def equalityTerm (kind : TypeKind) (getter : String) (f : Field) : Expr :=
  match kind with
  | .integral | .long | .boolean => binary .equal (call getter) (callOn that getter)
  | .float => binary .equal (applyTwo .floatCompare (callOn that getter) (call getter)) (integer 0)
  | .double =>
    binary .equal (applyTwo .doubleCompare (callOn that getter) (call getter)) (integer 0)
  | .immutable | .object => applyTwo .objectsEquals (call getter) (callOn that getter)
  | .array =>
    applyTwo (if isNested f then .arraysDeepEquals else .arraysEquals) (call getter)
      (callOn that getter)

def hashVariable : Expr := var "result"

def wideVariable : Expr := var "temp"

def accumulate (multiplier value : Expr) : Statement :=
  .assign hashVariable (binary .plus (binary .times multiplier hashVariable) value)

def foldedWide : Expr :=
  cast "int" (parenthesized
    (binary .xor wideVariable (parenthesized (binary .shiftRight wideVariable (integer 32)))))

/-- The statements that take one field into the hash code; the last one is the accumulation. -/
def hashSteps (kind : TypeKind) (getter : String) (f : Field) (multiplier : Expr) :
    List Statement :=
  match kind with
  | .integral => [accumulate multiplier (cast "int" (call getter))]
  | .boolean =>
    [accumulate multiplier (parenthesized (conditional (call getter) (integer 1) (integer 0)))]
  | .long => [.assign wideVariable (call getter), accumulate multiplier foldedWide]
  | .float => [accumulate multiplier (apply .floatBits (call getter))]
  | .double =>
    [.assign wideVariable (apply .doubleBits (call getter)), accumulate multiplier foldedWide]
  | .array =>
    [accumulate multiplier
      (apply (if isNested f then .arraysDeepHashCode else .arraysHashCode) (call getter))]
  | .immutable | .object =>
    [accumulate multiplier (parenthesized (conditional (binary .equal (call getter) null)
      (integer 0) (callOn (call getter) "hashCode")))]

/-- Copies one field of `source` to this object. Arrays and mutable objects are copied unless
they are null; all else is shared. -/
def copyStatement (kind : TypeKind) (f : Field) (source : String) : Statement :=
  let value := member (var source) f.name
  let unlessNull (copy : Expr) := conditional (binary .equal value null) null copy
  .assign (member this f.name) <|
    match kind with
    | .array => unlessNull (applyTwo .arraysCopyOf value (member value "length"))
    | .object => unlessNull (construct f.type value)
    | _ => value

end Boilerplate.Code
