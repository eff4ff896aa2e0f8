import Boilerplate.Field
import Boilerplate.Identifier

namespace Boilerplate

/-- The kind of a type decides how a field is compared, hashed and copied. -/
inductive TypeKind where
  /-- `int`, `short`, `byte` and `char`. -/
  | integral
  | long
  | float
  | double
  | boolean
  /-- A reference type whose objects never change. -/
  | immutable
  | object
  | array
  deriving DecidableEq, Repr

namespace TypeKind

def primitive? (type : String) : Option TypeKind :=
  if type = "int" ∨ type = "short" ∨ type = "byte" ∨ type = "char" then some integral
  else if type = "long" then some long
  else if type = "float" then some float
  else if type = "double" then some double
  else if type = "boolean" then some boolean
  else none

/-- Types whose values are shared between copies, unless the settings name others. -/
def defaultImmutables : List String :=
  ["String", "java.lang.String", "Integer", "Long", "Short", "Byte", "Character", "Boolean",
    "Float", "Double", "BigDecimal", "BigInteger", "UUID", "LocalDate", "LocalDateTime",
    "LocalTime", "Instant", "Duration"]

/-- The kind of a field. A qualified type without type arguments is immutable if its last part
is. -/
def ofField (immutables : List String) (f : Field) : TypeKind :=
  if f.isArray then array
  else
    match primitive? f.type with
    | some kind => kind
    | none =>
      if f.type ∈ immutables then immutable
      else if '<' ∉ f.type.toList ∧ Identifier.simpleName f.type ∈ immutables then immutable
      else object

def isWide : TypeKind → Bool
  | long => true
  | double => true
  | _ => false

end TypeKind

end Boilerplate
