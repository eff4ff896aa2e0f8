import Boilerplate.Naming
import Boilerplate.Code.Formula

namespace Boilerplate

structure Method where
  signature : String
  body : List String
  doc : List String
  annotations : List String
  deriving DecidableEq, Repr

structure ClassOutline where
  className : Option String
  fields : List Field
  /-- The number of fields that were left out for lack of a prefix. -/
  prefixMismatches : Nat
  deriving DecidableEq

def ClassOutline.displayName (c : ClassOutline) : String := c.className.getD "None"

def docLines (comments : Bool) (lines : List String) : List String :=
  if comments then lines else []

end Boilerplate
