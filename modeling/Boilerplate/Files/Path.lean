import Boilerplate.Text.Split

namespace Boilerplate.Files

structure Path where
  anchor : String
  parts : List String
  deriving DecidableEq, Repr

namespace Path

/-- Exactly two slashes at the start are kept, any other number counts as one. -/
def ofString (s : String) : Path where
  anchor :=
    match s.toList with
    | '/' :: '/' :: '/' :: _ => "/"
    | '/' :: '/' :: _ => "//"
    | '/' :: _ => "/"
    | _ => ""
  parts := ((Text.split '/' s.toList).map String.ofList).filter fun name ↦ name ≠ "" ∧ name ≠ "."

def text (p : Path) : String :=
  if p.anchor = "" ∧ p.parts = [] then "." else p.anchor ++ "/".intercalate p.parts

/-- The last name with its point, if characters stand on both sides of the last point of it. -/
def suffix (p : Path) : String :=
  let name := (p.parts.getLast?.getD "").toList
  let ext := (name.reverse.takeWhile (· != '.')).reverse
  if ext ≠ [] ∧ ext.length + 1 < name.length then String.ofList ('.' :: ext) else ""

def hasSuffix (p : Path) (suffix : String) : Bool :=
  p.suffix.toList.map Char.toLower == suffix.toList

end Path

end Boilerplate.Files
