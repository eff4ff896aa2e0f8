import Boilerplate.Text.CodePoint
import Boilerplate.Text.Printable

namespace Boilerplate.Text

def hexDigits (width n : Nat) : List Char :=
  let digits := Nat.toDigits 16 n
  List.replicate (width - digits.length) '0' ++ digits

def escapeUnit (unit : Nat) : List Char := '\\' :: 'u' :: hexDigits 4 unit

def escapeLetter? : Char → Option Char
  | '\n' => some 'n'
  | '\r' => some 'r'
  | '\t' => some 't'
  | _ => none

def quoteChar (quote c : Char) : List Char :=
  if c = quote ∨ c = '\\' then ['\\', c]
  else
    match escapeLetter? c with
    | some letter => ['\\', letter]
    | none =>
      if isPrintable c then [c]
      else if c.toNat < 0x100 then '\\' :: 'x' :: hexDigits 2 c.toNat
      else if c.toNat < 0x10000 then escapeUnit c.toNat
      else '\\' :: 'U' :: hexDigits 8 c.toNat

/-- The quotes that need the fewest escapes, single ones where both serve. -/
def quoteFor (cs : List Char) : Char :=
  if '\'' ∈ cs ∧ '"' ∉ cs then '"' else '\''

def quoted (s : String) : String :=
  let quote := quoteFor s.toList
  String.ofList (quote :: s.toList.flatMap (quoteChar quote) ++ [quote])

def quotePoint (quote : Char) (n : Nat) : List Char :=
  if isSurrogate n then escapeUnit n else quoteChar quote (Char.ofNat n)

def quotedPoints (ps : CodePoints) : String :=
  let quote := quoteFor ps.chars
  String.ofList (quote :: ps.flatMap (quotePoint quote) ++ [quote])

theorem quotedPoints_ofString (s : String) : quotedPoints (.ofString s) = quoted s := by
  have h (quote : Char) (cs : List Char) :
      (CodePoints.ofChars cs).flatMap (quotePoint quote) = cs.flatMap (quoteChar quote) := by
    induction cs with
    | nil => rfl
    | cons c rest ih =>
      simp only [CodePoints.ofChars] at ih
      simp [CodePoints.ofChars, quotePoint, CodePoints.isSurrogate_toNat, ih]
  simp [quotedPoints, quoted, CodePoints.ofString, CodePoints.chars_ofChars, h]

end Boilerplate.Text
