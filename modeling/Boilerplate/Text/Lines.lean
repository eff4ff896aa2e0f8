import Boilerplate.Text.Blank
import Boilerplate.Text.Split

namespace Boilerplate.Text

/-- The lines of a text. The line feed alone ends a line, and `joinLines` undoes this. -/
def splitLines (cs : List Char) : List (List Char) := split '\n' cs

def joinLines (lines : List (List Char)) : List Char := List.intercalate ['\n'] lines

theorem joinLines_splitLines (cs : List Char) : joinLines (splitLines cs) = cs :=
  intercalate_split '\n' cs

def isBlankLine (line : List Char) : Bool := line.all isBlank

def prependToLines (start : List Char) (cs : List Char) : List Char :=
  joinLines ((splitLines cs).map fun line ↦ if isBlankLine line then line else start ++ line)

def indent (spaces : Int) (s : String) : String :=
  String.ofList (prependToLines (List.replicate spaces.toNat ' ') s.toList)

/-- Whether a number counts spaces, which are counted in signed words of 64 bits. -/
def isCount (spaces : Int) : Bool := -0x8000000000000000 ≤ spaces && spaces < 0x8000000000000000

theorem isCount_of_nonneg {spaces : Int} (h : 0 ≤ spaces) :
    isCount spaces = true ↔ spaces < 0x8000000000000000 := by
  rw [isCount, Bool.and_eq_true, decide_eq_true_iff, decide_eq_true_iff]
  omega

def lineComment (mark : String) (s : String) : String :=
  String.ofList (prependToLines (mark.toList ++ [' ']) s.toList)

/-- A carriage return, alone or before a line feed, ends a line as a line feed does. -/
def unifyLineEnds : List Char → List Char
  | [] => []
  | '\r' :: '\n' :: rest => '\n' :: unifyLineEnds rest
  | '\r' :: rest => '\n' :: unifyLineEnds rest
  | c :: rest => c :: unifyLineEnds rest

end Boilerplate.Text
