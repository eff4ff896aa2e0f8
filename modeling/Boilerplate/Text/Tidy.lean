import Boilerplate.Text.Lines

namespace Boilerplate.Text

def maxBlankLines : Nat := 2

/-- Leaves out the blank lines that follow two others; `run` blank lines stand before the text. -/
def limitBlankLines (run : Nat) : List (List Char) → List (List Char)
  | [] => []
  | line :: lines =>
    if line.isEmpty then
      if run < maxBlankLines then line :: limitBlankLines (run + 1) lines
      else limitBlankLines run lines
    else line :: limitBlankLines 0 lines

def trimFeeds (cs : List Char) : List Char :=
  ((cs.dropWhile (· == '\n')).reverse.dropWhile (· == '\n')).reverse

def tidy (code : String) : String :=
  String.ofList
    (trimFeeds (joinLines (limitBlankLines 0 ((splitLines code.toList).map trimEnd))) ++ ['\n'])

end Boilerplate.Text
