import Boilerplate.Source.Lexeme.Scan

namespace Boilerplate.Source

open Text (CodePoints lineFeed)

inductive Complaint where
  | codeEscape
  | unclosedComment
  | unclosedLiteral
  | illegalEscape
  | hexFloat
  | unknown

def Complaint.message : Complaint → String
  | codeEscape => "Invalid unicode escape"
  | unclosedComment => "Unterminated block comment"
  | unclosedLiteral => "Unterminated character/string literal"
  | illegalEscape => "Illegal escape character"
  | hexFloat => "Invalid hex float literal"
  | unknown => "Could not process token"

inductive LexError where
  | malformed (complaint : Complaint) (mark : CodePoints) (line : Nat) (text : CodePoints)
  /-- A complaint whose mark would lie behind the end of the text. -/
  | markAtEnd
  /-- Digits are due at the end of the text. -/
  | digitsAtEnd
  | negativeEscape

def LexError.report? : LexError → Option CodePoints
  | malformed complaint mark line text =>
    some (.ofString (complaint.message ++ " at \"") ++ mark ++
      .ofString ("\", line " ++ toString line ++ ": ") ++ text)
  | _ => none

def lexErrorOpening : String := "Cannot tokenize Java source: "

/-- The line around the place between `before` and `rest`, without blanks at its ends. The last
line of a text loses its last code point if no line feed ends it. -/
def lineAround (before rest : CodePoints) : CodePoints :=
  let start := (before.reverse.takeWhile (· != lineFeed)).reverse
  let line :=
    if lineFeed ∈ rest then start ++ rest.takeWhile (· != lineFeed) else (start ++ rest).dropLast
  CodePoints.trim line

/-- The error for a complaint about the last `left` code points of a source, the first of the last
`marked` ones being its mark. -/
def complain (source : CodePoints) (left line : Nat) (complaint : Complaint) (marked : Nat) :
    LexError :=
  let start := source.length - left
  match source[source.length - marked]? with
  | some mark =>
    .malformed complaint [mark] line (lineAround (source.take start) (source.drop start))
  | none => .markAtEnd

def LexError.ofHalt (source : CodePoints) (halt : Halt) : LexError :=
  let complain := complain source halt.rest.length halt.line
  match halt.fault with
  | .unclosedComment => complain .unclosedComment halt.marked.length
  | .unclosedLiteral => complain .unclosedLiteral halt.marked.length
  | .illegalEscape rest => complain .illegalEscape rest.length
  | .hexFloat rest => complain .hexFloat rest.length
  | .unknown => complain .unknown halt.rest.length
  | .digitsAtEnd => .digitsAtEnd

def LexError.ofEscapeFault (source : List Char) : EscapeFault → LexError
  | .noNumber digits =>
    .malformed .codeEscape (.ofChars digits) 1 (lineAround [] (.ofChars source))
  | .negative => .negativeEscape

def lexemes (source : List Char) : Except LexError (List Placed) :=
  match decodeEscapes source with
  | .error fault => .error (.ofEscapeFault source fault)
  | .ok points =>
    (scan points.surrogates points.chars 1 points.chars).mapError (.ofHalt points)

end Boilerplate.Source
