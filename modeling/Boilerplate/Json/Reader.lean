import Boilerplate.Json.Value
import Boilerplate.Text.Numeral

namespace Boilerplate.Json

open Text (CodePoints)

inductive Fault where
  | expectedValue
  | expectedName
  | expectedColon
  | expectedComma
  | extraData
  | unterminatedString
  | controlCharacter
  | invalidEscape
  | invalidCodeEscape
  | byteOrderMark

def Fault.message : Fault → String
  | expectedValue => "Expecting value"
  | expectedName => "Expecting property name enclosed in double quotes"
  | expectedColon => "Expecting ':' delimiter"
  | expectedComma => "Expecting ',' delimiter"
  | extraData => "Extra data"
  | unterminatedString => "Unterminated string starting at"
  | controlCharacter => "Invalid control character at"
  | invalidEscape => "Invalid \\escape"
  | invalidCodeEscape => "Invalid \\uXXXX escape"
  | byteOrderMark => "Unexpected UTF-8 BOM (decode using utf-8-sig)"

inductive Failure where
  /-- A fault that was found with `left` characters still to come. -/
  | malformed (fault : Fault) (left : Nat)
  | longInteger
  | tooDeep

/-- What was read from `cs`, and a rest that is shorter. -/
abbrev Reading (α : Type) (cs : List Char) :=
  Except Failure { p : α × List Char // p.2.length < cs.length }

def fail {α : Type} (fault : Fault) (rest : List Char) : Except Failure α :=
  .error (.malformed fault rest.length)

def isSpace (c : Char) : Bool := c == ' ' || c == '\t' || c == '\n' || c == '\r'

def skipSpaces (cs : List Char) : List Char := cs.dropWhile isSpace

theorem skipSpaces_length (cs : List Char) : (skipSpaces cs).length ≤ cs.length :=
  (List.dropWhile_sublist isSpace).length_le

theorem length_le_of_skipSpaces {cs rest : List Char} (h : skipSpaces cs = rest) :
    rest.length ≤ cs.length := h ▸ skipSpaces_length cs

def hexDigit? (c : Char) : Option Nat :=
  if c.toNat < 0x80 then Text.digitIn? 16 c else none

def codeUnit? : List Char → Option (Nat × List Char)
  | a :: b :: c :: d :: rest => do
    let a ← hexDigit? a
    let b ← hexDigit? b
    let c ← hexDigit? c
    let d ← hexDigit? d
    some (((a * 16 + b) * 16 + c) * 16 + d, rest)
  | _ => none

theorem codeUnit?_length {cs rest : List Char} {unit : Nat}
    (h : codeUnit? cs = some (unit, rest)) : rest.length < cs.length := by
  unfold codeUnit? at h
  split at h
  · simp only [Option.bind_eq_bind, Option.bind_eq_some_iff, Option.some.injEq,
      Prod.mk.injEq] at h
    obtain ⟨_, _, _, _, _, _, _, _, _, rfl⟩ := h
    simp only [List.length_cons]
    omega
  · simp at h

/-- The second half of a pair of surrogates, if an escape and one more character follow. A
malformed second escape is a fault of its own. -/
def lowSurrogate? (cs : List Char) :
    Except Failure (Option (Nat × { r : List Char // r.length ≤ cs.length })) :=
  match cs with
  | '\\' :: 'u' :: rest =>
    if (rest.drop 4).isEmpty then .ok none
    else
      match h : codeUnit? rest with
      | none => fail .invalidCodeEscape ('u' :: rest)
      | some (unit, after) =>
        if 0xDC00 ≤ unit ∧ unit ≤ 0xDFFF then
          .ok (some (unit, ⟨after, by
            have := codeUnit?_length h
            simp only [List.length_cons]
            omega⟩))
        else .ok none
  | _ => .ok none

/-- Reads the characters of a string up to its closing quote; `whole` is the text from the opening
quote on, and `read` holds what was read so far, the last character first. -/
def readString (whole : List Char) (read : CodePoints) (cs : List Char) : Reading CodePoints cs :=
  match cs with
  | [] => fail .unterminatedString whole
  | '"' :: rest => .ok ⟨(read.reverse, rest), by simp⟩
  | '\\' :: [] => fail .unterminatedString whole
  | '\\' :: 'u' :: rest =>
    if (rest.drop 4).isEmpty then fail .invalidCodeEscape ('u' :: rest)
    else
      match h : codeUnit? rest with
      | none => fail .invalidCodeEscape ('u' :: rest)
      | some (unit, after) =>
        have short := codeUnit?_length h
        if 0xD800 ≤ unit ∧ unit ≤ 0xDBFF then
          match lowSurrogate? after with
          | .error e => .error e
          | .ok (some (low, ⟨after', le⟩)) =>
            (readString whole (Text.pairPoint unit low :: read) after').map
              fun ⟨p, lt⟩ ↦ ⟨p, by simp only [List.length_cons]; omega⟩
          | .ok none =>
            (readString whole (unit :: read) after).map
              fun ⟨p, lt⟩ ↦ ⟨p, by simp only [List.length_cons]; omega⟩
        else
          (readString whole (unit :: read) after).map
            fun ⟨p, lt⟩ ↦ ⟨p, by simp only [List.length_cons]; omega⟩
  | '\\' :: c :: rest =>
    let next (meaning : Char) :=
      (readString whole (meaning.toNat :: read) rest).map
        fun ⟨p, lt⟩ ↦ ⟨p, by simp only [List.length_cons]; omega⟩
    if c = '"' ∨ c = '\\' ∨ c = '/' then next c
    else if c = 'b' then next '\x08'
    else if c = 'f' then next '\x0c'
    else if c = 'n' then next '\n'
    else if c = 'r' then next '\r'
    else if c = 't' then next '\t'
    else fail .invalidEscape ('\\' :: c :: rest)
  | c :: rest =>
    if c.toNat < 0x20 then fail .controlCharacter (c :: rest)
    else
      (readString whole (c.toNat :: read) rest).map
        fun ⟨p, lt⟩ ↦ ⟨p, by simp only [List.length_cons]; omega⟩
termination_by cs.length
decreasing_by all_goals simp only [List.length_cons]; omega

def digitsValue (cs : List Char) : Nat :=
  cs.foldl (fun n c ↦ n * 10 + (c.toNat - '0'.toNat)) 0

def fraction : List Char → List Char × List Char
  | '.' :: c :: rest =>
    if c.isDigit then
      (c :: rest.takeWhile Char.isDigit, rest.dropWhile Char.isDigit)
    else ([], '.' :: c :: rest)
  | cs => ([], cs)

def exponent? (cs : List Char) : Option (Int × List Char) :=
  match cs with
  | e :: rest =>
    if e = 'e' ∨ e = 'E' then
      let (sign, rest) : Int × List Char :=
        match rest with
        | '-' :: rest => (-1, rest)
        | '+' :: rest => (1, rest)
        | rest => (1, rest)
      let digits := rest.takeWhile Char.isDigit
      if digits.isEmpty then none
      else some (sign * (digitsValue digits : Int), rest.dropWhile Char.isDigit)
    else none
  | [] => none

/-- A number without its sign: an integer unless a fraction or an exponent follows. The digits
before the point are one zero, or start with another digit. -/
def readUnsigned (limits : Limits) (negative : Bool) (cs : List Char) :
    Except Failure (Option (Json × List Char)) :=
  let whole :=
    match cs with
    | '0' :: _ => ['0']
    | cs => cs.takeWhile Char.isDigit
  if whole.isEmpty then .ok none
  else
    let (places, afterPoint) := fraction (cs.drop whole.length)
    match places, exponent? afterPoint with
    | [], none =>
      if limits.admitsDigits whole.length then
        let n : Int := digitsValue whole
        .ok (some (.integer (if negative then -n else n), afterPoint))
      else .error .longInteger
    | places, power =>
      let (power, rest) := power.getD (0, afterPoint)
      .ok (some (.number (.ofDecimal negative (digitsValue (whole ++ places))
        (power - places.length)), rest))

def readScalar (limits : Limits) (cs : List Char) : Except Failure (Json × List Char) :=
  match cs with
  | 'n' :: 'u' :: 'l' :: 'l' :: rest => .ok (.null, rest)
  | 't' :: 'r' :: 'u' :: 'e' :: rest => .ok (.bool true, rest)
  | 'f' :: 'a' :: 'l' :: 's' :: 'e' :: rest => .ok (.bool false, rest)
  | 'N' :: 'a' :: 'N' :: rest => .ok (.number .notANumber, rest)
  | 'I' :: 'n' :: 'f' :: 'i' :: 'n' :: 'i' :: 't' :: 'y' :: rest =>
    .ok (.number (.infinite false), rest)
  | '-' :: 'I' :: 'n' :: 'f' :: 'i' :: 'n' :: 'i' :: 't' :: 'y' :: rest =>
    .ok (.number (.infinite true), rest)
  | '-' :: rest =>
    match readUnsigned limits true rest with
    | .error e => .error e
    | .ok none => fail .expectedValue cs
    | .ok (some p) => .ok p
  | cs =>
    match readUnsigned limits false cs with
    | .error e => .error e
    | .ok none => fail .expectedValue cs
    | .ok (some p) => .ok p

/-- Keeps a rest only if it is shorter; a scalar always takes a character. -/
def shortened {α : Type} (cs : List Char) (p : α × List Char) : Reading α cs :=
  if h : p.2.length < cs.length then .ok ⟨p, h⟩ else fail .expectedValue cs

mutual

/-- A value with at most `room` arrays and objects one inside the other. -/
def readValue (limits : Limits) (room : Nat) (cs : List Char) : Reading Json cs :=
  match cs with
  | '"' :: rest =>
    (readString ('"' :: rest) [] rest).map
      fun ⟨(s, after), lt⟩ ↦ ⟨(.string s, after), by simp only [List.length_cons] at lt ⊢; omega⟩
  | '[' :: rest =>
    if room = 0 then .error .tooDeep
    else
      match h : skipSpaces rest with
      | ']' :: after =>
        .ok ⟨(.array [], after), by
          have := length_le_of_skipSpaces h
          simp only [List.length_cons] at this ⊢
          omega⟩
      | first =>
        have := length_le_of_skipSpaces h
        (readItems limits (room - 1) [] first).map
          fun ⟨(items, after), lt⟩ ↦
            ⟨(.array items, after), by simp only [List.length_cons] at lt ⊢; omega⟩
  | '\x7b' :: rest =>
    if room = 0 then .error .tooDeep
    else
      match h : skipSpaces rest with
      | '\x7d' :: after =>
        .ok ⟨(.object [], after), by
          have := length_le_of_skipSpaces h
          simp only [List.length_cons] at this ⊢
          omega⟩
      | first =>
        have := length_le_of_skipSpaces h
        (readMembers limits (room - 1) [] first).map
          fun ⟨(members, after), lt⟩ ↦
            ⟨(.object members, after), by simp only [List.length_cons] at lt ⊢; omega⟩
  | cs => (readScalar limits cs).bind (shortened cs)
termination_by (cs.length, 0)
decreasing_by
  all_goals
    apply Prod.Lex.left
    simp only [List.length_cons]
    omega

def readItems (limits : Limits) (room : Nat) (read : List Json) (cs : List Char) :
    Reading (List Json) cs :=
  match readValue limits room cs with
  | .error e => .error e
  | .ok ⟨(item, afterItem), lt⟩ =>
    match h : skipSpaces afterItem with
    | ']' :: after =>
      .ok ⟨((item :: read).reverse, after), by
        have := length_le_of_skipSpaces h
        simp only [List.length_cons] at *
        omega⟩
    | ',' :: more =>
      have := length_le_of_skipSpaces h
      have := skipSpaces_length more
      (readItems limits room (item :: read) (skipSpaces more)).map
        fun ⟨p, lt⟩ ↦ ⟨p, by simp only [List.length_cons] at *; omega⟩
    | other => fail .expectedComma other
termination_by (cs.length, 1)
decreasing_by
  · apply Prod.Lex.right
    omega
  · apply Prod.Lex.left
    simp only [List.length_cons] at *
    omega

def readMembers (limits : Limits) (room : Nat) (read : List (CodePoints × Json)) (cs : List Char) :
    Reading (List (CodePoints × Json)) cs :=
  match cs with
  | '"' :: rest =>
    match readString ('"' :: rest) [] rest with
    | .error e => .error e
    | .ok ⟨(name, afterName), ltName⟩ =>
      match hColon : skipSpaces afterName with
      | ':' :: afterColon =>
        have := length_le_of_skipSpaces hColon
        have := skipSpaces_length afterColon
        match readValue limits room (skipSpaces afterColon) with
        | .error e => .error e
        | .ok ⟨(value, afterValue), ltValue⟩ =>
          match h : skipSpaces afterValue with
          | '\x7d' :: after =>
            .ok ⟨(setMember name value read, after), by
              have := length_le_of_skipSpaces h
              simp only [List.length_cons] at *
              omega⟩
          | ',' :: more =>
            have := length_le_of_skipSpaces h
            have := skipSpaces_length more
            (readMembers limits room (setMember name value read) (skipSpaces more)).map
              fun ⟨p, lt⟩ ↦ ⟨p, by simp only [List.length_cons] at *; omega⟩
          | other => fail .expectedComma other
      | other => fail .expectedColon other
  | cs => fail .expectedName cs
termination_by (cs.length, 0)
decreasing_by
  all_goals
    apply Prod.Lex.left
    simp only [List.length_cons] at *
    omega

end

def read (limits : Limits) (cs : List Char) : Except Failure Json :=
  match cs with
  | '\uFEFF' :: _ => fail .byteOrderMark cs
  | cs =>
    match readValue limits limits.nesting (skipSpaces cs) with
    | .error e => .error e
    | .ok ⟨(value, after), _⟩ =>
      match skipSpaces after with
      | [] => .ok value
      | rest => fail .extraData rest

def placeText (text : List Char) (left : Nat) : String :=
  let offset := text.length - left
  let before := text.take offset
  let line := before.count '\n' + 1
  let column := (before.reverse.takeWhile (· != '\n')).length + 1
  "line " ++ toString line ++ " column " ++ toString column ++ " (char " ++ toString offset ++ ")"

end Boilerplate.Json
