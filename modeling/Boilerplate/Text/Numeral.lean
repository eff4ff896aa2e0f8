import Boilerplate.Limits
import Boilerplate.Text.Blank
import Boilerplate.Text.Digit

namespace Boilerplate.Text

def digitIn? (base : Nat) (c : Char) : Option Nat :=
  let value :=
    if c.isLower then some (c.toNat - 'a'.toNat + 10)
    else if c.isUpper then some (c.toNat - 'A'.toNat + 10)
    else decimalDigit? c
  value.filter (· < base)

/-- Digits with at most one low line between two of them, read onto `value`. -/
def readDigits? (base : Nat) (value : Nat) : List Char → Option Nat
  | [] => some value
  | '_' :: c :: rest =>
    match digitIn? base c with
    | some d => readDigits? base (value * base + d) rest
    | none => none
  | c :: rest =>
    match digitIn? base c with
    | some d => readDigits? base (value * base + d) rest
    | none => none

def natural? (base : Nat) : List Char → Option Nat
  | [] => none
  | c :: rest => (digitIn? base c).bind fun d ↦ readDigits? base d rest

/-- The information separators do not count as blanks around a numeral. -/
def isNumeralBlank (c : Char) : Bool :=
  isBlank c && !(0x1C ≤ c.toNat && c.toNat ≤ 0x1F)

def trimNumeral (cs : List Char) : List Char :=
  ((cs.dropWhile isNumeralBlank).reverse.dropWhile isNumeralBlank).reverse

def signed? (read : List Char → Option Nat) : List Char → Option Int
  | '-' :: rest => (read rest).map fun n ↦ -(n : Int)
  | '+' :: rest => (read rest).map Int.ofNat
  | rest => (read rest).map Int.ofNat

def decimal? (limits : Limits) (cs : List Char) : Option Int :=
  if limits.admitsDigits (cs.countP isDecimalDigit) then signed? (natural? 10) (trimNumeral cs)
  else none

def afterHexMark : List Char → List Char
  | zero :: x :: rest =>
    if decimalDigit? zero = some 0 ∧ (x = 'x' ∨ x = 'X') then
      match rest with
      | '_' :: rest => rest
      | rest => rest
    else zero :: x :: rest
  | cs => cs

/-- Reads a hexadecimal integer between blanks, with or without `0x`. -/
def hexadecimal? (cs : List Char) : Option Int :=
  signed? (fun digits ↦ natural? 16 (afterHexMark digits)) (trimNumeral cs)

end Boilerplate.Text
