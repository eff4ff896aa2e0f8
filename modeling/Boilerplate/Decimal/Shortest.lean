import Boilerplate.Decimal.Binary64

namespace Boilerplate.Decimal

structure Scaled where
  coefficient : Nat
  power : Int
  deriving DecidableEq, Repr

/-- The numbers that round to `mantissa * 2 ^ exponent`, in units of `2 ^ (exponent - 2)`: the
bounds belong to it if the mantissa is even. Below a power of two the next number is half as
far away. -/
structure Rounding where
  low : Nat
  value : Nat
  high : Nat
  closed : Bool

def Rounding.of (mantissa : Nat) (exponent : Int) : Rounding where
  low := if mantissa = powerOfTwo 52 ∧ Binary64.minExponent < exponent then 4 * mantissa - 1
    else 4 * mantissa - 2
  value := 4 * mantissa
  high := 4 * mantissa + 2
  closed := mantissa % 2 == 0

def Rounding.admits (r : Rounding) (num den : Nat) : Bool :=
  if r.closed then r.low * den ≤ num && num ≤ r.high * den
  else r.low * den < num && num < r.high * den

def Scaled.inUnits (s : Scaled) (unit : Int) : Nat × Nat :=
  Binary64.scaleDown (s.coefficient * powerOfTen s.power.toNat) (powerOfTen (-s.power).toNat) unit

def wholePart (mantissa : Nat) (exponent power : Int) : Nat :=
  let num := mantissa * powerOfTwo exponent.toNat * powerOfTen (-power).toNat
  let den := powerOfTwo (-exponent).toNat * powerOfTen power.toNat
  num / den

/-- The neighbours of the number on the grid of multiples of `10 ^ power`: the one that reads
back, the nearer one if both do, and the even one if they are equally near. -/
def onGrid? (mantissa : Nat) (exponent power : Int) : Option Scaled :=
  let r := Rounding.of mantissa exponent
  let below : Scaled := ⟨wholePart mantissa exponent power, power⟩
  let above : Scaled := ⟨below.coefficient + 1, power⟩
  let (belowNum, den) := below.inUnits (exponent - 2)
  let (aboveNum, _) := above.inUnits (exponent - 2)
  match r.admits belowNum den, r.admits aboveNum den with
  | true, true =>
    let left := r.value * den - belowNum
    let right := aboveNum - r.value * den
    if left < right ∨ left = right ∧ below.coefficient % 2 = 0 then some below else some above
  | true, false => some below
  | false, true => some above
  | false, false => none

def search (mantissa : Nat) (exponent : Int) : Nat → Int → Scaled
  | 0, power => ⟨wholePart mantissa exponent power, power⟩
  | count + 1, power =>
    match onGrid? mantissa exponent power with
    | some s => s
    | none => search mantissa exponent count (power - 1)

def leadingPower (mantissa : Nat) (exponent : Int) : Int :=
  let digits (n : Nat) : Int := (Nat.toDigits 10 n).length
  if 0 ≤ exponent then digits (mantissa * powerOfTwo exponent.toNat) - 1
  else
    let den := powerOfTwo (-exponent).toNat
    if den ≤ mantissa then digits (mantissa / den) - 1
    else
      let guess := digits mantissa - digits den
      if den ≤ mantissa * powerOfTen (-guess).toNat then guess else guess - 1

/-- The fewest digits that read back; seventeen always do. -/
def shortest (mantissa : Nat) (exponent : Int) : Scaled :=
  search mantissa exponent 17 (leadingPower mantissa exponent)

def exponentText (power : Int) : String :=
  let digits := toString power.natAbs
  (if power < 0 then "-" else "+") ++ (if digits.length < 2 then "0" ++ digits else digits)

/-- A number whose digits are `digits`, with the point after the first `point` of them.
Positional if the first digit stands for at least `10 ^ -4` and less than `10 ^ 16`. -/
def layOut (digits : List Char) (point : Int) : String :=
  if -4 < point ∧ point ≤ 16 then
    if point ≤ 0 then
      "0." ++ String.ofList (List.replicate (-point).toNat '0' ++ digits)
    else
      let whole := digits.take point.toNat
      let padded := whole ++ List.replicate (point.toNat - whole.length) '0'
      let fraction := digits.drop point.toNat
      String.ofList padded ++ "." ++
        (if fraction.isEmpty then "0" else String.ofList fraction)
  else
    let fraction := digits.drop 1
    String.ofList (digits.take 1) ++
      (if fraction.isEmpty then "" else "." ++ String.ofList fraction) ++ "e" ++
      exponentText (point - 1)

def trimZeros (digits : List Char) : List Char := (digits.reverse.dropWhile (· == '0')).reverse

def Binary64.text : Binary64 → String
  | .notANumber => "nan"
  | .infinite negative => if negative then "-inf" else "inf"
  | .finite negative mantissa exponent =>
    let size :=
      if mantissa = 0 then "0.0"
      else
        let s := shortest mantissa exponent
        let digits := Nat.toDigits 10 s.coefficient
        layOut (trimZeros digits) (digits.length + s.power)
    (if negative then "-" else "") ++ size

end Boilerplate.Decimal
