namespace Boilerplate.Decimal

def powerOfTwo (n : Nat) : Nat := Nat.pow 2 n

def powerOfTen (n : Nat) : Nat := Nat.pow 10 n

/-- A finite number has the value `mantissa * 2 ^ exponent`, with `mantissa < 2 ^ 53` and
`-1074 ≤ exponent ≤ 971`. -/
inductive Binary64 where
  | finite (negative : Bool) (mantissa : Nat) (exponent : Int)
  | infinite (negative : Bool)
  | notANumber
  deriving DecidableEq, Repr

namespace Binary64

def minExponent : Int := -1074

def maxExponent : Int := 971

def isZero : Binary64 → Bool
  | finite _ mantissa _ => mantissa == 0
  | _ => false

/-- The quotient rounded to the nearest integer, a half to the even one. -/
def roundQuotient (num den : Nat) : Nat :=
  let low := num / den
  let twice := 2 * (num % den)
  if twice < den then low
  else if den < twice then low + 1
  else low + low % 2

def scaleDown (num den : Nat) (exponent : Int) : Nat × Nat :=
  if 0 ≤ exponent then (num, den * powerOfTwo exponent.toNat)
  else (num * powerOfTwo (-exponent).toNat, den)

def ofFraction (negative : Bool) (num den : Nat) : Binary64 :=
  let guess : Int := (num.log2 : Int) - den.log2 - 53
  let (n, d) := scaleDown num den guess
  let exponent := max (if n < d * powerOfTwo 53 then guess else guess + 1) minExponent
  let (n, d) := scaleDown num den exponent
  let mantissa := roundQuotient n d
  let (mantissa, exponent) :=
    if mantissa = powerOfTwo 53 then (powerOfTwo 52, exponent + 1) else (mantissa, exponent)
  if maxExponent < exponent then infinite negative else finite negative mantissa exponent

/-- The number nearest to `coefficient * 10 ^ power`. Powers far out of range are settled by the
count of digits, before any of them is computed. -/
def ofDecimal (negative : Bool) (coefficient : Nat) (power : Int) : Binary64 :=
  if coefficient = 0 then finite negative 0 minExponent
  else
    let digits : Int := (Nat.toDigits 10 coefficient).length
    if 400 < digits + power then infinite negative
    else if digits + power < -400 then finite negative 0 minExponent
    else if 0 ≤ power then ofFraction negative (coefficient * powerOfTen power.toNat) 1
    else ofFraction negative coefficient (powerOfTen (-power).toNat)

end Binary64

end Boilerplate.Decimal
