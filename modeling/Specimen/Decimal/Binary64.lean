/-! Finite binary floating-point numbers of 64 bits. A number is its sign and its place among the non-negative
numbers in increasing order; its absolute value is `scaled / 2 ^ 1074`. -/

namespace Specimen

structure Binary64 where
  negative : Bool
  place : Nat
  place_lt : place < 2047 <<< 52
  deriving DecidableEq

namespace Binary64

def significand (x : Binary64) : Nat := if x.place < 1 <<< 52 then x.place else 1 <<< 52 + x.place % 1 <<< 52

def scale (x : Binary64) : Nat := x.place >>> 52 - 1

def scaled (x : Binary64) : Nat := x.significand <<< x.scale

def isZero (x : Binary64) : Bool := x.place == 0

def natural? (x : Binary64) : Option Nat :=
  if x.isZero then some 0
  else if x.negative || x.scaled % 1 <<< 1074 != 0 then none
  else some (x.scaled >>> 1074)

end Binary64

def roundDiv (num den : Nat) : Nat :=
  let q := num / den
  let r := num % den
  if 2 * r < den then q else if den < 2 * r then q + 1 else q + q % 2

/-- The place of the number nearest to `num / den`. A significand rounded up to `2 ^ 53` is the
first of the next scale, so the sum is right in this case too. -/
def nearestPlace (num den : Nat) : Nat :=
  let scale := Nat.log2 (num <<< 1074 / den) - 52
  scale <<< 52 + roundDiv (num <<< 1074) (den <<< scale)

namespace Binary64

def zero (negative : Bool) : Binary64 := ⟨negative, 0, by decide⟩

def ofFraction? (negative : Bool) (num den : Nat) : Option Binary64 :=
  if h : nearestPlace num den < 2047 <<< 52 then some ⟨negative, nearestPlace num den, h⟩ else none

def decimalReach : Int := 400

def ofDecimal? (negative : Bool) (digits : Nat) (exponent : Int) : Option Binary64 :=
  if digits = 0 then some (zero negative)
  else
    let lead := exponent + (Nat.toDigits 10 digits).length
    if decimalReach < lead then none
    else if lead < -decimalReach then some (zero negative)
    else if 0 ≤ exponent then ofFraction? negative (digits * Nat.pow 10 exponent.toNat) 1
    else ofFraction? negative digits (Nat.pow 10 (-exponent).toNat)

end Binary64

end Specimen
