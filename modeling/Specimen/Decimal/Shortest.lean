import Specimen.Decimal.Binary64

/-! The shortest decimal of a floating-point number: of all decimals that round to the number, one on the
coarsest power of ten, and there the nearest to the number. -/

namespace Specimen

structure Decimal where
  digits : Nat
  exponent : Int
  deriving DecidableEq

namespace Binary64

def lowerBound (x : Binary64) : Nat :=
  if x.significand = 1 <<< 52 ∧ x.scale ≠ 0 then (4 * x.significand - 1) <<< x.scale
  else (4 * x.significand - 2) <<< x.scale

def upperBound (x : Binary64) : Nat := (4 * x.significand + 2) <<< x.scale

/-- Whether `num / den`, in units of `2 ^ -1076`, rounds to `x`: the ends of the interval go to the
even significand. -/
def covers (x : Binary64) (num den : Nat) : Bool :=
  if x.significand % 2 = 0 then decide (x.lowerBound * den ≤ num ∧ num ≤ x.upperBound * den)
  else decide (x.lowerBound * den < num ∧ num < x.upperBound * den)

def onGrid? (x : Binary64) (exponent : Int) : Option Nat :=
  let unit := if 0 ≤ exponent then Nat.pow 10 exponent.toNat <<< 1076 else 1 <<< 1076
  let den := if 0 ≤ exponent then 1 else Nat.pow 10 (-exponent).toNat
  let target := 4 * x.scaled * den
  let below := target / unit
  let low := x.covers (below * unit) den
  let high := x.covers ((below + 1) * unit) den
  if low && high then some (if 2 * (target % unit) ≤ unit then below else below + 1)
  else if low then some below
  else if high then some (below + 1)
  else none

/-- No number has a decimal on a grid coarser than `10 ^ greatestGrid` or needs one finer than
`10 ^ (greatestGrid - 700)`. -/
def greatestGrid : Int := 310

def shortest (x : Binary64) : Decimal :=
  ((List.range 700).findSome? fun (i : Nat) =>
    let exponent := greatestGrid - i
    (x.onGrid? exponent).map fun digits => ⟨digits, exponent⟩).getD ⟨0, 0⟩

end Binary64

structure DecimalLayout where
  leastPlain : Int
  greatestPlain : Int
  exponentMark : String
  positiveSign : String

namespace DecimalLayout

def exponentText (l : DecimalLayout) (e : Int) : List Char :=
  l.exponentMark.toList ++
    (if e < 0 then '-' :: Nat.toDigits 10 e.natAbs else l.positiveSign.toList ++ Nat.toDigits 10 e.natAbs)

def decimalText (l : DecimalLayout) (d : Decimal) : List Char :=
  let ds := Nat.toDigits 10 d.digits
  let lead := d.exponent + (ds.length : Int) - 1
  if l.leastPlain ≤ lead ∧ lead ≤ l.greatestPlain then
    if 0 ≤ d.exponent then ds ++ List.replicate d.exponent.toNat '0' ++ ['.', '0']
    else if 0 ≤ lead then ds.take (lead.toNat + 1) ++ '.' :: ds.drop (lead.toNat + 1)
    else '0' :: '.' :: List.replicate ((-lead).toNat - 1) '0' ++ ds
  else if ds.length = 1 then ds ++ l.exponentText lead
  else ds.take 1 ++ '.' :: ds.drop 1 ++ l.exponentText lead

def text (l : DecimalLayout) (x : Binary64) : List Char :=
  let body := if x.isZero then ['0', '.', '0'] else l.decimalText x.shortest
  if x.negative then '-' :: body else body

end DecimalLayout

end Specimen
