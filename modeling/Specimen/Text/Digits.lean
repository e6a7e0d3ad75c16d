namespace Specimen.Text

def digit? (base : Nat) (c : Char) : Option Nat :=
  if c.isDigit then some (c.toNat - '0'.toNat) |>.filter (· < base)
  else if 'a' ≤ c ∧ c ≤ 'f' then some (c.toNat - 'a'.toNat + 10) |>.filter (· < base)
  else if 'A' ≤ c ∧ c ≤ 'F' then some (c.toNat - 'A'.toNat + 10) |>.filter (· < base)
  else none

def isDigit (base : Nat) (c : Char) : Bool := (digit? base c).isSome

def ofDigits (base : Nat) (ds : List Char) : Nat := ds.foldl (fun n c => n * base + (digit? base c).getD 0) 0

def natural? (s : List Char) : Option Nat :=
  let ds := match s with
    | '+' :: r => r
    | s => s
  if ds ≠ [] ∧ ds.all (isDigit 10) then some (ofDigits 10 ds) else none

def word? (s : List Char) : Option UInt64 :=
  (natural? s).bind fun n => if n < UInt64.size then some (UInt64.ofNat n) else none

end Specimen.Text
