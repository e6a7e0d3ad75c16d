import Specimen.Random.Source

namespace Specimen.Key

def isKeyChar (c : Char) : Bool := c.isAlphanum || c == '-' || c == '_'

def isValid (key : String) : Bool := key != "" && key.toList.all isKeyChar

def hexDigits : (n : Nat) → Nat → List Char
  | 0, _ => []
  | n + 1, x => hexDigits n (x / 16) ++ [Nat.digitChar (x % 16)]

/-- A random identifier of 128 bits, six of which say that it is random. -/
def ofWords (high low : UInt64) : String :=
  let high := high.toNat
  let low := 1 <<< 63 + low.toNat % 1 <<< 62
  String.ofList (hexDigits 8 (high >>> 32) ++ '-' :: hexDigits 4 (high >>> 16) ++
    '-' :: '4' :: hexDigits 3 high ++ '-' :: hexDigits 4 (low >>> 48) ++ '-' :: hexDigits 12 low)

def fresh {σ : Type} [WordSource σ] : StateM σ String := do
  let high ← WordSource.word64
  let low ← WordSource.word64
  return ofWords high low

end Specimen.Key
