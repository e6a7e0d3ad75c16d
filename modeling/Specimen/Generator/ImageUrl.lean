import Specimen.Random.Source
import Specimen.Schema.Basic

namespace Specimen

def withoutTrailingSlashes (s : String) : String :=
  String.ofList (s.toList.reverse.dropWhile (· == '/')).reverse

namespace ImageSpec

def url (spec : ImageSpec) (base : String) (nonce : Nat) : String :=
  s!"{withoutTrailingSlashes base}/{spec.width}/{spec.height}?random={nonce}"

def nonceBound : Nat := 1000

def drawUrl {σ : Type} [WordSource σ] (spec : ImageSpec) (base : String) : StateM σ String := do
  let nonce ← below .half nonceBound (by decide)
  return spec.url base nonce

end ImageSpec

end Specimen
