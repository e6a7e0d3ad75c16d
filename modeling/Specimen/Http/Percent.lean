import Specimen.Text.Digits

/-! A percent sign that is not followed by two hexadecimal digits stays. -/

namespace Specimen.Http.Percent

def pair? (a b : Char) : Option UInt8 := do
  return UInt8.ofNat ((← Text.digit? 16 a) * 16 + (← Text.digit? 16 b))

def bytes : List Char → List UInt8
  | '%' :: a :: b :: r =>
    match pair? a b with
    | some x => x :: bytes r
    | none => '%'.toUInt8 :: bytes (a :: b :: r)
  | c :: r => (String.ofList [c]).toUTF8.toList ++ bytes r
  | [] => []
termination_by s => s.length

def decode? (s : List Char) : Option String := String.fromUTF8? ⟨(bytes s).toArray⟩

end Specimen.Http.Percent
