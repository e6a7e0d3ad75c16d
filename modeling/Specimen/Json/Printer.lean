import Specimen.Json.Basic
import Specimen.Decimal.Shortest

/-! `write` puts the text of a value in front of what follows it. -/

namespace Specimen.Json

def numberLayout : DecimalLayout where
  leastPlain := -5
  greatestPlain := 15
  exponentMark := "e"
  positiveSign := "+"

namespace Number

def text : Number → List Char
  | .natural n => Nat.toDigits 10 n.toNat
  | .negative m => '-' :: Nat.toDigits 10 (m.val + 1)
  | .double x => numberLayout.text x

end Number

def escape (c : Char) : List Char :=
  match c with
  | '"' => ['\\', '"']
  | '\\' => ['\\', '\\']
  | '\x08' => ['\\', 'b']
  | '\t' => ['\\', 't']
  | '\n' => ['\\', 'n']
  | '\x0c' => ['\\', 'f']
  | '\r' => ['\\', 'r']
  | c => if c.toNat < 32 then ['\\', 'u', '0', '0', Nat.digitChar (c.toNat / 16), Nat.digitChar (c.toNat % 16)] else [c]

def writeText (s : String) (rest : List Char) : List Char :=
  '"' :: (s.toList.flatMap escape ++ '"' :: rest)

inductive Style where
  | compact
  | indented
  deriving DecidableEq

namespace Style

def lineBreak (style : Style) (level : Nat) (rest : List Char) : List Char :=
  match style with
  | .compact => rest
  | .indented => '\n' :: (List.replicate (2 * level) ' ' ++ rest)

def colon (style : Style) (rest : List Char) : List Char :=
  match style with
  | .compact => ':' :: rest
  | .indented => ':' :: ' ' :: rest

end Style

mutual

def write (style : Style) (level : Nat) : Json → List Char → List Char
  | .null, rest => 'n' :: 'u' :: 'l' :: 'l' :: rest
  | .bool true, rest => 't' :: 'r' :: 'u' :: 'e' :: rest
  | .bool false, rest => 'f' :: 'a' :: 'l' :: 's' :: 'e' :: rest
  | .num n, rest => n.text ++ rest
  | .str s, rest => writeText s rest
  | .arr [], rest => '[' :: ']' :: rest
  | .arr (v :: items), rest =>
    '[' :: style.lineBreak (level + 1) (write style (level + 1) v
      (writeItems style (level + 1) items (style.lineBreak level (']' :: rest))))
  | .obj [], rest => '{' :: '}' :: rest
  | .obj ((name, v) :: members), rest =>
    '{' :: style.lineBreak (level + 1) (writeText name (style.colon (write style (level + 1) v
      (writeMembers style (level + 1) members (style.lineBreak level ('}' :: rest))))))

def writeItems (style : Style) (level : Nat) : List Json → List Char → List Char
  | [], rest => rest
  | v :: items, rest => ',' :: style.lineBreak level (write style level v (writeItems style level items rest))

def writeMembers (style : Style) (level : Nat) : List (String × Json) → List Char → List Char
  | [], rest => rest
  | (name, v) :: members, rest =>
    ',' :: style.lineBreak level (writeText name (style.colon (write style level v
      (writeMembers style level members rest))))

end

def compact (v : Json) : String := String.ofList (write .compact 0 v [])

def pretty (v : Json) : String := String.ofList (write .indented 0 v [])

end Specimen.Json
