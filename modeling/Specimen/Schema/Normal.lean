import Specimen.Schema.Basic
import Specimen.Json.Printer

/-! The form is permissive: an object that is not a well-formed description of an array or an image is a record
of its members, and a leaf that is not a text becomes a scalar whose tag is its compact JSON text. -/

namespace Specimen

namespace Json

/-- The natural number below `2 ^ 64` that a number is, in whatever spelling. -/
def Number.whole? : Number → Option UInt64
  | .natural n => some n
  | .negative _ => none
  | .double x =>
    match x.natural? with
    | some n => if n < UInt64.size then some (UInt64.ofNat n) else none
    | none => none

def whole? : Json → Option UInt64
  | .num n => n.whole?
  | _ => none

end Json

inductive SchemaError where
  | sizesInverted (path : Schema.Path) (minSize maxSize : UInt64)
  | tooDeep (path : Schema.Path)
  deriving DecidableEq

namespace Schema

def maxDepth : Nat := 512

inductive Description where
  | array (minSize maxSize : UInt64)
  | image (spec : ImageSpec)
  | record

def dimension (default : UInt32) (v : Option Json) : UInt32 :=
  match v.bind Json.natural? with
  | some n => if 0 < n ∧ n.toNat < UInt32.size then n.toUInt32 else default
  | none => default

def imageSpec (members : List (String × Json)) : ImageSpec where
  width := dimension 200 (Entries.find? "width" members)
  height := dimension 200 (Entries.find? "height" members)
  category := ((Entries.find? "category" members).bind Json.text?).getD ""

def arraySizes? (members : List (String × Json)) : Option (UInt64 × UInt64) :=
  match Entries.find? "size" members, Entries.find? "schema" members with
  | some (.arr [least, greatest]), some element =>
    if element.isTruthy then
      match least.whole?, greatest.whole? with
      | some a, some b => some (a, b)
      | _, _ => none
    else none
  | _, _ => none

def describe (members : List (String × Json)) : Description :=
  match Entries.find? "type" members with
  | some (.str "array") =>
    match arraySizes? members with
    | some (a, b) => .array a b
    | none => .record
  | some (.str "image") => .image (imageSpec members)
  | _ => .record

mutual

def normalize (path : Path) : Json → Except SchemaError Schema
  | .str tag => if maxDepth < path.level then .error (.tooDeep path) else .ok (.scalar tag)
  | .obj members =>
    if maxDepth < path.level then .error (.tooDeep path)
    else
      match describe members with
      | .array a b =>
        if b < a then .error (.sizesInverted path a b)
        else (normalizeElement (.element :: path) members).map (.array a b)
      | .image spec => .ok (.image spec)
      | .record => (normalizeFields path members).map .object
  | v => if maxDepth < path.level then .error (.tooDeep path) else .ok (.scalar v.compact)

def normalizeFields (path : Path) : List (String × Json) → Except SchemaError (List (String × Schema))
  | [] => .ok []
  | (name, v) :: rest =>
    match normalize (.field name :: path) v with
    | .error e => .error e
    | .ok s => (normalizeFields path rest).map ((name, s) :: ·)

def normalizeElement (path : Path) : List (String × Json) → Except SchemaError Schema
  | [] => .ok (.scalar "")
  | (name, v) :: rest => if name = "schema" then normalize path v else normalizeElement path rest

end

def ofJson (v : Json) : Except SchemaError Schema := normalize [] v

end Schema

end Specimen
