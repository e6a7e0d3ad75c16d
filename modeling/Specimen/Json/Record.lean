import Specimen.Json.Reader
import Specimen.Json.Printer
import Specimen.SortedMap

/-! A record is read from an object, whose unknown members are skipped, or from an array of its fields in their
order. -/

universe u

namespace Specimen.Json

inductive Shape where
  | any
  | optional
  | text
  | natural
  | list (element : Shape)
  | tally

namespace Shape

@[reducible] def Carrier : Shape → Type
  | .any => Json
  | .optional => Option Json
  | .text => String
  | .natural => UInt64
  | .list element => List element.Carrier
  | .tally => SortedMap UInt64

def absent? : (shape : Shape) → Option shape.Carrier
  | .optional => some none
  | _ => none

def toJson : (shape : Shape) → shape.Carrier → Json
  | .any, v => v
  | .optional, v => v.getD .null
  | .text, s => .str s
  | .natural, n => .nat n
  | .list element, l => .arr (l.map element.toJson)
  | .tally, m => .obj (m.map Json.nat).entries

def readNatural : Reader UInt64 := fun s =>
  match skipBlanks s with
  | [] => .error .malformed
  | c :: _ =>
    if c = '-' ∨ c.isDigit then
      match number .strict s with
      | .ok (.natural n, r) => .ok (n, r)
      | .ok _ => .error .mismatch
      | .error f => .error f
    else .error (unwanted s)

def read : (shape : Shape) → (levels : Nat) → Reader shape.Carrier
  | .any, levels => value .strict levels
  | .optional, levels => fun s =>
    (value .strict levels s).map fun v => if v = .null then none else some v
  | .text, _ => Json.text .strict
  | .natural, _ => readNatural
  | .list element, levels => fun s =>
    match h : skipBlanks s, levels with
    | [], _ => .error .malformed
    | c :: r, levels + 1 =>
      if c = '[' then (sequence (element.read levels) r).widen (length_le_of_skipBlanks_eq h)
      else .error (unwanted s)
    | c :: _, 0 => .error (if c = '[' then .malformed else unwanted s)
  | .tally, levels => fun s =>
    match h : skipBlanks s, levels with
    | [], _ => .error .malformed
    | c :: r, _ + 1 =>
      if c = '{' then
        (block .strict (fun key m => .ok fun t => (readNatural t).map fun n => m.insert key n) .empty r).widen
          (length_le_of_skipBlanks_eq h)
      else .error (unwanted s)
    | c :: _, 0 => .error (if c = '{' then .malformed else unwanted s)

end Shape

structure Field where
  name : String
  shape : Shape

@[reducible] def Slots : List Field → Type
  | [] => Unit
  | f :: fs => f.shape.Carrier × Slots fs

@[reducible] def Filled : List Field → Type
  | [] => Unit
  | f :: fs => Option f.shape.Carrier × Filled fs

namespace Filled

def empty : (fields : List Field) → Filled fields
  | [] => ()
  | _ :: fs => (none, empty fs)

def finish : {fields : List Field} → Filled fields → Except Fault (Slots fields)
  | [], () => .ok ()
  | f :: _, (o, rest) =>
    match o <|> f.shape.absent?, finish rest with
    | some v, .ok vs => .ok (v, vs)
    | none, _ => .error .mismatch
    | _, .error e => .error e

def member (levels : Nat) : {fields : List Field} → (key : String) → Filled fields → Except Fault (Reader (Filled fields))
  | [], _, () => .ok fun s => skip s
  | f :: _, key, (o, rest) =>
    if key = f.name then
      match o with
      | some _ => .error .mismatch
      | none => .ok fun s => (f.shape.read levels s).map fun v => (some v, rest)
    else
      match member levels key rest with
      | .error e => .error e
      | .ok reader => .ok fun s => (reader s).map fun rest' => (o, rest')

end Filled

namespace Slots

def toMembers : (fields : List Field) → Slots fields → List (String × Json)
  | [], () => []
  | f :: fs, (v, vs) => (f.name, f.shape.toJson v) :: toMembers fs vs

def absent? : (fields : List Field) → Except Fault (Slots fields)
  | [] => .ok ()
  | f :: fs =>
    match f.shape.absent?, absent? fs with
    | some v, .ok vs => .ok (v, vs)
    | _, _ => .error .mismatch

def positional (levels : Nat) : (fields : List Field) → (first : Bool) → Reader (Slots fields)
  | [], _ => fun s =>
    match h : skipBlanks s with
    | [] => .error .malformed
    | c :: r => if c = ']' then .ok ((), ⟨r, length_lt_of_skipBlanks h⟩) else .error .malformed
  | f :: fs, first => fun s =>
    match h : skipBlanks s with
    | [] => .error .malformed
    | c :: r =>
      have hr : r.length < s.length := length_lt_of_skipBlanks h
      if c = ']' then (absent? (f :: fs)).map fun vs => (vs, ⟨r, hr⟩)
      else if !first && c ≠ ',' then .error .malformed
      else
        let start := if first then s else r
        have hstart : start.length ≤ s.length := by
          dsimp only [start]
          split <;> omega
        if (skipBlanks start).head? = some ']' then .error .malformed
        else
          match f.shape.read levels start with
          | .error e => .error e
          | .ok (v, ⟨t, ht⟩) =>
            ((positional levels fs false t).map fun vs => (v, vs)).widen (Nat.le_trans (Nat.le_of_lt ht) hstart)

end Slots

structure Format (α : Type) where
  fields : List Field
  ofSlots : Slots fields → α
  toSlots : α → Slots fields
  ofSlots_toSlots : ∀ a, ofSlots (toSlots a) = a

namespace Format

variable {α : Type}

def toJson (format : Format α) (a : α) : Json := .obj (Slots.toMembers format.fields (format.toSlots a))

def reader (format : Format α) (levels : Nat) : Reader α := fun s =>
  match h : skipBlanks s, levels with
  | [], _ => .error .malformed
  | c :: r, levels + 1 =>
    if c = '{' then
      match block .strict (Filled.member levels) (Filled.empty format.fields) r with
      | .error e => .error e
      | .ok (filled, ⟨t, ht⟩) =>
        filled.finish.map fun slots => (format.ofSlots slots, ⟨t, Nat.lt_trans ht (length_lt_of_skipBlanks h)⟩)
    else if c = '[' then
      ((Slots.positional levels format.fields true r).map format.ofSlots).widen (length_le_of_skipBlanks_eq h)
    else .error (unwanted s)
  | c :: _, 0 => .error (if c = '{' ∨ c = '[' then .malformed else unwanted s)

def read (format : Format α) (text : String) : Except Fault α := document (format.reader maxNesting) text

end Format

end Specimen.Json
