import Specimen.Entries
import Specimen.Decimal.Binary64

/-! Objects keep their members in the order in which they were first named. -/

namespace Specimen

namespace Json

inductive Number where
  | natural (n : UInt64)
  /-- The integer `-1 - below`. -/
  | negative (below : Fin (1 <<< 63))
  | double (x : Binary64)
  deriving DecidableEq

end Json

inductive Json where
  | null
  | bool (b : Bool)
  | num (n : Json.Number)
  | str (s : String)
  | arr (items : List Json)
  | obj (members : List (String × Json))
  deriving Inhabited

namespace Json

mutual

def decEq : (v w : Json) → Decidable (v = w)
  | .null, .null => isTrue rfl
  | .bool a, .bool b => decidable_of_iff (a = b) (by simp)
  | .num a, .num b => decidable_of_iff (a = b) (by simp)
  | .str a, .str b => decidable_of_iff (a = b) (by simp)
  | .arr a, .arr b => @decidable_of_iff _ (a = b) (by simp) (decEqItems a b)
  | .obj a, .obj b => @decidable_of_iff _ (a = b) (by simp) (decEqMembers a b)
  | .null, .bool _ | .null, .num _ | .null, .str _ | .null, .arr _ | .null, .obj _
  | .bool _, .null | .bool _, .num _ | .bool _, .str _ | .bool _, .arr _ | .bool _, .obj _
  | .num _, .null | .num _, .bool _ | .num _, .str _ | .num _, .arr _ | .num _, .obj _
  | .str _, .null | .str _, .bool _ | .str _, .num _ | .str _, .arr _ | .str _, .obj _
  | .arr _, .null | .arr _, .bool _ | .arr _, .num _ | .arr _, .str _ | .arr _, .obj _
  | .obj _, .null | .obj _, .bool _ | .obj _, .num _ | .obj _, .str _ | .obj _, .arr _ =>
    isFalse (by simp)

def decEqItems : (v w : List Json) → Decidable (v = w)
  | [], [] => isTrue rfl
  | [], _ :: _ | _ :: _, [] => isFalse (by simp)
  | a :: v, b :: w => @decidable_of_iff _ (a = b ∧ v = w) (by simp) (@instDecidableAnd _ _ (decEq a b) (decEqItems v w))

def decEqMembers : (v w : List (String × Json)) → Decidable (v = w)
  | [], [] => isTrue rfl
  | [], _ :: _ | _ :: _, [] => isFalse (by simp)
  | (j, a) :: v, (k, b) :: w =>
    @decidable_of_iff _ (j = k ∧ a = b ∧ v = w) (by simp [and_assoc])
      (@instDecidableAnd _ _ _ (@instDecidableAnd _ _ (decEq a b) (decEqMembers v w)))

end

instance : DecidableEq Json := decEq

def get? (name : String) : Json → Option Json
  | .obj members => Entries.find? name members
  | _ => none

def text? : Json → Option String
  | .str s => some s
  | _ => none

def natural? : Json → Option UInt64
  | .num (.natural n) => some n
  | _ => none

def isTruthy : Json → Bool
  | .null => false
  | .bool b => b
  | .num (.natural n) => n != 0
  | .num (.negative _) => true
  | .num (.double x) => !x.isZero
  | .str s => s != ""
  | .arr _ | .obj _ => true

mutual

def nesting : Json → Nat
  | .arr items => 1 + nestingItems items
  | .obj members => 1 + nestingMembers members
  | _ => 0

def nestingItems : List Json → Nat
  | [] => 0
  | v :: r => max (nesting v) (nestingItems r)

def nestingMembers : List (String × Json) → Nat
  | [] => 0
  | (_, v) :: r => max (nesting v) (nestingMembers r)

end

def nat (n : UInt64) : Json := .num (.natural n)

end Json

end Specimen
