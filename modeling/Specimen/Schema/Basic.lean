namespace Specimen

structure ImageSpec where
  width : UInt32 := 200
  height : UInt32 := 200
  category : String := ""
  deriving DecidableEq

inductive Schema where
  | scalar (tag : String)
  | object (fields : List (String × Schema))
  | array (minSize maxSize : UInt64) (element : Schema)
  | image (spec : ImageSpec)
  deriving Inhabited

namespace Schema

mutual

def decEq : (s t : Schema) → Decidable (s = t)
  | .scalar a, .scalar b => decidable_of_iff (a = b) (by simp)
  | .image a, .image b => decidable_of_iff (a = b) (by simp)
  | .object a, .object b => @decidable_of_iff _ (a = b) (by simp) (decEqFields a b)
  | .array a b s, .array c d t =>
    @decidable_of_iff _ (a = c ∧ b = d ∧ s = t) (by simp)
      (@instDecidableAnd _ _ _ (@instDecidableAnd _ _ _ (decEq s t)))
  | .scalar _, .object _ | .scalar _, .array _ _ _ | .scalar _, .image _
  | .object _, .scalar _ | .object _, .array _ _ _ | .object _, .image _
  | .array _ _ _, .scalar _ | .array _ _ _, .object _ | .array _ _ _, .image _
  | .image _, .scalar _ | .image _, .object _ | .image _, .array _ _ _ => isFalse (by simp)

def decEqFields : (s t : List (String × Schema)) → Decidable (s = t)
  | [], [] => isTrue rfl
  | [], _ :: _ | _ :: _, [] => isFalse (by simp)
  | (j, a) :: s, (k, b) :: t =>
    @decidable_of_iff _ (j = k ∧ a = b ∧ s = t) (by simp [and_assoc])
      (@instDecidableAnd _ _ _ (@instDecidableAnd _ _ (decEq a b) (decEqFields s t)))

end

instance : DecidableEq Schema := decEq

mutual

def depth : Schema → Nat
  | .scalar _ | .image _ => 1
  | .object fields => 1 + depthFields fields
  | .array _ _ element => 1 + depth element

def depthFields : List (String × Schema) → Nat
  | [] => 0
  | (_, s) :: r => max (depth s) (depthFields r)

end

inductive Step where
  | field (name : String)
  | element
  deriving DecidableEq

abbrev Path := List Step

namespace Path

def level (p : Path) : Nat := p.length + 1

def text : Path → String
  | [] => "schema"
  | .field name :: p => text p ++ "." ++ name
  | .element :: p => text p ++ "[]"

end Path

end Schema

end Specimen
