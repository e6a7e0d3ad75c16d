import Mathlib.Tactic.Lemma
import Specimen.Entries
import Specimen.Schema.Basic

namespace Specimen.Schema

mutual

def Everywhere (P : Schema → Prop) : Schema → Prop
  | .scalar tag => P (.scalar tag)
  | .image spec => P (.image spec)
  | .object fields => P (.object fields) ∧ EverywhereIn P fields
  | .array minSize maxSize element => P (.array minSize maxSize element) ∧ Everywhere P element

def EverywhereIn (P : Schema → Prop) : List (String × Schema) → Prop
  | [] => True
  | (_, s) :: r => Everywhere P s ∧ EverywhereIn P r

end

mutual

lemma Everywhere.mono {P Q : Schema → Prop} (hPQ : ∀ s, P s → Q s) : (s : Schema) → s.Everywhere P → s.Everywhere Q
  | .scalar _, h => hPQ _ h
  | .image _, h => hPQ _ h
  | .object fields, h => ⟨hPQ _ h.1, EverywhereIn.mono hPQ fields h.2⟩
  | .array _ _ t, h => ⟨hPQ _ h.1, Everywhere.mono hPQ t h.2⟩

lemma EverywhereIn.mono {P Q : Schema → Prop} (hPQ : ∀ s, P s → Q s) : (fields : List (String × Schema)) →
    EverywhereIn P fields → EverywhereIn Q fields
  | [], _ => trivial
  | (_, s) :: fields, h => ⟨Everywhere.mono hPQ s h.1, EverywhereIn.mono hPQ fields h.2⟩

end

lemma everywhereIn_iff {P : Schema → Prop} {fields : List (String × Schema)} :
    EverywhereIn P fields ↔ ∀ e ∈ fields, e.2.Everywhere P := by
  induction fields with
  | nil => simp [EverywhereIn]
  | cons e r ih => rw [EverywhereIn, ih, List.forall_mem_cons]

def SizesOrdered : Schema → Prop
  | .array minSize maxSize _ => minSize ≤ maxSize
  | _ => True

def NamesDistinct : Schema → Prop
  | .object fields => (Entries.keys fields).Nodup
  | _ => True

abbrev Sized : Schema → Prop := Everywhere SizesOrdered

abbrev Distinct : Schema → Prop := Everywhere NamesDistinct

end Specimen.Schema
