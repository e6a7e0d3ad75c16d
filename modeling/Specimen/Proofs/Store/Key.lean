import Mathlib.Tactic.Lemma
import Specimen.Store.Key

namespace Specimen.Key

lemma utf8ByteSize_ofList_le (l : List Char) : (String.ofList l).utf8ByteSize ≤ 4 * l.length := by
  induction l with
  | nil => exact Nat.le_refl 0
  | cons c r ih =>
    have hc := c.utf8Size_le_four
    rw [String.ofList_cons, String.utf8ByteSize_append, String.utf8ByteSize_singleton, List.length_cons]
    omega

lemma isKeyChar_digitChar (x : Nat) : isKeyChar (Nat.digitChar (x % 16)) := by
  have h : ∀ d < 16, isKeyChar (Nat.digitChar d) := by decide
  exact h _ (Nat.mod_lt x (by decide))

lemma isKeyChar_of_mem_hexDigits {n x : Nat} {c : Char} (h : c ∈ hexDigits n x) : isKeyChar c := by
  induction n generalizing x with
  | zero => cases h
  | succ n ih =>
    rw [hexDigits, List.mem_append, List.mem_singleton] at h
    rcases h with h | rfl
    · exact ih h
    · exact isKeyChar_digitChar x

lemma length_hexDigits (n x : Nat) : (hexDigits n x).length = n := by
  induction n generalizing x with
  | zero => rfl
  | succ n ih => rw [hexDigits, List.length_append, ih, List.length_singleton]

lemma length_ofWords (high low : UInt64) : (ofWords high low).toList.length = 36 := by
  simp [ofWords, length_hexDigits]

theorem isValid_ofWords (high low : UInt64) : isValid (ofWords high low) := by
  have hne : ofWords high low ≠ "" := by
    intro h
    have hl := length_ofWords high low
    rw [h] at hl
    cases hl
  have hdash : isKeyChar '-' := by decide
  have hfour : isKeyChar '4' := by decide
  have hall : (ofWords high low).toList.all isKeyChar := by
    rw [List.all_eq_true]
    intro c hc
    simp only [ofWords, String.toList_ofList, List.mem_append, List.mem_cons] at hc
    rcases hc with (((h | rfl | h) | rfl | rfl | h) | rfl | h) | rfl | h
    all_goals first | assumption | exact isKeyChar_of_mem_hexDigits h
  simp [isValid, hne, hall]

lemma utf8ByteSize_ofWords_le (high low : UInt64) : (ofWords high low).utf8ByteSize ≤ 144 := by
  have h := utf8ByteSize_ofList_le (ofWords high low).toList
  rwa [String.ofList_toList, length_ofWords] at h

end Specimen.Key
