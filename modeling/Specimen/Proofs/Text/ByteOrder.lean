import Mathlib.Order.Basic
import Mathlib.Tactic.Lemma
import Mathlib.Tactic.SplitIfs

/-! Texts stand in the order of their bytes in UTF-8, which is thus that of their code points. -/

namespace Specimen.Text

def bytes (s : String) : List UInt8 := s.toUTF8.data.toList

lemma bytes_eq_flatMap (s : String) : bytes s = s.toList.flatMap String.utf8EncodeChar := by
  rw [bytes, String.toUTF8, ← String.utf8Encode_toList]
  simp [List.utf8Encode]

lemma utf8EncodeChar_append_lt {c d : Char} (h : c < d) (l m : List UInt8) :
    String.utf8EncodeChar c ++ l < String.utf8EncodeChar d ++ m := by
  have hlt : c.val.toNat < d.val.toNat := h
  have hd : d.val.toNat < 0x110000 := d.valid.elim (fun h => Nat.lt_trans h (by decide)) And.right
  -- digits of one place are found by one division after the other in all lengths
  have hthree (n : Nat) : n / 4096 = n / 64 / 64 := (Nat.div_div_eq_div_mul n 64 64).symm
  have hfour (n : Nat) : n / 262144 = n / 64 / 64 / 64 := by rw [Nat.div_div_eq_div_mul, Nat.div_div_eq_div_mul]
  rw [String.utf8EncodeChar, String.utf8EncodeChar]
  simp only [hthree, hfour]
  generalize c.val.toNat = x at hlt
  generalize d.val.toNat = y at hlt hd
  split_ifs <;> try omega
  all_goals
    simp only [List.cons_append, List.nil_append, List.cons_lt_cons_iff, ← UInt8.toNat_inj,
      UInt8.lt_iff_toNat_lt, UInt8.toNat_ofNat']
    omega

lemma flatMap_utf8EncodeChar_lt {l m : List Char} (h : l < m) :
    l.flatMap String.utf8EncodeChar < m.flatMap String.utf8EncodeChar := by
  induction h with
  | @nil d m =>
    have hne : String.utf8EncodeChar d ≠ [] := List.ne_nil_of_length_pos (by
      rw [String.length_utf8EncodeChar]
      exact d.utf8Size_pos)
    obtain ⟨x, l, hl⟩ := List.exists_cons_of_ne_nil hne
    rw [List.flatMap_cons, hl]
    exact .nil
  | cons _ ih => exact List.append_left_lt ih
  | rel h => exact utf8EncodeChar_append_lt h _ _

lemma bytes_lt_of_lt {s t : String} (h : s < t) : bytes s < bytes t := by
  rw [bytes_eq_flatMap, bytes_eq_flatMap]
  exact flatMap_utf8EncodeChar_lt h

theorem bytes_lt_iff {s t : String} : bytes s < bytes t ↔ s < t := by
  refine ⟨fun h => Decidable.byContradiction fun hn => ?_, bytes_lt_of_lt⟩
  by_cases hlt : t < s
  · exact absurd (bytes_lt_of_lt hlt) (List.lt_asymm h)
  · rw [String.le_antisymm hlt hn] at h
    exact absurd h (List.lt_irrefl _)

end Specimen.Text
