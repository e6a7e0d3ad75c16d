import Mathlib.Data.List.DropRight
import Specimen.Proofs.Text.ByteOrder
import Specimen.Text.Blank

/-! Texts of which something is left without the blanks around it. For words that stand in tables, the first
byte is enough to tell. -/

namespace Specimen.Text

def trim (s : String) : String := String.ofList ((s.toList.dropWhile isBlank).rdropWhile isBlank)

def IsVisible (s : String) : Prop := ∃ c ∈ s.toList, isBlank c = false

lemma trim_ne_empty_iff {s : String} : trim s ≠ "" ↔ IsVisible s := by
  have hempty : trim s = "" ↔ ∀ c ∈ s.toList.dropWhile isBlank, isBlank c := by
    rw [← String.toList_inj, trim, String.toList_ofList, String.toList_empty, List.rdropWhile_eq_nil_iff]
  rw [Ne, hempty, IsVisible]
  constructor
  · intro h
    simp only [not_forall, Bool.not_eq_true] at h
    obtain ⟨c, hc, hblank⟩ := h
    exact ⟨c, (List.dropWhile_suffix _).mem hc, hblank⟩
  · rintro ⟨c, hc, hblank⟩ h
    -- what has been dropped is blank and so is all the rest
    rw [← List.takeWhile_append_dropWhile (p := isBlank) (l := s.toList)] at hc
    have hall : isBlank c = true := by
      rcases List.mem_append.1 hc with hc | hc
      · exact List.mem_takeWhile_imp hc
      · exact h c hc
    rw [hblank] at hall
    cases hall

lemma IsVisible.ne_empty {s : String} (h : IsVisible s) : s ≠ "" := by
  rintro rfl
  obtain ⟨c, hc, -⟩ := h
  simp at hc

lemma IsVisible.append_right {s : String} (h : IsVisible s) (t : String) : IsVisible (s ++ t) := by
  obtain ⟨c, hc, hblank⟩ := h
  exact ⟨c, by simp [hc], hblank⟩

lemma IsVisible.append_left {s : String} (h : IsVisible s) (t : String) : IsVisible (t ++ s) := by
  obtain ⟨c, hc, hblank⟩ := h
  exact ⟨c, by simp [hc], hblank⟩

lemma isBlank_of_ascii {c : Char} (h : 33 ≤ c.toNat) (h' : c.toNat < 127) : isBlank c = false := by
  simp only [isBlank, Bool.or_eq_false_iff, Bool.and_eq_false_iff, decide_eq_false_iff_not, beq_eq_false_iff_ne]
  omega

lemma isBlank_of_isDigit {c : Char} (h : c.isDigit) : isBlank c = false := by
  obtain ⟨hlow, hhigh⟩ := Char.isDigit_iff_toNat.1 h
  have hzero : '0'.toNat = 48 := rfl
  have hnine : '9'.toNat = 57 := rfl
  exact isBlank_of_ascii (by omega) (by omega)

def startsVisibly (s : String) : Bool :=
  match bytes s with
  | [] => false
  | b :: _ => 33 ≤ b.toNat && b.toNat < 127

lemma toNat_of_utf8EncodeChar {c : Char} {b : UInt8} {r : List UInt8} (h : String.utf8EncodeChar c = b :: r)
    (hb : b.toNat < 128) : c.toNat = b.toNat := by
  rw [String.utf8EncodeChar] at h
  change c.val.toNat = _
  split_ifs at h <;> cases h
  · simp only [UInt8.toNat_ofNat']
    omega
  all_goals
    simp only [UInt8.toNat_ofNat'] at hb
    omega

lemma isVisible_of_startsVisibly {s : String} (h : startsVisibly s) : IsVisible s := by
  rw [startsVisibly, bytes_eq_flatMap] at h
  cases hs : s.toList with
  | nil => simp [hs] at h
  | cons c cs =>
    refine ⟨c, hs ▸ List.mem_cons_self, ?_⟩
    cases hc : String.utf8EncodeChar c with
    | nil => exact absurd hc (List.ne_nil_of_length_pos (by simp [c.utf8Size_pos]))
    | cons b r =>
      simp only [hs, List.flatMap_cons, hc, List.cons_append, Bool.and_eq_true, decide_eq_true_eq] at h
      have hcode : c.toNat = b.toNat := toNat_of_utf8EncodeChar hc (by omega)
      exact isBlank_of_ascii (by omega) (by omega)

end Specimen.Text
