import Mathlib.Data.List.DropRight
import Specimen.Proofs.Generator.Draws
import Specimen.Proofs.Json.NumberTexts

namespace Specimen

namespace Text

open Json (AllDigits EndsDigits IsWhole allDigits_toDigits digitsOf dropWhile_digits isWhole_toDigits takeWhile_digits)

def IsDecimal (ds : List Char) (n : Nat) : Prop := IsWhole ds ∧ digitsOf ds = n

lemma isDecimal_toDigits (n : Nat) : IsDecimal (Nat.toDigits 10 n) n := ⟨isWhole_toDigits n, Nat.ofDigitChars_ten_toDigits⟩

def cutNumber? (mark s : List Char) : Option (List Char × Nat) :=
  ((s.rdropWhile Char.isDigit).dropSuffix? mark).map fun r => (r, digitsOf (s.rtakeWhile Char.isDigit))

lemma cutNumber?_append {mark : List Char} (hm : ∃ c ∈ mark.getLast?, c.isDigit = false) (s : List Char)
    {ds : List Char} {n : Nat} (hd : IsDecimal ds n) : cutNumber? mark (s ++ mark ++ ds) = some (s, n) := by
  obtain ⟨c, hc, hmark⟩ := hm
  have hdigits : AllDigits ds.reverse := fun d hd' => hd.1.digits d (List.mem_reverse.1 hd')
  have hends : EndsDigits (s ++ mark).reverse := by
    rw [EndsDigits, List.head?_reverse, List.getLast?_append, Option.mem_def.1 hc]
    rintro d ⟨⟩
    exact hmark
  have hrest : (s ++ mark ++ ds).rdropWhile Char.isDigit = s ++ mark := by
    rw [List.rdropWhile, List.reverse_append, dropWhile_digits hdigits hends, List.reverse_reverse]
  have hlast : (s ++ mark ++ ds).rtakeWhile Char.isDigit = ds := by
    rw [List.rtakeWhile, List.reverse_append, takeWhile_digits hdigits hends, List.reverse_reverse]
  have hdrop : (s ++ mark).dropSuffix? mark = some s := List.dropSuffix?_eq_some_iff.2 ⟨mark, rfl, beq_self_eq_true mark⟩
  rw [cutNumber?, hrest, hlast, hdrop, Option.map_some, hd.2]

end Text

lemma toList_withoutTrailingSlashes (s : String) :
    (withoutTrailingSlashes s).toList = s.toList.rdropWhile (· == '/') := String.toList_ofList

lemma getLast?_withoutTrailingSlashes (s : String) : (withoutTrailingSlashes s).toList.getLast? ≠ some '/' := by
  obtain ⟨stem, -, -, hlast, hstem⟩ := exists_trailing_slashes s
  rw [hstem, String.toList_ofList]
  exact hlast

lemma withoutTrailingSlashes_append (s : String) (slashes : Nat) :
    withoutTrailingSlashes (s ++ String.ofList (List.replicate slashes '/')) = withoutTrailingSlashes s := by
  apply String.toList_inj.1
  rw [toList_withoutTrailingSlashes, toList_withoutTrailingSlashes, String.toList_append, String.toList_ofList]
  induction slashes with
  | zero => rw [List.replicate_zero, List.append_nil]
  | succ n ih => rw [List.replicate_succ', ← List.append_assoc, List.rdropWhile_concat_pos _ _ _ rfl, ih]

namespace ImageSpec

open Text (IsDecimal cutNumber? cutNumber?_append isDecimal_toDigits)

def Spells (text stem : String) (width height nonce : Nat) : Prop :=
  ∃ w h n, IsDecimal w width ∧ IsDecimal h height ∧ IsDecimal n nonce ∧
    text.toList = stem.toList ++ "/".toList ++ w ++ "/".toList ++ h ++ "?random=".toList ++ n

def readUrl? (text : String) : Option (String × Nat × Nat × Nat) :=
  (cutNumber? "?random=".toList text.toList).bind fun (s, nonce) =>
    (cutNumber? "/".toList s).bind fun (s, height) =>
      (cutNumber? "/".toList s).map fun (s, width) => (String.ofList s, width, height, nonce)

lemma Spells.readUrl? {text stem : String} {width height nonce : Nat} (h : Spells text stem width height nonce) :
    readUrl? text = some (stem, width, height, nonce) := by
  obtain ⟨w, h, n, hw, hh, hn, htext⟩ := h
  have hmark : ∃ c ∈ "?random=".toList.getLast?, c.isDigit = false := ⟨'=', by decide, by decide⟩
  have hslash : ∃ c ∈ "/".toList.getLast?, c.isDigit = false := ⟨'/', by decide, by decide⟩
  simp only [ImageSpec.readUrl?, htext, cutNumber?_append hmark _ hn, cutNumber?_append hslash _ hh,
    cutNumber?_append hslash _ hw, Option.bind_some, Option.map_some, String.ofList_toList]

variable (spec : ImageSpec) (base : String)

lemma spells_url (nonce : Nat) :
    Spells (spec.url base nonce) (withoutTrailingSlashes base) spec.width.toNat spec.height.toNat nonce := by
  refine ⟨_, _, _, isDecimal_toDigits _, isDecimal_toDigits _, isDecimal_toDigits _, ?_⟩
  have hwidth : (toString spec.width).toList = Nat.toDigits 10 spec.width.toNat := Nat.toList_repr
  have hheight : (toString spec.height).toList = Nat.toDigits 10 spec.height.toNat := Nat.toList_repr
  have hnonce : (toString nonce).toList = Nat.toDigits 10 nonce := Nat.toList_repr
  simp only [url, String.toList_append, hwidth, hheight, hnonce]
  rfl

lemma nonceBound_pos : 0 < nonceBound := by decide

variable {σ : Type} [WordSource σ]

def nonce (s : σ) : Nat := (below .half nonceBound nonceBound_pos s).1

lemma nonce_le (s : σ) : nonce s ≤ 999 := Nat.le_of_lt_succ (Fin.isLt _)

lemma drawUrl_congr {base base' : String} (h : withoutTrailingSlashes base = withoutTrailingSlashes base') :
    spec.drawUrl base = (spec.drawUrl base' : StateM σ String) := by
  simp only [drawUrl, url, h]

lemma fst_drawUrl (s : σ) : (spec.drawUrl base s).1 = spec.url base (nonce s) := by
  rw [drawUrl, fst_bind, fst_pure, nonce]

theorem drawUrl_faithful (base : String) (spec spec' : ImageSpec) (slashes : Nat) (s s' : σ) :
    spec.drawUrl (base ++ String.ofList (List.replicate slashes '/')) s = spec.drawUrl base s ∧
    (withoutTrailingSlashes base).toList.getLast? ≠ some '/' ∧ nonce s ≤ 999 ∧
    Spells (spec.drawUrl base s).1 (withoutTrailingSlashes base) spec.width.toNat spec.height.toNat (nonce s) ∧
    readUrl? (spec.drawUrl base s).1 =
      some (withoutTrailingSlashes base, spec.width.toNat, spec.height.toNat, nonce s) ∧
    ((spec.drawUrl base s).1 = (spec'.drawUrl base s').1 ↔
      spec.width = spec'.width ∧ spec.height = spec'.height ∧ nonce s = nonce s') := by
  have hread := (spec.spells_url base (nonce s)).readUrl?
  have hread' := (spec'.spells_url base (nonce s')).readUrl?
  rw [spec.drawUrl_congr (withoutTrailingSlashes_append base slashes), fst_drawUrl, fst_drawUrl]
  refine ⟨rfl, getLast?_withoutTrailingSlashes base, nonce_le s, spec.spells_url base (nonce s), hread, ?_, ?_⟩
  · intro h
    rw [h, hread'] at hread
    simpa [UInt32.toNat_inj, eq_comm] using hread
  · rintro ⟨hwidth, hheight, hnonce⟩
    rw [url, url, hwidth, hheight, hnonce]

example : readUrl? (url ⟨20, 30, ""⟩ "a/1/2?random=3//" 7) = some ("a/1/2?random=3", 20, 30, 7) := by decide +kernel

end ImageSpec

end Specimen
