import Mathlib.Tactic.Lemma
import Specimen.Generator.ImageUrl

namespace Specimen

lemma fst_pure {σ α : Type} (a : α) (s : σ) : ((pure a : StateM σ α) s).1 = a := rfl

lemma fst_bind {σ α β : Type} (m : StateM σ α) (f : α → StateM σ β) (s : σ) :
    ((m >>= f) s).1 = (f (m s).1 (m s).2).1 := rfl

section

variable {σ : Type} [WordSource σ]

lemma between_eq (w : Width) (lo hi : Nat) (h : lo ≤ hi) (s : σ) :
    (between w lo hi h s).1 = lo + (below w (hi - lo + 1) (Nat.succ_pos _) s).1 := rfl

lemma le_between (w : Width) (lo hi : Nat) (h : lo ≤ hi) (s : σ) : lo ≤ (between w lo hi h s).1 := by
  rw [between_eq]
  exact Nat.le_add_right _ _

lemma between_le (w : Width) (lo hi : Nat) (h : lo ≤ hi) (s : σ) : (between w lo hi h s).1 ≤ hi := by
  have := (below w (hi - lo + 1) (Nat.succ_pos _) s).1.isLt
  rw [between_eq]
  omega

end

lemma exists_trailing_slashes (s : String) :
    ∃ stem slashes, s.toList = stem ++ List.replicate slashes '/' ∧ stem.getLast? ≠ some '/' ∧
      withoutTrailingSlashes s = String.ofList stem := by
  let p : Char → Bool := (· == '/')
  have hsplit : s.toList.reverse.takeWhile p ++ s.toList.reverse.dropWhile p = s.toList.reverse :=
    List.takeWhile_append_dropWhile
  have hslash : s.toList.reverse.takeWhile p = List.replicate (s.toList.reverse.takeWhile p).length '/' := by
    refine List.eq_replicate_iff.2 ⟨rfl, fun c hc => ?_⟩
    simpa [p] using List.all_eq_true.1 List.all_takeWhile c hc
  refine ⟨(s.toList.reverse.dropWhile p).reverse, (s.toList.reverse.takeWhile p).length, ?_, ?_, rfl⟩
  · rw [← List.reverse_replicate, ← hslash, ← List.reverse_append, hsplit, List.reverse_reverse]
  · rw [List.getLast?_reverse]
    intro hhead
    have := List.head?_dropWhile_not p s.toList.reverse
    rw [hhead] at this
    simp [p] at this

namespace ImageSpec

def IsUrl (spec : ImageSpec) (base text : String) : Prop :=
  ∃ stem slashes nonce, base.toList = stem ++ List.replicate slashes '/' ∧ stem.getLast? ≠ some '/' ∧
    nonce ≤ 999 ∧ text = s!"{String.ofList stem}/{spec.width}/{spec.height}?random={nonce}"

lemma isUrl_url (spec : ImageSpec) (base : String) {nonce : Nat} (h : nonce ≤ 999) :
    spec.IsUrl base (spec.url base nonce) := by
  obtain ⟨stem, slashes, hbase, hlast, hstem⟩ := exists_trailing_slashes base
  exact ⟨stem, slashes, nonce, hbase, hlast, h, by rw [url, hstem]⟩

lemma isUrl_drawUrl {σ : Type} [WordSource σ] (spec : ImageSpec) (base : String) (s : σ) :
    spec.IsUrl base (spec.drawUrl base s).1 := by
  rw [drawUrl]
  rw [fst_bind]
  exact spec.isUrl_url base (Nat.le_of_lt_succ (Fin.isLt _))

end ImageSpec

end Specimen
