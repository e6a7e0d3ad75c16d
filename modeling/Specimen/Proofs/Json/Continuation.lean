import Mathlib.Data.List.TakeWhile
import Specimen.Proofs.Json.RoundTrip

/-! What is read from a text is read from its continuation as well, if that does not lengthen a number at its end. -/

namespace Specimen.Json

open Reading

variable {s r more : List Char}

section lexemes

lemma takeWhile_append_digits (h : EndsDigits more) :
    (s ++ more).takeWhile Char.isDigit = s.takeWhile Char.isDigit := by
  induction s with
  | nil =>
    cases more with
    | nil => rfl
    | cons c t => simp [h c rfl]
  | cons c s ih => by_cases hc : c.isDigit <;> simp [hc, ih]

lemma dropWhile_append_digits (h : EndsDigits more) :
    (s ++ more).dropWhile Char.isDigit = s.dropWhile Char.isDigit ++ more := by
  have hs : s.takeWhile Char.isDigit ++ (s.dropWhile Char.isDigit ++ more) = s ++ more := by
    rw [← List.append_assoc, List.takeWhile_append_dropWhile]
  have hall := List.takeWhile_append_dropWhile (p := Char.isDigit) (l := s ++ more)
  rw [takeWhile_append_digits h] at hall
  exact List.append_cancel_left (hall.trans hs.symm)

lemma fractionPart_append (h : EndsNumber more) {f : Option (List Char)} (hf : fractionPart s = .ok (f, r)) :
    fractionPart (s ++ more) = .ok (f, r ++ more) := by
  unfold fractionPart at hf
  split at hf
  · rename_i t
    rw [List.cons_append, fractionPart]
    simp only [takeWhile_append_digits h.endsDigits, dropWhile_append_digits h.endsDigits]
    dsimp only at hf
    split at hf
    · cases hf
    · rename_i hne
      cases hf
      rw [if_neg hne]
  · rename_i hne
    cases hf
    refine fractionPart_none fun hhead => ?_
    cases s with
    | nil => exact (h _ hhead).2.1 rfl
    | cons c t => exact hne t (congrArg (· :: t) (Option.some.inj hhead))

def signed : List Char → Bool × List Char
  | '-' :: t => (true, t)
  | '+' :: t => (false, t)
  | t => (false, t)

lemma exponentPart_eq {c : Char} (hc : c = 'e' ∨ c = 'E') (t : List Char) : exponentPart (c :: t) =
    if (signed t).2.takeWhile Char.isDigit = [] then .error .malformed
    else .ok (some (if (signed t).1 then -(digitsOf ((signed t).2.takeWhile Char.isDigit) : Int)
      else digitsOf ((signed t).2.takeWhile Char.isDigit)), (signed t).2.dropWhile Char.isDigit) := by
  rcases hc with rfl | rfl <;> rfl

lemma signed_append (c : Char) (t more : List Char) :
    signed (c :: t ++ more) = ((signed (c :: t)).1, (signed (c :: t)).2 ++ more) := by
  by_cases hminus : c = '-'
  · subst hminus
    rfl
  · by_cases hplus : c = '+'
    · subst hplus
      rfl
    · simp [signed, hminus, hplus]

lemma exponentPart_append (h : EndsNumber more) {e : Option Int} (he : exponentPart s = .ok (e, r)) :
    exponentPart (s ++ more) = .ok (e, r ++ more) := by
  cases s with
  | nil =>
    cases he
    exact exponentPart_none h
  | cons c t =>
    by_cases hc : c = 'e' ∨ c = 'E'
    · rw [List.cons_append, exponentPart_eq hc]
      rw [exponentPart_eq hc] at he
      split at he
      · cases he
      · rename_i hne
        cases t with
        | nil => exact absurd rfl hne
        | cons d u =>
          cases he
          rw [signed_append, takeWhile_append_digits h.endsDigits, dropWhile_append_digits h.endsDigits, if_neg hne]
    · have hplain (u : List Char) : exponentPart (c :: u) = .ok (none, c :: u) := if_neg hc
      rw [hplain] at he
      cases he
      exact hplain (t ++ more)

lemma unsignedLexeme_append (h : EndsNumber more) {negative : Bool} {l : Lexeme}
    (hl : unsignedLexeme negative s = .ok (l, r)) : unsignedLexeme negative (s ++ more) = .ok (l, r ++ more) := by
  unfold unsignedLexeme at hl ⊢
  rw [takeWhile_append_digits h.endsDigits, dropWhile_append_digits h.endsDigits]
  split at hl
  · cases hl
  · rename_i hwhole
    rw [if_neg hwhole]
    cases hf : fractionPart (s.dropWhile Char.isDigit) with
    | error f => simp [hf] at hl
    | ok p =>
      obtain ⟨fraction, t⟩ := p
      rw [hf] at hl
      rw [fractionPart_append h hf]
      dsimp only at hl ⊢
      cases he : exponentPart t with
      | error f => simp [he] at hl
      | ok q =>
        obtain ⟨exponent, u⟩ := q
        rw [he] at hl
        rw [exponentPart_append h he]
        cases hl
        rfl

lemma lexeme_append (h : EndsNumber more) {l : Lexeme} (hl : lexeme s = .ok (l, r)) :
    lexeme (s ++ more) = .ok (l, r ++ more) := by
  unfold lexeme at hl
  split at hl
  · exact unsignedLexeme_append h hl
  · rename_i hne
    have hword := unsignedLexeme_append h hl
    cases s with
    | nil => cases hl
    | cons c t =>
      unfold lexeme
      split
      · rename_i heq
        exact absurd (congrArg (· :: t) (List.cons.inj heq).1) (hne t)
      · exact hword

lemma textBody_append {rigour : Rigour} {read t : List Char} (h : textBody rigour read s = .ok (t, r)) :
    textBody rigour read (s ++ more) = .ok (t, r ++ more) := by
  fun_induction textBody rigour read s with
  | case1 | case3 | case5 | case6 | case8 | case9 | case11 | case13 => cases h
  | case2 read u =>
    cases h
    rfl
  | case4 read a b c d u n hn hlenient ih =>
    simp only [List.cons_append, textBody, hn, if_pos hlenient]
    exact ih h
  | case7 read a b c d n hn hstrict hlow hhigh a' b' c' d' u m hm hpair ih =>
    simp only [List.cons_append, textBody, hn, hm, if_neg hstrict, if_neg hlow, if_pos hhigh, if_pos hpair]
    exact ih h
  | case10 read a b c d u n hn hstrict hlow hhigh ih =>
    simp only [List.cons_append, textBody, hn, if_neg hstrict, if_neg hlow, if_neg hhigh]
    exact ih h
  | case12 read c u _ e he ih =>
    rw [List.cons_append, List.cons_append, textBody_simple he]
    exact ih h
  | case14 read c u hquote _ _ hplain ih =>
    obtain ⟨hback, hprints⟩ := not_or.1 hplain
    rw [List.cons_append, textBody_plain hquote hback (Nat.not_lt.1 hprints)]
    exact ih h

end lexemes

section readers

lemma skipBlanks_append {c : Char} (h : skipBlanks s = c :: r) : skipBlanks (s ++ more) = c :: (r ++ more) := by
  induction s with
  | nil => cases h
  | cons d s ih =>
    by_cases hd : isBlank d
    · simp only [skipBlanks, List.cons_append, List.dropWhile_cons, hd, if_true] at h ⊢
      exact ih h
    · simp only [skipBlanks, List.cons_append, List.dropWhile_cons, hd] at h ⊢
      cases h
      rfl

lemma shift_append (more : List Char) : Shift (· ++ more) where
  blanks := skipBlanks_append
  length_le h := by
    rw [List.length_append, List.length_append]
    exact Nat.add_le_add_right h _
  name h := by
    obtain ⟨u, hs, t, ht, rfl⟩ := gives_name_iff.1 h
    exact gives_name_iff.2 ⟨u ++ more, skipBlanks_append hs, t, textBody_append ht, rfl⟩

variable {rigour : Rigour} (hmore : EndsNumber more)

include hmore

lemma follows_append_number : Follows (· ++ more) (number rigour) (number rigour) := by
  intro s n r h
  obtain ⟨l, hl, hn⟩ := gives_number_iff.1 h
  refine gives_number_iff.2 ⟨l, ?_, hn⟩
  cases hs : skipBlanks s with
  | nil =>
    rw [hs] at hl
    cases hl
  | cons c t =>
    rw [hs] at hl
    rw [skipBlanks_append hs]
    exact lexeme_append hmore hl

lemma follows_append_leaf : Follows (· ++ more) (leaf rigour) (leaf rigour) := by
  intro s v r h
  obtain ⟨c, t, hs, h⟩ := gives_leaf_iff.1 h
  refine gives_leaf_iff.2 ⟨c, t ++ more, skipBlanks_append hs, ?_⟩
  split at h
  · rename_i hquote
    obtain ⟨key, hkey, rfl⟩ := h
    exact (if_pos hquote).mpr ⟨key, (shift_append more).name hkey, rfl⟩
  · rename_i hquote
    rw [if_neg hquote]
    split at h
    · rename_i hnum
      obtain ⟨n, hn, rfl⟩ := h
      exact (if_pos hnum).mpr ⟨n, follows_append_number hmore s n r hn, rfl⟩
    · rename_i hnum
      rw [if_neg hnum]
      rcases h with ⟨rfl, rfl, rfl⟩ | ⟨rfl, rfl, rfl⟩ | ⟨rfl, rfl, rfl⟩ <;> simp

lemma gives_value_append {levels : Nat} {v : Json} (h : (value rigour levels s).Gives v r) :
    (value rigour levels (s ++ more)).Gives v (r ++ more) :=
  follows_value (shift_append more) (follows_append_leaf hmore) (Nat.le_refl levels) s v r h

end readers

section blanks

variable {rigour : Rigour} {levels : Nat} {s' rest : List Char} {v : Json}

lemma gives_leaf_congr (h : skipBlanks s' = skipBlanks s) :
    (leaf rigour s').Gives v rest ↔ (leaf rigour s).Gives v rest := by
  simp only [gives_leaf_iff, gives_name_iff, gives_number_iff, h]

lemma gives_value_congr (h : skipBlanks s' = skipBlanks s) :
    (value rigour levels s').Gives v rest ↔ (value rigour levels s).Gives v rest := by
  cases levels with
  | zero => exact gives_leaf_congr h
  | succ levels => simp only [gives_value_succ_iff, gives_leaf_congr h, h]

lemma skipBlanks_append_of_eq_nil {t more : List Char} (h : skipBlanks t = []) :
    skipBlanks (t ++ more) = skipBlanks more :=
  List.dropWhile_append_of_pos (List.dropWhile_eq_nil_iff.1 h)

lemma skipBlanks_padded (n : ℕ) (t : List Char) : skipBlanks (List.replicate n ' ' ++ t) = skipBlanks t :=
  List.dropWhile_append_of_pos fun c hc => by rw [List.eq_of_mem_replicate hc]; rfl

end blanks

end Specimen.Json
