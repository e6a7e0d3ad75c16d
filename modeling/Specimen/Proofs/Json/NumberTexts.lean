import Mathlib.Data.List.Basic
import Specimen.Json.Lexeme
import Specimen.Json.Printer
import Specimen.Proofs.Json.Numbers

namespace Specimen

namespace Binary64

variable {x : Binary64}

lemma lowerBound_pos (h : ¬ x.isZero) : 0 < x.lowerBound := by
  have hplace : x.place ≠ 0 := mt beq_iff_eq.2 h
  have hsig := significand_pos hplace
  rw [lowerBound]
  split
  · rw [Nat.shiftLeft_eq]
    exact Nat.mul_pos (by omega) (Nat.two_pow_pos _)
  · rw [Nat.shiftLeft_eq]
    exact Nat.mul_pos (by omega) (Nat.two_pow_pos _)

lemma pos_of_covers (h : ¬ x.isZero) {num den : Nat} (hden : 0 < den) (hc : x.covers num den) : 0 < num := by
  have hlow := Nat.mul_pos (lowerBound_pos h) hden
  rw [covers] at hc
  split at hc
  · exact Nat.lt_of_lt_of_le hlow (of_decide_eq_true hc).1
  · exact Nat.lt_trans hlow (of_decide_eq_true hc).1

lemma pos_of_onGrid? (h : ¬ x.isZero) {e : Int} {d : Nat} (hd : x.onGrid? e = some d) : 0 < d := by
  have hden : 0 < if 0 ≤ e then 1 else Nat.pow 10 (-e).toNat := by
    split
    · exact Nat.one_pos
    · exact Nat.pow_pos (by decide)
  simp only [onGrid?] at hd
  generalize (if 0 ≤ e then 1 else Nat.pow 10 (-e).toNat) = den at hd hden
  generalize (if 0 ≤ e then Nat.pow 10 e.toNat <<< 1076 else 1 <<< 1076) = unit at hd
  generalize 4 * x.scaled * den / unit = below at hd
  -- the number below is chosen only where it rounds to `x`, and zero does not
  have hbelow (hc : x.covers (below * unit) den = true) : 0 < below :=
    Nat.pos_of_mul_pos_right (pos_of_covers h hden hc)
  split at hd
  · rename_i hboth
    rw [Bool.and_eq_true] at hboth
    cases hd
    split
    · exact hbelow hboth.1
    · exact Nat.succ_pos below
  · split at hd
    · rename_i hc
      cases hd
      exact hbelow hc
    · split at hd
      · cases hd
        exact Nat.succ_pos below
      · cases hd

lemma shortest_eq_zero (h : ¬ x.isZero) (hd : x.shortest.digits = 0) : x.shortest = ⟨0, 0⟩ := by
  simp only [shortest] at hd ⊢
  generalize hf : List.findSome? _ (List.range 700) = found at hd ⊢
  cases found with
  | none => rfl
  | some d =>
    obtain ⟨i, -, hi⟩ := List.exists_of_findSome?_eq_some hf
    obtain ⟨digits, hg, rfl⟩ := Option.map_eq_some_iff.1 hi
    exact absurd hd (Nat.ne_of_gt (pos_of_onGrid? h hg))

end Binary64

namespace Json

def EndsNumber (rest : List Char) : Prop :=
  ∀ c ∈ rest.head?, c.isDigit = false ∧ c ≠ '.' ∧ c ≠ 'e' ∧ c ≠ 'E'

lemma endsNumber_nil : EndsNumber [] := by simp [EndsNumber]

section digits

variable {ds rest : List Char}

def AllDigits (ds : List Char) : Prop := ∀ c ∈ ds, c.isDigit

def EndsDigits (rest : List Char) : Prop := ∀ c ∈ rest.head?, c.isDigit = false

lemma EndsNumber.endsDigits (h : EndsNumber rest) : EndsDigits rest := fun c hc => (h c hc).1

lemma allDigits_toDigits (n : Nat) : AllDigits (Nat.toDigits 10 n) :=
  fun _ hc => Nat.isDigit_of_mem_toDigits (by decide) (by decide) hc

lemma takeWhile_digits (hd : AllDigits ds) (h : EndsDigits rest) : (ds ++ rest).takeWhile Char.isDigit = ds := by
  rw [List.takeWhile_append_of_pos hd]
  cases rest with
  | nil => simp
  | cons c r => simp [h c rfl]

lemma dropWhile_digits (hd : AllDigits ds) (h : EndsDigits rest) : (ds ++ rest).dropWhile Char.isDigit = rest := by
  have := List.takeWhile_append_dropWhile (p := Char.isDigit) (l := ds ++ rest)
  rw [takeWhile_digits hd h] at this
  exact List.append_cancel_left this

lemma head?_toDigits {n : Nat} (h : 0 < n) : (Nat.toDigits 10 n).head? ≠ some '0' := by
  induction n using Nat.strongRecOn with
  | ind n ih =>
    by_cases hn : n < 10
    · clear ih
      rw [Nat.toDigits_of_lt_base hn]
      revert h
      revert n
      decide
    · rw [Nat.toDigits_of_base_le (by decide) (Nat.not_lt.1 hn),
      List.head?_append_of_ne_nil _ Nat.toDigits_ne_nil]
      exact ih (n / 10) (by omega) (by omega)

end digits

section parts

variable {ds fs rest : List Char}

lemma fractionPart_digits (hne : fs ≠ []) (hd : AllDigits fs) (h : EndsDigits rest) :
    fractionPart ('.' :: (fs ++ rest)) = .ok (some fs, rest) := by
  rw [fractionPart]
  simp only [takeWhile_digits hd h, dropWhile_digits hd h, if_neg hne]

lemma fractionPart_none (h : rest.head? ≠ some '.') : fractionPart rest = .ok (none, rest) := by
  unfold fractionPart
  split
  · exact absurd rfl h
  · rfl

lemma exponentPart_none (h : EndsNumber rest) : exponentPart rest = .ok (none, rest) := by
  unfold exponentPart
  split
  · rfl
  · rename_i c r
    rw [if_neg]
    rintro (rfl | rfl)
    · exact (h 'e' rfl).2.2.1 rfl
    · exact (h 'E' rfl).2.2.2 rfl

lemma exponentText_eq (e : Int) :
    numberLayout.exponentText e = 'e' :: (if e < 0 then '-' else '+') :: Nat.toDigits 10 e.natAbs := by
  simp only [DecimalLayout.exponentText, numberLayout]
  split <;> simp

lemma exponentPart_minus (r : List Char) : exponentPart ('e' :: '-' :: r) =
    if r.takeWhile Char.isDigit = [] then .error .malformed
    else .ok (some (-(digitsOf (r.takeWhile Char.isDigit) : Int)), r.dropWhile Char.isDigit) := rfl

lemma exponentPart_plus (r : List Char) : exponentPart ('e' :: '+' :: r) =
    if r.takeWhile Char.isDigit = [] then .error .malformed
    else .ok (some (digitsOf (r.takeWhile Char.isDigit) : Int), r.dropWhile Char.isDigit) := rfl

lemma exponentPart_text (e : Int) :
    ∃ k, ∀ rest, EndsNumber rest → exponentPart (numberLayout.exponentText e ++ rest) = .ok (some k, rest) := by
  have hd := allDigits_toDigits e.natAbs
  have hne : Nat.toDigits 10 e.natAbs ≠ [] := Nat.toDigits_ne_nil
  rw [exponentText_eq]
  split
  · refine ⟨-(digitsOf (Nat.toDigits 10 e.natAbs) : Int), fun rest h => ?_⟩
    rw [List.cons_append, List.cons_append, exponentPart_minus, takeWhile_digits hd h.endsDigits,
      dropWhile_digits hd h.endsDigits, if_neg hne]
  · refine ⟨digitsOf (Nat.toDigits 10 e.natAbs), fun rest h => ?_⟩
    rw [List.cons_append, List.cons_append, exponentPart_plus, takeWhile_digits hd h.endsDigits,
      dropWhile_digits hd h.endsDigits, if_neg hne]

structure IsWhole (ds : List Char) : Prop where
  digits : AllDigits ds
  ne_nil : ds ≠ []
  head : ds.head? = some '0' → ds = ['0']

lemma isWhole_toDigits (n : Nat) : IsWhole (Nat.toDigits 10 n) where
  digits := allDigits_toDigits n
  ne_nil := Nat.toDigits_ne_nil
  head hhead := by
    rcases Nat.eq_zero_or_pos n with rfl | hpos
    · exact Nat.toDigits_zero 10
    · exact absurd hhead (head?_toDigits hpos)

lemma unsignedLexeme_parts {negative : Bool} {s t : List Char} {fraction : Option (List Char)} {exponent : Option Int}
    (hw : IsWhole ds) (hs : EndsDigits s) (hf : fractionPart s = .ok (fraction, t))
    (he : exponentPart t = .ok (exponent, rest)) :
    unsignedLexeme negative (ds ++ s) = .ok (⟨negative, ds, fraction, exponent⟩, rest) := by
  have hzero : ¬ (ds = [] ∨ ds.head? = some '0' ∧ ds ≠ ['0']) := by
    rintro (hnil | ⟨hhead, hne⟩)
    · exact hw.ne_nil hnil
    · exact hne (hw.head hhead)
  rw [unsignedLexeme, takeWhile_digits hw.digits hs, dropWhile_digits hw.digits hs, if_neg hzero, hf]
  simp only [he]

lemma unsignedLexeme_toDigits (negative : Bool) (h : EndsNumber rest) (n : Nat) :
    unsignedLexeme negative (Nat.toDigits 10 n ++ rest) =
      .ok (⟨negative, Nat.toDigits 10 n, none, none⟩, rest) :=
  unsignedLexeme_parts (isWhole_toDigits n) h.endsDigits
    (fractionPart_none fun hdot => (h '.' hdot).2.1 rfl) (exponentPart_none h)

end parts

section forms

def IsTail (t : List Char) : Prop :=
  ∃ fraction exponent, ∀ rest, EndsNumber rest → EndsDigits (t ++ rest) ∧
    ∃ u, fractionPart (t ++ rest) = .ok (fraction, u) ∧ exponentPart u = .ok (exponent, rest)

lemma isTail_nil : IsTail [] :=
  ⟨none, none, fun rest h =>
    ⟨h.endsDigits, rest, fractionPart_none fun hdot => (h '.' hdot).2.1 rfl, exponentPart_none h⟩⟩

lemma isTail_fraction {fs : List Char} (hne : fs ≠ []) (hd : AllDigits fs) : IsTail ('.' :: fs) :=
  ⟨some fs, none, fun rest h =>
    ⟨by simp [EndsDigits], rest, fractionPart_digits hne hd h.endsDigits, exponentPart_none h⟩⟩

lemma endsDigits_exponentText (e : Int) (rest : List Char) : EndsDigits (numberLayout.exponentText e ++ rest) := by
  simp [EndsDigits, exponentText_eq]

lemma isTail_exponent (e : Int) : IsTail (numberLayout.exponentText e) := by
  obtain ⟨k, hk⟩ := exponentPart_text e
  refine ⟨none, some k, fun rest h => ⟨endsDigits_exponentText e rest, _, fractionPart_none ?_, hk rest h⟩⟩
  simp [exponentText_eq]

lemma isTail_fraction_exponent {fs : List Char} (hne : fs ≠ []) (hd : AllDigits fs) (e : Int) :
    IsTail ('.' :: fs ++ numberLayout.exponentText e) := by
  obtain ⟨k, hk⟩ := exponentPart_text e
  refine ⟨some fs, some k, fun rest h => ⟨by simp [EndsDigits], _, ?_, hk rest h⟩⟩
  rw [List.cons_append, List.cons_append, List.append_assoc]
  exact fractionPart_digits hne hd (endsDigits_exponentText e rest)

def IsUnsigned (t : List Char) : Prop := ∃ ds tail, t = ds ++ tail ∧ IsWhole ds ∧ IsTail tail

lemma isUnsigned_toDigits (n : Nat) : IsUnsigned (Nat.toDigits 10 n) :=
  ⟨_, [], (List.append_nil _).symm, isWhole_toDigits n, isTail_nil⟩

lemma allDigits_replicate (n : Nat) : AllDigits (List.replicate n '0') := fun c hc => by
  rw [List.eq_of_mem_replicate hc]
  rfl

lemma AllDigits.append {ds es : List Char} (hd : AllDigits ds) (he : AllDigits es) : AllDigits (ds ++ es) :=
  List.forall_mem_append.2 ⟨hd, he⟩

lemma IsWhole.take {ds : List Char} (h : IsWhole ds) (n : Nat) : IsWhole (ds.take (n + 1)) where
  digits := fun c hc => h.digits c (List.mem_of_mem_take hc)
  ne_nil := by simpa using h.ne_nil
  head hhead := by
    rw [List.head?_take, if_neg (Nat.succ_ne_zero n)] at hhead
    rw [h.head hhead, List.take_of_length_le (by simp)]

lemma isWhole_single {c : Char} (h : c.isDigit) : IsWhole [c] where
  digits := List.forall_mem_singleton.2 h
  ne_nil := List.cons_ne_nil _ _
  head hhead := by
    cases hhead
    rfl

lemma isUnsigned_decimalText (d : Decimal) (h : d.digits = 0 → d.exponent = 0) :
    IsUnsigned (numberLayout.decimalText d) := by
  have hw := isWhole_toDigits d.digits
  have hpoint : IsTail ['.', '0'] := isTail_fraction (List.cons_ne_nil _ _) (by simp [AllDigits])
  have hlen : 0 < (Nat.toDigits 10 d.digits).length := List.length_pos_of_ne_nil hw.ne_nil
  simp only [DecimalLayout.decimalText]
  generalize hlead : d.exponent + ((Nat.toDigits 10 d.digits).length : Int) - 1 = lead
  have hdrop (n : Nat) (hn : n < (Nat.toDigits 10 d.digits).length) : (Nat.toDigits 10 d.digits).drop n ≠ [] := by
    simpa using hn
  have hrest (n : Nat) : AllDigits ((Nat.toDigits 10 d.digits).drop n) :=
    fun c hc => hw.digits c (List.mem_of_mem_drop hc)
  by_cases hplain : numberLayout.leastPlain ≤ lead ∧ lead ≤ numberLayout.greatestPlain
  · rw [if_pos hplain]
    by_cases he : 0 ≤ d.exponent
    · rw [if_pos he]
      refine ⟨_, _, rfl, ⟨hw.digits.append (allDigits_replicate _), by simp [hw.ne_nil], fun hhead => ?_⟩, hpoint⟩
      rw [List.head?_append_of_ne_nil _ hw.ne_nil] at hhead
      rcases Nat.eq_zero_or_pos d.digits with hzero | hpos
      · simp [hzero, h hzero]
      · exact absurd hhead (head?_toDigits hpos)
    · rw [if_neg he]
      by_cases hl : 0 ≤ lead
      · rw [if_pos hl]
        exact ⟨_, _, rfl, hw.take _, isTail_fraction (hdrop _ (by omega)) (hrest _)⟩
      · rw [if_neg hl]
        refine ⟨['0'], '.' :: (List.replicate ((-lead).toNat - 1) '0' ++ Nat.toDigits 10 d.digits), rfl,
          isWhole_single rfl, isTail_fraction (by simp [hw.ne_nil]) ((allDigits_replicate _).append hw.digits)⟩
  · rw [if_neg hplain]
    by_cases hone : (Nat.toDigits 10 d.digits).length = 1
    · rw [if_pos hone]
      exact ⟨_, _, rfl, hw, isTail_exponent lead⟩
    · rw [if_neg hone]
      refine ⟨_, '.' :: (Nat.toDigits 10 d.digits).drop 1 ++ numberLayout.exponentText lead, by simp, hw.take 0,
        isTail_fraction_exponent (hdrop 1 (by omega)) (hrest 1) lead⟩

lemma exists_isUnsigned (n : Number) : ∃ t, IsUnsigned t ∧ (n.text = t ∨ n.text = '-' :: t) := by
  cases n with
  | natural n => exact ⟨_, isUnsigned_toDigits n.toNat, .inl rfl⟩
  | negative m => exact ⟨_, isUnsigned_toDigits (m.val + 1), .inr rfl⟩
  | double x =>
    have hbody : IsUnsigned (if x.isZero then ['0', '.', '0'] else numberLayout.decimalText x.shortest) := by
      split
      · exact ⟨['0'], ['.', '0'], rfl, isWhole_single rfl, isTail_fraction (List.cons_ne_nil _ _) (by simp [AllDigits])⟩
      · rename_i hzero
        refine isUnsigned_decimalText _ fun hd => ?_
        rw [Binary64.shortest_eq_zero hzero hd]
    rw [Number.text, DecimalLayout.text]
    split
    · exact ⟨_, hbody, .inr rfl⟩
    · exact ⟨_, hbody, .inl rfl⟩

lemma IsUnsigned.head {t : List Char} (h : IsUnsigned t) : ∃ c r, t = c :: r ∧ c.isDigit := by
  obtain ⟨ds, tail, rfl, hw, -⟩ := h
  obtain ⟨c, r, rfl⟩ := List.exists_cons_of_ne_nil hw.ne_nil
  exact ⟨c, r ++ tail, rfl, hw.digits c List.mem_cons_self⟩

lemma head_of_text (rest : List Char) (n : Number) : ∃ c r, n.text ++ rest = c :: r ∧ (c = '-' ∨ c.isDigit) := by
  obtain ⟨t, ht, h | h⟩ := exists_isUnsigned n
  · obtain ⟨c, r, rfl, hc⟩ := ht.head
    exact ⟨c, r ++ rest, by rw [h, List.cons_append], .inr hc⟩
  · exact ⟨'-', t ++ rest, by rw [h, List.cons_append], .inl rfl⟩

lemma IsUnsigned.lexeme {t : List Char} (ht : IsUnsigned t) (negative : Bool) :
    ∃ l, ∀ rest, EndsNumber rest → unsignedLexeme negative (t ++ rest) = .ok (l, rest) := by
  obtain ⟨ds, tail, rfl, hw, fraction, exponent, htail⟩ := ht
  refine ⟨⟨negative, ds, fraction, exponent⟩, fun rest h => ?_⟩
  obtain ⟨hends, u, hf, he⟩ := htail rest h
  rw [List.append_assoc]
  exact unsignedLexeme_parts hw hends hf he

lemma lexeme_of_isUnsigned {t : List Char} (ht : IsUnsigned t) (rest : List Char) :
    Json.lexeme (t ++ rest) = unsignedLexeme false (t ++ rest) := by
  obtain ⟨c, r, rfl, hc⟩ := ht.head
  unfold Json.lexeme
  split
  · rename_i hr
    cases hr
    exact absurd hc (by decide)
  · rfl

lemma exists_lexeme (n : Number) : ∃ l, ∀ rest, EndsNumber rest → lexeme (n.text ++ rest) = .ok (l, rest) := by
  obtain ⟨t, ht, htext | htext⟩ := exists_isUnsigned n
  · obtain ⟨l, hl⟩ := ht.lexeme false
    refine ⟨l, fun rest h => ?_⟩
    rw [htext, lexeme_of_isUnsigned ht]
    exact hl rest h
  · obtain ⟨l, hl⟩ := ht.lexeme true
    refine ⟨l, fun rest h => ?_⟩
    rw [htext]
    exact hl rest h

lemma number?_natural (n : UInt64) : Lexeme.number? ⟨false, Nat.toDigits 10 n.toNat, none, none⟩ = some (.natural n) := by
  have : digitsOf (Nat.toDigits 10 n.toNat) = n.toNat := Nat.ofDigitChars_ten_toDigits
  simp [Lexeme.number?, Lexeme.isInteger, this, n.toNat_lt]

lemma number?_negative (m : Fin (1 <<< 63)) :
    Lexeme.number? ⟨true, Nat.toDigits 10 (m.val + 1), none, none⟩ = some (.negative m) := by
  have : digitsOf (Nat.toDigits 10 (m.val + 1)) = m.val + 1 := Nat.ofDigitChars_ten_toDigits
  simp [Lexeme.number?, Lexeme.isInteger, this]

lemma lexeme_text (n : Number) (hn : ∀ x, n ≠ .double x) :
    ∃ l, l.number? = some n ∧ ∀ rest, EndsNumber rest → lexeme (n.text ++ rest) = .ok (l, rest) := by
  cases n with
  | natural n =>
    refine ⟨_, number?_natural n, fun rest h => ?_⟩
    rw [Number.text, lexeme_of_isUnsigned (isUnsigned_toDigits n.toNat)]
    exact unsignedLexeme_toDigits false h n.toNat
  | negative m => exact ⟨_, number?_negative m, fun rest h => unsignedLexeme_toDigits true h (m.val + 1)⟩
  | double x => exact absurd rfl (hn x)

end forms

end Json

end Specimen
