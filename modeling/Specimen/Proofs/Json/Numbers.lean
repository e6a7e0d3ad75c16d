import Mathlib.Algebra.Order.Field.Rat
import Mathlib.Tactic.Linarith
import Specimen.Schema.Normal

namespace Specimen

namespace Binary64

def value (x : Binary64) : ℚ := (if x.negative then -1 else 1) * (x.scaled / 2 ^ 1074)

variable {x : Binary64}

lemma significand_pos (h : x.place ≠ 0) : 0 < x.significand := by
  rw [significand]
  split
  · exact Nat.pos_of_ne_zero h
  · exact Nat.add_pos_left (by decide) _

lemma scaled_eq_zero_iff : x.scaled = 0 ↔ x.isZero := by
  have hplace : x.isZero ↔ x.place = 0 := beq_iff_eq
  rw [hplace, scaled, Nat.shiftLeft_eq, Nat.mul_eq_zero]
  constructor
  · rintro (h | h)
    · exact Decidable.byContradiction fun hne => absurd h (Nat.ne_of_gt (significand_pos hne))
    · exact absurd h (Nat.ne_of_gt (Nat.two_pow_pos _))
  · intro h
    left
    rw [significand, h]
    rfl

lemma scaled_pos (h : ¬ x.isZero) : 0 < x.scaled := Nat.pos_of_ne_zero (mt scaled_eq_zero_iff.1 h)

lemma value_eq_zero_iff : x.value = 0 ↔ x.isZero := by
  have hunit : (2 : ℚ) ^ 1074 ≠ 0 := pow_ne_zero _ two_ne_zero
  have hsign : (if x.negative then -1 else 1 : ℚ) ≠ 0 := by split <;> simp
  rw [value, mul_eq_zero, or_iff_right hsign, div_eq_zero_iff, or_iff_left hunit, Nat.cast_eq_zero,
    scaled_eq_zero_iff]

lemma value_neg (h : ¬ x.isZero) (hn : x.negative) : x.value < 0 := by
  have hunit : (0 : ℚ) < 2 ^ 1074 := pow_pos two_pos _
  have hpos : (0 : ℚ) < x.scaled := Nat.cast_pos.2 (scaled_pos h)
  rw [value, if_pos hn, neg_one_mul, neg_lt_zero]
  exact div_pos hpos hunit

lemma value_eq_natCast_iff (hn : ¬ x.negative) {n : ℕ} : x.value = n ↔ x.scaled = n * 2 ^ 1074 := by
  have hunit : (2 : ℚ) ^ 1074 ≠ 0 := pow_ne_zero _ two_ne_zero
  rw [value, if_neg hn, one_mul, div_eq_iff hunit]
  have hcast : (n : ℚ) * 2 ^ 1074 = ((n * 2 ^ 1074 : ℕ) : ℚ) := by
    rw [Nat.cast_mul, Nat.cast_pow, Nat.cast_ofNat]
  rw [hcast, Nat.cast_inj]

lemma exactQuotient_eq_some_iff (m n k : ℕ) :
    (if m % 1 <<< k != 0 then none else some (m >>> k)) = some n ↔ m = n * 2 ^ k := by
  rw [Nat.one_shiftLeft, Nat.shiftRight_eq_div_pow]
  by_cases hm : m % 2 ^ k = 0
  · have hdvd : 2 ^ k ∣ m := Nat.dvd_of_mod_eq_zero hm
    rw [if_neg (by simp [hm]), Option.some.injEq, Nat.div_eq_iff_eq_mul_left (Nat.two_pow_pos k) hdvd]
  · rw [if_pos (bne_iff_ne.2 hm)]
    constructor
    · intro h
      cases h
    · intro h
      exact absurd (h ▸ Nat.mul_mod_left n (2 ^ k)) hm

lemma natural?_eq_some_iff {n : ℕ} : x.natural? = some n ↔ x.value = n := by
  rw [natural?]
  by_cases hz : x.isZero
  · rw [if_pos hz, value_eq_zero_iff.2 hz, Option.some.injEq, eq_comm, eq_comm (a := (0 : ℚ)), Nat.cast_eq_zero]
  rw [if_neg hz]
  by_cases hn : x.negative
  · have hlt : x.value < 0 := value_neg hz hn
    have hne : x.value ≠ n := ne_of_lt (lt_of_lt_of_le hlt n.cast_nonneg)
    simp [hn, hne]
  · rw [value_eq_natCast_iff hn, Bool.eq_false_of_not_eq_true hn, Bool.false_or]
    exact exactQuotient_eq_some_iff x.scaled n 1074

end Binary64

namespace Json

namespace Number

def value : Number → ℚ
  | .natural n => n.toNat
  | .negative below => -1 - below.val
  | .double x => x.value

theorem whole?_eq_some_iff {n : Number} {k : UInt64} : n.whole? = some k ↔ n.value = k.toNat := by
  cases n with
  | natural m => rw [whole?, value, Option.some.injEq, Nat.cast_inj, UInt64.toNat_inj]
  | negative below =>
    have hbelow : (0 : ℚ) ≤ below.val := Nat.cast_nonneg _
    have hk : (0 : ℚ) ≤ k.toNat := Nat.cast_nonneg _
    have hne : (-1 - below.val : ℚ) ≠ k.toNat := by linarith
    simp [whole?, value, hne]
  | double x =>
    rw [value, ← Binary64.natural?_eq_some_iff]
    simp only [whole?]
    cases x.natural? with
    | none => simp
    | some m =>
      by_cases hm : m < UInt64.size
      · simp only [hm, if_true, Option.some.injEq]
        rw [← UInt64.toNat_inj, UInt64.toNat_ofNat_of_lt' hm]
      · have hne : m ≠ k.toNat := fun h => hm (h ▸ k.toNat_lt)
        simp [hm, hne]

end Number

lemma whole?_eq_some_iff {v : Json} {k : UInt64} :
    v.whole? = some k ↔ ∃ n : Number, v = .num n ∧ n.value = k.toNat := by
  cases v <;> simp [whole?, Number.whole?_eq_some_iff]

inductive Falsy : Json → Prop
  | null : Falsy .null
  | bool : Falsy (.bool false)
  | num {n} : n.value = 0 → Falsy (.num n)
  | str : Falsy (.str "")

lemma Number.isTruthy_iff (n : Number) : (Json.num n).isTruthy ↔ n.value ≠ 0 := by
  cases n with
  | natural m =>
    rw [isTruthy, bne_iff_ne, value, Ne, Ne, Nat.cast_eq_zero, ← UInt64.toNat_inj]
    rfl
  | negative below =>
    have hbelow : (0 : ℚ) ≤ below.val := Nat.cast_nonneg _
    have hne : (-1 - below.val : ℚ) ≠ 0 := by linarith
    simp [isTruthy, value, hne]
  | double x => simp [isTruthy, value, Binary64.value_eq_zero_iff]

theorem isTruthy_iff (v : Json) : v.isTruthy ↔ ¬ v.Falsy := by
  cases v with
  | null => simp [isTruthy, Falsy.null]
  | bool b =>
    cases b with
    | true => exact ⟨fun _ h => (by cases h), fun _ => rfl⟩
    | false => simp [isTruthy, Falsy.bool]
  | num n =>
    rw [n.isTruthy_iff]
    exact ⟨fun h hf => by cases hf with | num hz => exact h hz, fun h hz => h (.num hz)⟩
  | str s =>
    rw [isTruthy, bne_iff_ne]
    exact ⟨fun h hf => by cases hf; exact h rfl, fun h he => h (he ▸ .str)⟩
  | arr items | obj members => exact ⟨fun _ h => (by cases h), fun _ => rfl⟩

end Json

end Specimen
