import Specimen.Proofs.Json.NumberTexts
import Specimen.Request

namespace Specimen

namespace Json

def IsNumeral (v : Json) : Prop := AllDigits v.compact.toList

lemma exists_mark_mem_decimalText (d : Decimal) : ∃ c ∈ numberLayout.decimalText d, c = '.' ∨ c = 'e' := by
  have hexponent (e : Int) : 'e' ∈ numberLayout.exponentText e := by
    rw [exponentText_eq]
    exact List.mem_cons_self
  simp only [DecimalLayout.decimalText]
  split
  · refine ⟨'.', ?_, .inl rfl⟩
    split
    · simp
    · split <;> simp
  · refine ⟨'e', ?_, .inr rfl⟩
    split <;> exact List.mem_append_right _ (hexponent _)

lemma not_allDigits_double (x : Binary64) : ¬ AllDigits (Number.double x).text := by
  have hbody : ∃ c ∈ (if x.isZero then ['0', '.', '0'] else numberLayout.decimalText x.shortest),
      c = '.' ∨ c = 'e' := by
    split
    · exact ⟨'.', by simp, .inl rfl⟩
    · exact exists_mark_mem_decimalText _
  obtain ⟨c, hc, hmark⟩ := hbody
  have hmem : c ∈ (Number.double x).text := by
    rw [Number.text, DecimalLayout.text]
    split
    · exact List.mem_cons_of_mem _ hc
    · exact hc
  intro h
  have hdigit := h c hmem
  rcases hmark with rfl | rfl <;> exact absurd hdigit (by decide)

lemma isNumeral_iff {v : Json} : v.IsNumeral ↔ ∃ n, v = .num (.natural n) := by
  have hhead {c : Char} {l : List Char} (hc : c.isDigit = false) : ¬ AllDigits (c :: l) := fun h => by
    simp [h c List.mem_cons_self] at hc
  rw [IsNumeral, compact, String.toList_ofList]
  cases v with
  | num n =>
    rw [write, List.append_nil]
    cases n with
    | natural n => exact ⟨fun _ => ⟨n, rfl⟩, fun _ => allDigits_toDigits n.toNat⟩
    | negative below => exact iff_of_false (hhead rfl) (by simp)
    | double x => exact iff_of_false (not_allDigits_double x) (by simp)
  | null => exact iff_of_false (by rw [write]; exact hhead rfl) (by simp)
  | bool b => cases b <;> exact iff_of_false (by rw [write]; exact hhead rfl) (by simp)
  | str s => exact iff_of_false (by rw [write, writeText]; exact hhead rfl) (by simp)
  | arr items => cases items <;> exact iff_of_false (by rw [write]; exact hhead rfl) (by simp)
  | obj members =>
    rcases members with _ | ⟨⟨name, v⟩, members⟩ <;> exact iff_of_false (by rw [write]; exact hhead rfl) (by simp)

lemma natural?_eq_some_iff {v : Json} {n : UInt64} : v.natural? = some n ↔ v = .num (.natural n) := by
  cases v with
  | num m => cases m <;> simp [natural?]
  | null | bool | str | arr | obj => simp [natural?]

lemma natural?_eq_none_iff {v : Json} : v.natural? = none ↔ ¬ v.IsNumeral := by
  rw [isNumeral_iff, Option.eq_none_iff_forall_ne_some, not_exists]
  exact forall_congr' fun n => not_congr natural?_eq_some_iff

lemma falsy_natural_iff {n : UInt64} : (num (.natural n)).Falsy ↔ n = 0 := by
  rw [← not_iff_not, ← isTruthy_iff, isTruthy, bne_iff_ne]

namespace Lexeme

variable {l : Lexeme} {m : Number}

lemma number?_eq_natural_iff {n : UInt64} :
    l.number? = some (.natural n) ↔
      l.negative = false ∧ l.fraction = none ∧ l.exponent = none ∧ digitsOf l.whole = n.toNat := by
  have hinteger : l.isInteger ↔ l.fraction = none ∧ l.exponent = none := by
    rw [isInteger, Bool.and_eq_true, Option.isNone_iff_eq_none, Option.isNone_iff_eq_none]
  rw [number?]
  split
  · rename_i h
    simp only [Bool.and_eq_true, decide_eq_true_eq, hinteger, Bool.not_eq_true'] at h
    obtain ⟨⟨⟨hf, he⟩, hn⟩, hlt⟩ := h
    simp only [hf, he, hn, true_and, Option.some.injEq, Number.natural.injEq]
    rw [← UInt64.toNat_inj, UInt64.toNat_ofNat_of_lt' hlt]
  · rename_i h
    refine iff_of_false ?_ ?_
    · split
      · simp
      · simp
    · rintro ⟨hn, hf, he, hd⟩
      refine h ?_
      simp only [Bool.and_eq_true, decide_eq_true_eq, hinteger, Bool.not_eq_true']
      exact ⟨⟨⟨hf, he⟩, hn⟩, hd ▸ n.toNat_lt⟩

lemma value_of_zero (h : l.number? = some m) (hzero : digitsOf (l.whole ++ l.fraction.getD []) = 0) : m.value = 0 := by
  have hwhole : l.isInteger → digitsOf l.whole = 0 := fun hint => by
    rw [isInteger, Bool.and_eq_true, Option.isNone_iff_eq_none] at hint
    simpa [hint.1] using hzero
  rw [number?] at h
  split at h
  · rename_i hint
    simp only [Bool.and_eq_true] at hint
    cases h
    rw [hwhole hint.1.1]
    rfl
  · split at h
    · rename_i hneg
      exact absurd hneg.2.2.1 (by rw [hwhole hneg.1]; exact Nat.lt_irrefl 0)
    · rw [double?, Binary64.ofDecimal?, if_pos hzero] at h
      cases h
      rw [Number.value, Binary64.value_eq_zero_iff]
      rfl

end Lexeme

end Json

namespace Request

open Json

inductive Missing : Option Json → Prop
  | absent : Missing none
  | falsy {v} : v.Falsy → Missing (some v)

inductive Rejected (maxCount : UInt64) : Request → RequestError → String → Prop
  | missing {schema count} : Missing schema ∨ Missing count →
      Rejected maxCount ⟨schema, count⟩ .missingInput "Please provide a valid schema and count"
  | notPositive {schema count} : ¬ schema.Falsy → ¬ count.Falsy → ¬ count.IsNumeral →
      Rejected maxCount ⟨some schema, some count⟩ .countNotPositive "count must be a positive integer"
  | above {schema n} : ¬ schema.Falsy → maxCount < n →
      Rejected maxCount ⟨some schema, some (.num (.natural n))⟩ (.countAbove maxCount)
        s!"count must not exceed {maxCount}"
  | badSchema {schema n e} : ¬ schema.Falsy → 1 ≤ n → n ≤ maxCount → Schema.ofJson schema = .error e →
      Rejected maxCount ⟨some schema, some (.num (.natural n))⟩ (.badSchema e) e.message

variable {maxCount : UInt64} {r : Request} {e : RequestError}

lemma missing_or_present (r : Request) : (Missing r.schema ∨ Missing r.count) ∨
    ∃ v w, r = ⟨some v, some w⟩ ∧ ¬ v.Falsy ∧ ¬ w.Falsy := by
  obtain ⟨_ | v, _ | w⟩ := r
  · exact .inl (.inl .absent)
  · exact .inl (.inl .absent)
  · exact .inl (.inr .absent)
  · by_cases hv : v.Falsy
    · exact .inl (.inl (.falsy hv))
    by_cases hw : w.Falsy
    · exact .inl (.inr (.falsy hw))
    · exact .inr ⟨v, w, rfl, hv, hw⟩

lemma filter_isTruthy_of_missing {v : Option Json} (h : Missing v) : v.filter isTruthy = none := by
  cases h with
  | absent => rfl
  | falsy hv => exact Option.filter_some_eq_none.2 fun ht => (isTruthy_iff _).1 ht hv

lemma validate_of_missing (h : Missing r.schema ∨ Missing r.count) : r.validate maxCount = .error .missingInput := by
  rw [validate]
  rcases h with h | h
  · rw [filter_isTruthy_of_missing h]
  · rw [filter_isTruthy_of_missing h]
    split
    · rename_i heq
      cases heq
    · rfl

lemma filter_isTruthy_of_not_falsy {v : Json} (hv : ¬ v.Falsy) : (some v).filter isTruthy = some v :=
  Option.filter_some_pos ((isTruthy_iff v).2 hv)

section present

variable {v : Json} {n : UInt64} (hv : ¬ v.Falsy)

include hv

lemma validate_of_not_natural {w : Json} (hw : ¬ w.Falsy) (hn : w.natural? = none) :
    validate maxCount ⟨some v, some w⟩ = .error .countNotPositive := by
  simp only [validate, filter_isTruthy_of_not_falsy hv, filter_isTruthy_of_not_falsy hw, hn]

lemma validate_of_above (hlt : maxCount < n) :
    validate maxCount ⟨some v, some (.num (.natural n))⟩ = .error (.countAbove maxCount) := by
  have hw : ¬ (num (.natural n)).Falsy := by
    rw [falsy_natural_iff]
    rintro rfl
    exact absurd hlt (UInt64.not_lt.2 UInt64.zero_le)
  simp only [validate, filter_isTruthy_of_not_falsy hv, filter_isTruthy_of_not_falsy hw, natural?, if_pos hlt]

lemma validate_of_within (hn : 1 ≤ n) (hle : n ≤ maxCount) :
    validate maxCount ⟨some v, some (.num (.natural n))⟩ =
      ((Schema.ofJson v).mapError .badSchema).map fun s => ⟨s, n⟩ := by
  have hw : ¬ (num (.natural n)).Falsy := by
    rw [falsy_natural_iff]
    rintro rfl
    exact absurd hn (by decide)
  simp only [validate, filter_isTruthy_of_not_falsy hv, filter_isTruthy_of_not_falsy hw, natural?,
    if_neg (UInt64.not_lt.2 hle)]
  cases Schema.ofJson v <;> rfl

lemma validate_of_accepted {s : Schema} (hs : Schema.ofJson v = .ok s) (hn : 1 ≤ n) (hle : n ≤ maxCount) :
    validate maxCount ⟨some v, some (.num (.natural n))⟩ = .ok ⟨s, n⟩ := by
  rw [validate_of_within hv hn hle, hs]
  rfl

end present

lemma validate_of_rejected {message : String} (h : Rejected maxCount r e message) :
    r.validate maxCount = .error e ∧ e.message = message := by
  cases h with
  | missing h => exact ⟨validate_of_missing h, rfl⟩
  | notPositive hv hw hn => exact ⟨validate_of_not_natural hv hw (natural?_eq_none_iff.2 hn), rfl⟩
  | above hv hlt => exact ⟨validate_of_above hv hlt, rfl⟩
  | badSchema hv hn hle he =>
    refine ⟨?_, rfl⟩
    rw [validate_of_within hv hn hle, he]
    rfl

lemma rejected_or_accepted (maxCount : UInt64) (r : Request) : (∃ e message, Rejected maxCount r e message) ∨
    ∃ v n s, r = ⟨some v, some (.num (.natural n))⟩ ∧ ¬ v.Falsy ∧ Schema.ofJson v = .ok s ∧ 1 ≤ n ∧ n ≤ maxCount := by
  rcases missing_or_present r with h | ⟨v, w, rfl, hv, hw⟩
  · exact .inl ⟨_, _, .missing h⟩
  by_cases hnum : w.IsNumeral
  · obtain ⟨n, rfl⟩ := isNumeral_iff.1 hnum
    by_cases hlt : maxCount < n
    · exact .inl ⟨_, _, .above hv hlt⟩
    have hn : 0 < n.toNat := Nat.pos_of_ne_zero fun h => hw (falsy_natural_iff.2 (UInt64.toNat_inj.1 h))
    have hle : n ≤ maxCount := UInt64.not_lt.1 hlt
    cases hs : Schema.ofJson v with
    | error e => exact .inl ⟨_, _, .badSchema hv (UInt64.le_iff_toNat_le.2 hn) hle hs⟩
    | ok s => exact .inr ⟨v, n, s, rfl, hv, hs, UInt64.le_iff_toNat_le.2 hn, hle⟩
  · exact .inl ⟨_, _, .notPositive hv hw hnum⟩

lemma rejected_iff {message : String} :
    Rejected maxCount r e message ↔ r.validate maxCount = .error e ∧ e.message = message := by
  refine ⟨validate_of_rejected, ?_⟩
  rintro ⟨he, rfl⟩
  rcases rejected_or_accepted maxCount r with ⟨e', message', h⟩ | ⟨v, n, s, rfl, hv, hs, hn, hle⟩
  · obtain ⟨he', hmessage⟩ := validate_of_rejected h
    cases he.symm.trans he'
    exact hmessage ▸ h
  · rw [validate_of_accepted hv hs hn hle] at he
    cases he

lemma validate_eq_ok_iff {schema : Schema} {count : UInt64} :
    r.validate maxCount = .ok ⟨schema, count⟩ ↔
      (∃ v, r.schema = some v ∧ ¬ v.Falsy ∧ Schema.ofJson v = .ok schema) ∧
        r.count = some (.num (.natural count)) ∧ 1 ≤ count ∧ count ≤ maxCount := by
  constructor
  · intro h
    rcases rejected_or_accepted maxCount r with ⟨e, message, he⟩ | ⟨v, n, s, rfl, hv, hs, hn, hle⟩
    · cases h.symm.trans (validate_of_rejected he).1
    · cases h.symm.trans (validate_of_accepted hv hs hn hle)
      exact ⟨⟨v, rfl, hv, hs⟩, rfl, hn, hle⟩
  · obtain ⟨schema, count⟩ := r
    rintro ⟨⟨v, rfl, hv, hs⟩, rfl, hn, hle⟩
    exact validate_of_accepted hv hs hn hle

lemma validate_of_le {more : UInt64} {valid : ValidRequest} (hle : maxCount ≤ more)
    (h : r.validate maxCount = .ok valid) : r.validate more = .ok valid := by
  obtain ⟨hschema, hcount, hn, hmax⟩ := validate_eq_ok_iff.1 h
  exact validate_eq_ok_iff.2 ⟨hschema, hcount, hn, UInt64.le_trans hmax hle⟩

lemma count_of_badSchema {e : SchemaError} (h : r.validate maxCount = .error (.badSchema e)) :
    ∃ n, r.count = some (.num (.natural n)) ∧ 1 ≤ n ∧ n ≤ maxCount := by
  cases rejected_iff.2 ⟨h, rfl⟩ with
  | badSchema _ hn hle _ => exact ⟨_, rfl, hn, hle⟩

/-- A request holds integers of 64 bits and floating-point numbers, as what is written with a point, an exponent or
more digits is one of the latter. Of its errors the first counts, and one of the schema comes last. -/
theorem validate_decides (maxCount : UInt64) (r : Request) :
    (∀ schema count, r.validate maxCount = .ok ⟨schema, count⟩ ↔
      (∃ v, r.schema = some v ∧ ¬ v.Falsy ∧ Schema.ofJson v = .ok schema) ∧
        r.count = some (.num (.natural count)) ∧ 1 ≤ count ∧ count ≤ maxCount) ∧
    (∀ e message, r.validate maxCount = .error e ∧ e.message = message ↔ Rejected maxCount r e message) ∧
    (∀ valid more, maxCount ≤ more → r.validate maxCount = .ok valid → r.validate more = .ok valid) ∧
    (∀ e, r.validate maxCount = .error (.badSchema e) →
      ∃ n, r.count = some (.num (.natural n)) ∧ 1 ≤ n ∧ n ≤ maxCount) ∧
    (∀ v : Json, v.IsNumeral ↔ ∃ n, v = .num (.natural n)) ∧
    (∀ (l : Lexeme) n, l.number? = some (.natural n) ↔
      l.negative = false ∧ l.fraction = none ∧ l.exponent = none ∧ digitsOf l.whole = n.toNat) ∧
    ∀ (l : Lexeme) m, l.number? = some m → digitsOf (l.whole ++ l.fraction.getD []) = 0 → (num m).Falsy :=
  ⟨fun _ _ => validate_eq_ok_iff, fun _ _ => rejected_iff.symm, fun _ _ => validate_of_le, fun _ => count_of_badSchema,
    fun _ => isNumeral_iff, fun _ _ => Lexeme.number?_eq_natural_iff,
    fun _ _ h hzero => .num (Lexeme.value_of_zero h hzero)⟩

section

def invertedSchema : Json := .obj [("type", .str "array"), ("size", .arr [.nat 3, .nat 1]), ("schema", .str "name")]

theorem validate_decides_inverted :
    (ofCount (.obj []) 5).validate 100 = .ok ⟨.object [], 5⟩ ∧
    (∃ n, (ofCount invertedSchema 5).count = some (.num (.natural n)) ∧ 1 ≤ n ∧ n ≤ 10) ∧
    Rejected 10 (ofCount invertedSchema 5) (.badSchema (.sizesInverted [] 3 1))
      "invalid schema at schema: array size [3, 1] has min greater than max" ∧
    Rejected 10 (ofCount invertedSchema 11) (.countAbove 10) "count must not exceed 10" ∧
    Rejected 10 ⟨some invertedSchema, some (.str "5")⟩ .countNotPositive "count must be a positive integer" ∧
    Rejected 10 ⟨some (.str ""), some (.str "5")⟩ .missingInput "Please provide a valid schema and count" ∧
    (num (.double (.zero true))).Falsy := by
  obtain ⟨-, -, hmore, -, -, -, hzero⟩ := validate_decides 10 (ofCount (.obj []) 5)
  obtain ⟨-, hinverted, -, hcount, -⟩ := validate_decides 10 (ofCount invertedSchema 5)
  obtain ⟨-, habove, -⟩ := validate_decides 10 (ofCount invertedSchema 11)
  obtain ⟨-, htext, -⟩ := validate_decides 10 ⟨some invertedSchema, some (.str "5")⟩
  obtain ⟨-, hmissing, -⟩ := validate_decides 10 ⟨some (.str ""), some (.str "5")⟩
  exact ⟨hmore _ 100 (by decide) (by decide), hcount (.sizesInverted [] 3 1) (by decide), (hinverted _ _).1 (by decide),
    (habove _ _).1 (by decide), (htext _ _).1 (by decide), (hmissing _ _).1 (by decide),
    hzero ⟨true, ['0'], some ['0'], none⟩ _ (by decide) (by decide)⟩

end

end Request

end Specimen
