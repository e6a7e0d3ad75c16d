import Mathlib.Tactic.Lemma
import Specimen.Json.Reader

/-! Each loop and each kind of value is characterized by what it takes from the front of a text and what it leaves. -/

universe u v

namespace Specimen.Json

namespace Reading

variable {α : Type u} {β : Type v} {s t rest : List Char}

def Gives (m : Reading s α) (a : α) (rest : List Char) : Prop :=
  ∃ h : rest.length < s.length, m = .ok (a, ⟨rest, h⟩)

lemma gives_of_eq {m : Reading s α} {a : α} {r : Rest s} (h : m = .ok (a, r)) : m.Gives a r.1 := ⟨r.2, h⟩

@[simp] lemma gives_ok_iff {p : α × Rest s} {a : α} :
    Gives (.ok p : Reading s α) a rest ↔ p.1 = a ∧ p.2.1 = rest := by
  obtain ⟨b, r, hr⟩ := p
  constructor
  · rintro ⟨_, he⟩
    cases he
    exact ⟨rfl, rfl⟩
  · rintro ⟨rfl, rfl⟩
    exact ⟨hr, rfl⟩

@[simp] lemma not_gives_error {f : Fault} {a : α} : ¬ Gives (.error f : Reading s α) a rest := by
  rintro ⟨_, he⟩
  cases he

lemma exists_gives_iff {m : Reading s α} {a : α} {r : Rest s} (h : m = .ok (a, r)) {P : α → List Char → Prop} :
    (∃ b t, m.Gives b t ∧ P b t) ↔ P a r.1 := by
  constructor
  · rintro ⟨_, _, hm, hp⟩
    rw [h, gives_ok_iff] at hm
    obtain ⟨rfl, rfl⟩ := hm
    exact hp
  · intro hp
    exact ⟨a, r.1, gives_of_eq h, hp⟩

lemma gives_map_iff {f : α → β} {m : Reading s α} {b : β} :
    (m.map f).Gives b rest ↔ ∃ a, m.Gives a rest ∧ f a = b := by
  cases m with
  | error e => simp [map, Except.map]
  | ok p =>
    simp only [map, Except.map, gives_ok_iff]
    constructor
    · rintro ⟨h, hr⟩
      exact ⟨p.1, ⟨rfl, hr⟩, h⟩
    · rintro ⟨_, ⟨rfl, hr⟩, h⟩
      exact ⟨h, hr⟩

lemma gives_widen_iff {h : s.length ≤ t.length} {m : Reading s α} {a : α} :
    (m.widen h).Gives a rest ↔ m.Gives a rest := by
  cases m with
  | error e => simp [widen, Except.map]
  | ok p => simp [widen, Except.map]

lemma Gives.unique {m : Reading s α} {a b : α} {r r' : List Char} (h : m.Gives a r) (h' : m.Gives b r') :
    a = b ∧ r = r' := by
  obtain ⟨_, he⟩ := h
  rw [he, gives_ok_iff] at h'
  exact h'

end Reading

open Reading

lemma document_eq_ok_iff {α : Type u} {read : Reader α} {s : String} {a : α} :
    document read s = .ok a ↔ ∃ r, (read s.toList).Gives a r ∧ skipBlanks r = [] := by
  rw [document]
  cases read s.toList with
  | error f => simp
  | ok p =>
    obtain ⟨b, r, hr⟩ := p
    by_cases hb : skipBlanks r = []
    · simp [hb, and_assoc]
    · simp [hb, and_assoc]

lemma exists_skipBlanks_iff {s r : List Char} {c : Char} (hb : skipBlanks s = c :: r)
    {P : Char → List Char → Prop} :
    (∃ c' r', skipBlanks s = c' :: r' ∧ P c' r') ↔ P c r := by
  rw [hb]
  constructor
  · rintro ⟨_, _, he, hp⟩
    cases he
    exact hp
  · intro hp
    exact ⟨c, r, rfl, hp⟩

section

variable {α : Type u}

lemma gives_items_iff {start s rest : List Char} {hs : s.length ≤ start.length} {read : Reader α}
    {before l : List α} :
    (items read before s hs).Gives l rest ↔ ∃ a r, (read s).Gives a r ∧ ∃ t,
      ((skipBlanks r = ',' :: t ∧ ∃ ht, Gives (items read (a :: before) t ht : Reading start _) l rest) ∨
        (skipBlanks r = ']' :: t ∧ l = (a :: before).reverse ∧ rest = t)) := by
  rw [items]
  split
  · rename_i f he
    simp [he]
  · rename_i a r hr he
    rw [exists_gives_iff he]
    split
    · rename_i hb
      simp [hb]
    · rename_i c t hb
      have ht : t.length ≤ start.length :=
        Nat.le_trans (Nat.le_of_lt (Nat.lt_trans (length_lt_of_skipBlanks hb) hr)) hs
      by_cases hcomma : c = ','
      · subst hcomma
        simp [hb, ht]
      · by_cases hclose : c = ']'
        · subst hclose
          simp [hb, eq_comm]
        · simp [hb, hcomma, hclose]

lemma gives_sequence_iff {s rest : List Char} {read : Reader α} {l : List α} :
    (sequence read s).Gives l rest ↔ ∃ c r, skipBlanks s = c :: r ∧
      if c = ']' then l = [] ∧ rest = r
      else Gives (items read [] s (Nat.le_refl _) : Reading s _) l rest := by
  rw [sequence]
  split
  · rename_i hb
    simp [hb]
  · rename_i c r hb
    rw [exists_skipBlanks_iff hb]
    by_cases hc : c = ']'
    · simp [hc, eq_comm]
    · simp [hc]

lemma gives_members_iff {start s rest : List Char} {hs : s.length ≤ start.length} {rigour : Rigour}
    {read : String → α → Except Fault (Reader α)} {before a : α} :
    (members rigour read before s hs).Gives a rest ↔ ∃ key r, (name rigour s).Gives key r ∧
      ∃ reader, read key before = .ok reader ∧ ∃ t, skipBlanks r = ':' :: t ∧
        ∃ after u, (reader t).Gives after u ∧ ∃ w,
          ((skipBlanks u = ',' :: w ∧ ∃ hw, Gives (members rigour read after w hw : Reading start _) a rest) ∨
            (skipBlanks u = '}' :: w ∧ a = after ∧ rest = w)) := by
  rw [members]
  split
  · rename_i f he
    simp [he]
  · rename_i key r hr he
    rw [exists_gives_iff he]
    split
    · rename_i f hf
      simp [hf]
    · rename_i reader hreader
      simp only [hreader, Except.ok.injEq, exists_eq_left']
      split
      · rename_i hc
        simp [hc]
      · rename_i c t hc
        by_cases hcolon : c = ':'
        · subst hcolon
          simp only [if_true, hc, List.cons.injEq, true_and, exists_eq_left']
          split
          · rename_i f hf
            simp [hf]
          · rename_i after u hu ha
            rw [exists_gives_iff ha]
            split
            · rename_i hb
              simp [hb]
            · rename_i d w hb
              have hw : w.length ≤ start.length := by
                have := length_lt_of_skipBlanks hb
                have := length_lt_of_skipBlanks hc
                omega
              by_cases hcomma : d = ','
              · subst hcomma
                simp [hb, hw]
              · by_cases hclose : d = '}'
                · subst hclose
                  simp [hb, eq_comm]
                · simp [hb, hcomma, hclose]
        · simp [hc, hcolon]

lemma gives_block_iff {s rest : List Char} {rigour : Rigour} {read : String → α → Except Fault (Reader α)}
    {before a : α} :
    (block rigour read before s).Gives a rest ↔ ∃ c r, skipBlanks s = c :: r ∧
      if c = '}' then a = before ∧ rest = r
      else Gives (members rigour read before s (Nat.le_refl _) : Reading s _) a rest := by
  rw [block]
  split
  · rename_i hb
    simp [hb]
  · rename_i c r hb
    rw [exists_skipBlanks_iff hb]
    by_cases hc : c = '}'
    · simp [hc, eq_comm]
    · simp [hc]

end

def memberOf (read : Reader Json) (key : String) (before : List (String × Json)) :
    Except Fault (Reader (List (String × Json))) :=
  .ok fun t => (read t).map (Entries.set key · before)

lemma gives_value_succ_iff {rigour : Rigour} {levels : Nat} {s rest : List Char} {v : Json} :
    (value rigour (levels + 1) s).Gives v rest ↔ ∃ c r, skipBlanks s = c :: r ∧
      if c = '[' then ∃ l, (sequence (value rigour levels) r).Gives l rest ∧ .arr l = v
      else if c = '{' then
        ∃ ms, (block rigour (memberOf (value rigour levels)) [] r).Gives ms rest ∧ .obj ms = v
      else (leaf rigour s).Gives v rest := by
  rw [value]
  dsimp only
  split
  · rename_i hb
    simp [hb]
  · rename_i c r hb
    rw [exists_skipBlanks_iff hb]
    by_cases hopen : c = '['
    · rw [if_pos hopen, if_pos hopen, gives_widen_iff, gives_map_iff]
    · rw [if_neg hopen, if_neg hopen]
      by_cases hbrace : c = '{'
      · rw [if_pos hbrace, if_pos hbrace, gives_widen_iff, gives_map_iff]
        rfl
      · rw [if_neg hbrace, if_neg hbrace]

lemma wordTail_eq_ok_iff {α : Type u} {w s : List Char} {a b : α}
    {t : { r : List Char // r.length ≤ s.length }} :
    wordTail w a s = .ok (b, t) ↔ a = b ∧ s = w ++ t.1 := by
  obtain ⟨t, ht⟩ := t
  rw [wordTail]
  split
  · rename_i h
    obtain ⟨r, rfl⟩ := List.isPrefixOf_iff_prefix.1 h
    simp [eq_comm]
  · rename_i h
    simp only [reduceCtorEq, false_iff, not_and]
    rintro - rfl
    exact h (List.isPrefixOf_iff_prefix.2 (List.prefix_append _ _))

lemma gives_wordTail_iff {s r rest : List Char} {c : Char} {w : List Char} {v b : Json}
    (hb : skipBlanks s = c :: r) :
    Gives (Except.map
        (fun p => (p.1, ⟨p.2.1, Nat.lt_of_le_of_lt p.2.2 (length_lt_of_skipBlanks hb)⟩)) (wordTail w v r) :
      Reading s Json) b rest ↔ r = w ++ rest ∧ v = b := by
  cases hw : wordTail w v r with
  | error f =>
    simp only [Except.map, not_gives_error, false_iff, not_and]
    rintro rfl -
    have := (wordTail_eq_ok_iff (w := w) (s := w ++ rest) (a := v) (t := ⟨rest, by simp⟩)).2 ⟨rfl, rfl⟩
    rw [hw] at this
    cases this
  | ok p =>
    obtain ⟨rfl, hr⟩ := wordTail_eq_ok_iff.1 hw
    simp only [Except.map, gives_ok_iff]
    constructor
    · rintro ⟨rfl, rfl⟩
      exact ⟨hr, rfl⟩
    · rintro ⟨hr', rfl⟩
      exact ⟨rfl, List.append_cancel_left (hr.symm.trans hr')⟩

lemma gives_name_iff {rigour : Rigour} {s rest : List Char} {key : String} :
    (name rigour s).Gives key rest ↔
      ∃ r, skipBlanks s = '"' :: r ∧ ∃ t, textBody rigour [] r = .ok (t, rest) ∧ String.ofList t = key := by
  rw [name]
  split
  · rename_i hb
    simp [hb]
  · rename_i c r hb
    by_cases hc : c = '"'
    · subst hc
      simp only [if_true, hb, List.cons.injEq, true_and, exists_eq_left']
      split
      · rename_i f ht
        simp [ht]
      · rename_i t r' ht
        simp only [ht, gives_ok_iff, Except.ok.injEq, Prod.mk.injEq, and_assoc, exists_eq_left']
        exact and_comm
    · simp [hb, hc]

lemma gives_number_iff {rigour : Rigour} {s rest : List Char} {n : Number} :
    (number rigour s).Gives n rest ↔ ∃ l, lexeme (skipBlanks s) = .ok (l, rest) ∧
      (l.number? = some n ∨ rigour = .lenient ∧ l.number? = none ∧ n = .double (.zero false)) := by
  rw [number]
  split
  · rename_i f he
    simp [he]
  · rename_i l r he
    simp only [he, Except.ok.injEq, Prod.mk.injEq, and_assoc, exists_eq_left']
    cases hn : l.number? with
    | some m => simp [and_comm]
    | none => cases rigour <;> simp [and_comm, eq_comm]

lemma gives_leaf_iff {rigour : Rigour} {s rest : List Char} {v : Json} :
    (leaf rigour s).Gives v rest ↔ ∃ c r, skipBlanks s = c :: r ∧
      if c = '"' then ∃ t, (name rigour s).Gives t rest ∧ .str t = v
      else if c = '-' ∨ c.isDigit then ∃ n, (number rigour s).Gives n rest ∧ .num n = v
      else (c = 'n' ∧ r = "ull".toList ++ rest ∧ .null = v) ∨
        (c = 't' ∧ r = "rue".toList ++ rest ∧ .bool true = v) ∨
        (c = 'f' ∧ r = "alse".toList ++ rest ∧ .bool false = v) := by
  rw [leaf]
  split
  · rename_i hb
    simp [hb]
  · rename_i c r hb
    rw [exists_skipBlanks_iff hb]
    by_cases hq : c = '"'
    · rw [if_pos hq, if_pos hq, gives_map_iff]
    · rw [if_neg hq, if_neg hq]
      by_cases hd : c = '-' ∨ c.isDigit
      · rw [if_pos hd, if_pos hd, gives_map_iff]
      · rw [if_neg hd, if_neg hd]
        by_cases hn : c = 'n'
        · subst hn
          rw [if_pos rfl, gives_wordTail_iff hb]
          simp
        · rw [if_neg hn]
          by_cases ht : c = 't'
          · subst ht
            rw [if_pos rfl, gives_wordTail_iff hb]
            simp
          · rw [if_neg ht]
            by_cases hf : c = 'f'
            · subst hf
              rw [if_pos rfl, gives_wordTail_iff hb]
              simp
            · simp [hn, ht, hf]

end Specimen.Json
