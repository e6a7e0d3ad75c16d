import Mathlib.Data.List.Forall2
import Specimen.Proofs.Json.Nesting
import Specimen.Proofs.Json.NumberTexts

universe u v

namespace Specimen.Json

open Reading

section texts

lemma hex4?_control {n : Nat} (h : n < 32) :
    hex4? '0' '0' (Nat.digitChar (n / 16)) (Nat.digitChar (n % 16)) = some n := by
  revert n
  decide

lemma textBody_simple {rigour : Rigour} {read rest : List Char} {c e : Char} (h : simpleEscape? c = some e) :
    textBody rigour read ('\\' :: c :: rest) = textBody rigour (e :: read) rest := by
  have hu : c ≠ 'u' := by
    rintro rfl
    cases h
  rw [textBody, h]
  exact fun _ _ _ _ _ hc _ => hu hc

lemma textBody_control {rigour : Rigour} {read rest : List Char} {n : Nat} (h : n < 32) :
    textBody rigour read
        ('\\' :: 'u' :: '0' :: '0' :: Nat.digitChar (n / 16) :: Nat.digitChar (n % 16) :: rest) =
      textBody rigour (Char.ofNat n :: read) rest := by
  have hlow : isLowSurrogate n = false := by
    simp only [isLowSurrogate, Bool.and_eq_false_iff, decide_eq_false_iff_not]
    omega
  have hhigh : isHighSurrogate n = false := by
    simp only [isHighSurrogate, Bool.and_eq_false_iff, decide_eq_false_iff_not]
    omega
  rw [textBody, hex4?_control h]
  simp [hlow, hhigh]

lemma textBody_plain {rigour : Rigour} {read rest : List Char} {c : Char}
    (hquote : c ≠ '"') (hback : c ≠ '\\')
    (hc : 32 ≤ c.toNat) : textBody rigour read (c :: rest) = textBody rigour (c :: read) rest := by
  rw [textBody]
  · rw [if_neg (by simp [hback, Nat.not_lt.2 hc])]
  · exact hquote
  · exact fun _ _ _ _ _ h _ => hback h
  · exact fun _ _ h _ => hback h

lemma textBody_escape (rigour : Rigour) (c : Char) (read rest : List Char) :
    textBody rigour read (escape c ++ rest) = textBody rigour (c :: read) rest := by
  unfold escape
  split
  any_goals exact textBody_simple rfl
  rename_i hquote hback _ _ _ _ _
  split
  · rename_i hc
    apply (textBody_control hc).trans
    rw [Char.ofNat_toNat]
    rfl
  · rename_i hc
    exact textBody_plain hquote hback (Nat.not_lt.1 hc)

lemma textBody_flatMap (rigour : Rigour) (cs read rest : List Char) :
    textBody rigour read (cs.flatMap escape ++ '"' :: rest) = .ok (read.reverse ++ cs, rest) := by
  induction cs generalizing read with
  | nil => simp [textBody]
  | cons c cs ih =>
    rw [List.flatMap_cons, List.append_assoc, textBody_escape, ih]
    simp

lemma gives_name_writeText {rigour : Rigour} {s rest : List Char} {t : String}
    (h : skipBlanks s = writeText t rest) : (name rigour s).Gives t rest := by
  refine gives_name_iff.2 ⟨_, h, t.toList, ?_, String.ofList_toList⟩
  rw [textBody_flatMap]
  rfl

end texts

/-- No name is repeated in an object, and no number is a floating-point number. -/
inductive Plain : Json → Prop
  | null : Plain .null
  | bool (b) : Plain (.bool b)
  | num {n} : (∀ x, n ≠ .double x) → Plain (.num n)
  | str (s) : Plain (.str s)
  | arr {items} : (∀ v ∈ items, Plain v) → Plain (.arr items)
  | obj {members} : (Entries.keys members).Nodup → (∀ e ∈ members, Plain e.2) → Plain (.obj members)

lemma plain_nat (n : UInt64) : Plain (.nat n) := .num (by simp)

section layout

variable (style : Style) (level : Nat) (rest : List Char)

lemma skipBlanks_cons {c : Char} (h : isBlank c = false) : skipBlanks (c :: rest) = c :: rest := by
  simp [skipBlanks, h]

lemma skipBlanks_writeText (t : String) : skipBlanks (writeText t rest) = writeText t rest :=
  skipBlanks_cons _ rfl

lemma skipBlanks_lineBreak : skipBlanks (style.lineBreak level rest) = skipBlanks rest := by
  cases style with
  | compact => rfl
  | indented =>
    have hspaces : ∀ c ∈ List.replicate (2 * level) ' ', isBlank c := by
      intro c hc
      rw [List.eq_of_mem_replicate hc]
      rfl
    change skipBlanks ('\n' :: (List.replicate (2 * level) ' ' ++ rest)) = _
    rw [skipBlanks, List.dropWhile_cons_of_pos rfl, List.dropWhile_append_of_pos hspaces]
    rfl

lemma skipBlanks_colon : ∃ t, skipBlanks (style.colon rest) = ':' :: t ∧ skipBlanks t = skipBlanks rest := by
  cases style with
  | compact => exact ⟨rest, rfl, rfl⟩
  | indented => exact ⟨' ' :: rest, rfl, rfl⟩

lemma endsNumber_lineBreak (h : EndsNumber rest) : EndsNumber (style.lineBreak level rest) := by
  cases style with
  | compact => exact h
  | indented => simp [EndsNumber, Style.lineBreak]

lemma endsNumber_writeItems (h : EndsNumber rest) (l : List Json) :
    EndsNumber (writeItems style level l rest) := by
  cases l with
  | nil => exact h
  | cons v l => simp [EndsNumber, writeItems]

lemma endsNumber_writeMembers (h : EndsNumber rest) (l : List (String × Json)) :
    EndsNumber (writeMembers style level l rest) := by
  cases l with
  | nil => exact h
  | cons e l => simp [EndsNumber, writeMembers]

lemma not_blank_of_digit {c : Char} (h : c = '-' ∨ c.isDigit) : isBlank c = false ∧ c ≠ ']' ∧ c ≠ '}' := by
  rcases h with rfl | hd
  · decide
  refine ⟨?_, ?_, ?_⟩
  · by_contra hb
    simp only [isBlank, Bool.not_eq_false, Bool.or_eq_true, beq_iff_eq] at hb
    rcases hb with ((rfl | rfl) | rfl) | rfl <;> exact absurd hd (by decide)
  · rintro rfl
    exact absurd hd (by decide)
  · rintro rfl
    exact absurd hd (by decide)

lemma head_of_write (v : Json) :
    ∃ c r, write style level v rest = c :: r ∧ isBlank c = false ∧ c ≠ ']' ∧ c ≠ '}' := by
  cases v with
  | null => exact ⟨'n', _, rfl, by decide⟩
  | bool b =>
    cases b
    · exact ⟨'f', _, rfl, by decide⟩
    · exact ⟨'t', _, rfl, by decide⟩
  | num n =>
    obtain ⟨c, r, hc, hd⟩ := head_of_text rest n
    exact ⟨c, r, hc, not_blank_of_digit hd⟩
  | str s => exact ⟨'"', _, rfl, by decide⟩
  | arr items => cases items <;> exact ⟨'[', _, rfl, by decide⟩
  | obj members => rcases members with _ | ⟨⟨_, _⟩, _⟩ <;> exact ⟨'{', _, rfl, by decide⟩

lemma skipBlanks_write (v : Json) : skipBlanks (write style level v rest) = write style level v rest := by
  obtain ⟨c, r, hc, hb, -⟩ := head_of_write style level rest v
  rw [hc, skipBlanks_cons r hb]

end layout

section loops

variable {style : Style} {level outer : Nat} {rest s : List Char} {α : Type u}

/-- The reader gives `a` where `v` is written, also after blanks. -/
def ReadsAs (style : Style) (level : Nat) (read : Reader α) (v : Json) (a : α) : Prop :=
  ∀ s rest, EndsNumber rest → skipBlanks s = write style level v rest → (read s).Gives a rest

lemma ReadsAs.map {β : Type v} {read : Reader α} {v : Json} {a : α} (h : ReadsAs style level read v a) (f : α → β) :
    ReadsAs style level (fun s => (read s).map f) v (f a) :=
  fun s rest hrest hs => gives_map_iff.2 ⟨a, h s rest hrest hs, rfl⟩

lemma gives_items_write {start : List Char} {read : Reader α} {items : List Json} {v : Json} {a : α} {as : List α}
    (hv : ReadsAs style level read v a) (hr : List.Forall₂ (ReadsAs style level read) items as)
    {before : List α} {hs : s.length ≤ start.length} (h : skipBlanks s =
      write style level v (writeItems style level items (style.lineBreak outer (']' :: rest)))) :
    Gives (Json.items read before s hs : Reading start _) (before.reverse ++ a :: as) rest := by
  have hclose : EndsNumber (style.lineBreak outer (']' :: rest)) :=
    endsNumber_lineBreak style outer _ (by simp [EndsNumber])
  -- each item has its own text and place, so the first one is no fixed value in the induction
  induction hr generalizing v a before s with
  | nil =>
    refine gives_items_iff.2 ⟨a, _, hv s _ hclose h, rest, .inr ⟨?_, by simp, rfl⟩⟩
    rw [skipBlanks_lineBreak, skipBlanks_cons _ (by decide)]
  | @cons w b items as hw _ ih =>
    have hread := hv s _ (endsNumber_writeItems style level _ hclose (w :: items)) h
    obtain ⟨hlt, -⟩ := id hread
    rw [writeItems] at hread hlt
    have ht := Nat.le_of_lt (Nat.lt_of_lt_of_le (Nat.lt_of_succ_lt hlt) hs)
    refine gives_items_iff.2 ⟨a, _, hread, _, .inl ⟨skipBlanks_cons _ (by decide), ht, ?_⟩⟩
    have hrest : Gives (Json.items read (a :: before) _ ht : Reading start _)
        ((a :: before).reverse ++ b :: as) rest :=
      ih hw (by rw [skipBlanks_lineBreak, skipBlanks_write])
    simpa using hrest

lemma gives_sequence_write {read : Reader α} {items : List Json} {as : List α}
    (hr : List.Forall₂ (ReadsAs style (level + 1) read) items as)
    (h : write style level (.arr items) rest = '[' :: s) : (sequence read s).Gives as rest := by
  cases hr with
  | nil =>
    rw [write] at h
    cases h
    exact gives_sequence_iff.2 ⟨']', rest, rfl, rfl, rfl⟩
  | @cons v a items as hv hr =>
    rw [write] at h
    cases h
    obtain ⟨c, r, hc, -, hclose, -⟩ := head_of_write style (level + 1)
      (writeItems style (level + 1) items (style.lineBreak level (']' :: rest))) v
    have hs := (skipBlanks_lineBreak style (level + 1) _).trans
      (skipBlanks_write style (level + 1) (writeItems style (level + 1) items (style.lineBreak level (']' :: rest))) v)
    refine gives_sequence_iff.2 ⟨c, r, hs.trans hc, ?_⟩
    rw [if_neg hclose]
    exact gives_items_write hv hr hs

inductive Gathers (style : Style) (level : Nat) (read : String → α → Except Fault (Reader α)) :
    α → List (String × Json) → α → Prop
  | nil {before} : Gathers style level read before [] before
  | cons {name v members before after last} (reader : Reader α) : read name before = .ok reader →
      ReadsAs style level reader v after → Gathers style level read after members last →
      Gathers style level read before ((name, v) :: members) last

variable {rigour : Rigour} {read : String → α → Except Fault (Reader α)} {before after last : α}

lemma gives_members_write {start : List Char} {members : List (String × Json)} {name : String} {v : Json}
    {reader : Reader α} (hname : read name before = .ok reader) (hv : ReadsAs style level reader v after)
    (hr : Gathers style level read after members last) {hs : s.length ≤ start.length}
    (h : skipBlanks s = writeText name (style.colon (write style level v
      (writeMembers style level members (style.lineBreak outer ('}' :: rest)))))) :
    Gives (Json.members rigour read before s hs : Reading start _) last rest := by
  have hclose : EndsNumber (style.lineBreak outer ('}' :: rest)) :=
    endsNumber_lineBreak style outer _ (by simp [EndsNumber])
  induction hr generalizing name v reader before s with
  | nil =>
    obtain ⟨t, hcolon, ht⟩ := skipBlanks_colon style (write style level v (style.lineBreak outer ('}' :: rest)))
    rw [skipBlanks_write style level _ v] at ht
    refine gives_members_iff.2 ⟨name, _, gives_name_writeText h, reader, hname, t, hcolon, _, _,
      hv t _ hclose ht, rest, .inr ⟨?_, rfl, rfl⟩⟩
    rw [skipBlanks_lineBreak, skipBlanks_cons _ (by decide)]
  | @cons other w members before' after' last reader' hother hw hr ih =>
    obtain ⟨t, hcolon, ht⟩ := skipBlanks_colon style (write style level v
      (writeMembers style level ((other, w) :: members) (style.lineBreak outer ('}' :: rest))))
    rw [skipBlanks_write style level _ v] at ht
    have hread := hv t _ (endsNumber_writeMembers style level _ hclose ((other, w) :: members)) ht
    have hkey : (Json.name rigour s).Gives name _ := gives_name_writeText h
    rw [writeMembers] at hread
    have hlength : (style.lineBreak level (writeText other
      (style.colon (write style level w (writeMembers style level
        members (style.lineBreak outer ('}' :: rest))))))).length ≤ start.length := by
      obtain ⟨hlr, -⟩ := id hkey
      obtain ⟨hlt, -⟩ := id hread
      have := length_lt_of_skipBlanks hcolon
      rw [List.length_cons] at hlt
      rw [writeMembers] at hlr this
      omega
    refine gives_members_iff.2 ⟨name, _, hkey, reader, hname, t, hcolon, before', _, hread, _,
      .inl ⟨skipBlanks_cons _ (by decide), hlength, ?_⟩⟩
    exact ih hother hw ((skipBlanks_lineBreak style level _).trans (skipBlanks_writeText _ _))

lemma gives_block_write {members : List (String × Json)} (hr : Gathers style (level + 1) read before members last)
    (h : write style level (.obj members) rest = '{' :: s) : (block rigour read before s).Gives last rest := by
  cases hr with
  | nil =>
    rw [write] at h
    cases h
    exact gives_block_iff.2 ⟨'}', rest, rfl, rfl, rfl⟩
  | @cons name v members _ _ _ reader hname hv hr =>
    rw [write] at h
    cases h
    have hs := (skipBlanks_lineBreak style (level + 1) _).trans
      (skipBlanks_writeText (style.colon (write style (level + 1)
      v (writeMembers style (level + 1) members (style.lineBreak level ('}' :: rest))))) name)
    refine gives_block_iff.2 ⟨'"', _, hs, ?_⟩
    exact gives_members_write hname hv hr hs

end loops

section values

variable {style : Style} {level : Nat} {rest s : List Char} {rigour : Rigour}

lemma readsAs_null (levels : Nat) : ReadsAs style level (value rigour levels) .null .null :=
  fun _ _ _ h => gives_value_of_leaf (gives_leaf_iff.2 ⟨'n', _, h, by simp⟩) levels

lemma readsAs_bool (levels : Nat) (b : Bool) : ReadsAs style level (value rigour levels) (.bool b) (.bool b) := by
  intro s rest _ h
  cases b
  · exact gives_value_of_leaf (gives_leaf_iff.2 ⟨'f', _, h, by simp⟩) levels
  · exact gives_value_of_leaf (gives_leaf_iff.2 ⟨'t', _, h, by simp⟩) levels

lemma readsAs_str (levels : Nat) (t : String) : ReadsAs style level (value rigour levels) (.str t) (.str t) :=
  fun _ _ _ h => gives_value_of_leaf (gives_leaf_iff.2 ⟨'"', _, h, t, gives_name_writeText h, rfl⟩) levels

lemma readsAs_num (levels : Nat) {n m : Number} {l : Lexeme}
    (hl : ∀ rest, EndsNumber rest → lexeme (n.text ++ rest) = .ok (l, rest))
    (hm : l.number? = some m ∨ rigour = .lenient ∧ l.number? = none ∧ m = .double (.zero false)) :
    ReadsAs style level (value rigour levels) (.num n) (.num m) := by
  intro s rest hrest h
  obtain ⟨c, r, hc, hnum⟩ := head_of_text rest n
  rw [write] at h
  have hquote : c ≠ '"' := by
    rintro rfl
    revert hnum
    decide
  refine gives_value_of_leaf (gives_leaf_iff.2 ⟨c, r, h.trans hc, ?_⟩) levels
  rw [if_neg hquote, if_pos hnum]
  exact ⟨m, gives_number_iff.2 ⟨l, h ▸ hl rest hrest, hm⟩, rfl⟩

lemma readsAs_arr {levels : Nat} {items values : List Json}
    (h : List.Forall₂ (ReadsAs style (level + 1) (value rigour levels)) items values) :
    ReadsAs style level (value rigour (levels + 1)) (.arr items) (.arr values) := by
  intro s rest _ hs
  obtain ⟨t, ht⟩ : ∃ t, write style level (.arr items) rest = '[' :: t := by
    cases items <;> exact ⟨_, rfl⟩
  exact gives_value_succ_iff.2 ⟨'[', t, hs.trans ht, values, gives_sequence_write h ht, rfl⟩

lemma readsAs_obj {levels : Nat} {members after : List (String × Json)}
    (h : Gathers style (level + 1) (memberOf (value rigour levels)) [] members after) :
    ReadsAs style level (value rigour (levels + 1)) (.obj members) (.obj after) := by
  intro s rest _ hs
  obtain ⟨t, ht⟩ : ∃ t, write style level (.obj members) rest = '{' :: t := by
    rcases members with _ | ⟨⟨_, _⟩, _⟩ <;> exact ⟨_, rfl⟩
  exact gives_value_succ_iff.2 ⟨'{', t, hs.trans ht, after, gives_block_write h ht, rfl⟩

lemma gathers_memberOf {read : Reader Json} {members before : List (String × Json)}
    (hn : (Entries.keys (before ++ members)).Nodup) (hr : ∀ e ∈ members, ReadsAs style level read e.2 e.2) :
    Gathers style level (memberOf read) before members (before ++ members) := by
  induction members generalizing before with
  | nil =>
    rw [List.append_nil]
    exact .nil
  | cons e members ih =>
    obtain ⟨name, v⟩ := e
    obtain ⟨hv, hr⟩ := List.forall_mem_cons.1 hr
    have hset : Entries.set name v before = before ++ [(name, v)] :=
      Entries.set_of_notMem (Entries.notMem_keys_of_nodup hn) v
    rw [List.append_cons] at hn ⊢
    refine .cons _ rfl (hv.map (Entries.set name · before)) ?_
    rw [hset]
    exact ih hn hr

lemma readsAs_value {v : Json} (hp : Plain v) {levels : Nat} (hn : v.nesting ≤ levels) :
    ReadsAs style level (value .strict levels) v v := by
  -- the level of the layout rises where the number of levels that are left falls
  induction hp generalizing levels level with
  | null => exact readsAs_null levels
  | bool b => exact readsAs_bool levels b
  | @num n hd =>
    obtain ⟨l, hln, hl⟩ := lexeme_text n hd
    exact readsAs_num levels hl (.inl hln)
  | str t => exact readsAs_str levels t
  | @arr items hp ih =>
    cases levels with
    | zero => simp [nesting] at hn
    | succ levels =>
      have hitems := nesting_arr_le_iff.1 hn
      exact readsAs_arr (List.forall₂_same.2 fun v hv => ih v hv (hitems v hv))
  | @obj members hkeys hp ih =>
    cases levels with
    | zero => simp [nesting] at hn
    | succ levels =>
      have hmembers := nesting_obj_le_iff.1 hn
      exact readsAs_obj (gathers_memberOf hkeys fun e he => ih e he (hmembers e he))

lemma readsAs_sequence {items : List Json} (hp : ∀ v ∈ items, Plain v) {levels : Nat}
    (hn : ∀ v ∈ items, v.nesting ≤ levels) (h : write style level (.arr items) rest = '[' :: s) :
    (sequence (value .strict levels) s).Gives items rest :=
  gives_sequence_write (List.forall₂_same.2 fun v hv => readsAs_value (hp v hv) (hn v hv)) h

end values

theorem parse_compact {v : Json} (hp : Plain v) (hn : v.nesting ≤ maxNesting) : parse v.compact = .ok v := by
  refine document_eq_ok_iff.2 ⟨[], ?_, rfl⟩
  rw [compact, String.toList_ofList]
  exact readsAs_value hp hn _ [] endsNumber_nil (skipBlanks_write _ _ _ v)

lemma eq_of_compact_eq {v w : Json} (hv : Plain v) (hw : Plain w) (h : v.compact = w.compact) : v = w := by
  have htext : write .compact 0 v [] = write .compact 0 w [] := by
    simpa only [compact, String.toList_ofList] using congrArg String.toList h
  have hreadv := readsAs_value hv (Nat.le_max_left v.nesting w.nesting) _ [] endsNumber_nil
    (skipBlanks_write .compact 0 [] v)
  have hreadw := readsAs_value hw (Nat.le_max_right v.nesting w.nesting) _ [] endsNumber_nil
    (skipBlanks_write .compact 0 [] w)
  rw [htext] at hreadv
  exact (hreadv.unique hreadw).1

end Specimen.Json
