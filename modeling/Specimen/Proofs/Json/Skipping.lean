import Specimen.Proofs.Json.RoundTrip

/-! `skip` finds the end of whatever was written, however deep it nests. -/

namespace Specimen.Json

open Reading

section length

variable (style : Style)

lemma length_le_lineBreak (level : Nat) (rest : List Char) : rest.length ≤ (style.lineBreak level rest).length := by
  cases style with
  | compact => exact Nat.le_refl _
  | indented =>
    rw [Style.lineBreak, List.length_cons, List.length_append]
    omega

lemma length_le_colon (rest : List Char) : rest.length ≤ (style.colon rest).length := by
  cases style with
  | compact => exact Nat.le_succ _
  | indented => exact Nat.le_add_right _ 2

lemma length_le_writeText (t : String) (rest : List Char) : rest.length ≤ (writeText t rest).length := by
  rw [writeText, List.length_cons, List.length_append, List.length_cons]
  omega

lemma length_lt_close (level : Nat) (c : Char) (rest : List Char) :
    rest.length < (style.lineBreak level (c :: rest)).length :=
  Nat.lt_of_lt_of_le (Nat.lt_succ_self _) (length_le_lineBreak style level (c :: rest))

mutual

lemma nesting_le_length_write : (v : Json) → (level : Nat) → (rest : List Char) →
    v.nesting + rest.length ≤ (write style level v rest).length
  | .null, level, rest | .bool true, level, rest | .bool false, level, rest => by
    simp only [nesting, write, List.length_cons]
    omega
  | .num n, level, rest => by
    simp only [nesting, write, List.length_append]
    omega
  | .str t, level, rest => by
    have := length_le_writeText t rest
    simp only [nesting, write]
    omega
  | .arr items, level, rest => by
    have hitems := nesting_le_length_writeItems items (level + 1) (style.lineBreak level (']' :: rest))
    have hclose := length_lt_close style level ']' rest
    cases items with
    | nil =>
      simp only [nesting, nestingItems, write, List.length_cons]
      omega
    | cons v items =>
      rw [writeItems] at hitems
      rw [nesting, write]
      simp only [List.length_cons] at hitems ⊢
      omega
  | .obj members, level, rest => by
    have hmembers := nesting_le_length_writeMembers members (level + 1) (style.lineBreak level ('}' :: rest))
    have hclose := length_lt_close style level '}' rest
    rcases members with _ | ⟨⟨name, v⟩, members⟩
    · simp only [nesting, nestingMembers, write, List.length_cons]
      omega
    · rw [writeMembers] at hmembers
      rw [nesting, write]
      simp only [List.length_cons] at hmembers ⊢
      omega

lemma nesting_le_length_writeItems : (items : List Json) → (level : Nat) → (rest : List Char) →
    nestingItems items + rest.length ≤ (writeItems style level items rest).length
  | [], level, rest => by simp [nestingItems, writeItems]
  | v :: items, level, rest => by
    have hv := nesting_le_length_write v level (writeItems style level items rest)
    have hitems := nesting_le_length_writeItems items level rest
    have hbreak := length_le_lineBreak style level (write style level v (writeItems style level items rest))
    rw [nestingItems, writeItems, List.length_cons]
    omega

lemma nesting_le_length_writeMembers : (members : List (String × Json)) → (level : Nat) → (rest : List Char) →
    nestingMembers members + rest.length ≤ (writeMembers style level members rest).length
  | [], level, rest => by simp [nestingMembers, writeMembers]
  | (name, v) :: members, level, rest => by
    have hv := nesting_le_length_write v level (writeMembers style level members rest)
    have hmembers := nesting_le_length_writeMembers members level rest
    have hcolon := length_le_colon style (write style level v (writeMembers style level members rest))
    have hname := length_le_writeText name (style.colon (write style level v (writeMembers style level members rest)))
    have hbreak := length_le_lineBreak style level
      (writeText name (style.colon (write style level v (writeMembers style level members rest))))
    rw [nestingMembers, writeMembers, List.length_cons]
    omega

end

end length

section lenient

variable {style : Style}

mutual

lemma exists_readsAs_lenient : (v : Json) → {levels : Nat} → v.nesting ≤ levels → (level : Nat) →
    ∃ w, ReadsAs style level (value .lenient levels) v w
  | .null, levels, _, _ => ⟨_, readsAs_null levels⟩
  | .bool b, levels, _, _ => ⟨_, readsAs_bool levels b⟩
  | .str t, levels, _, _ => ⟨_, readsAs_str levels t⟩
  | .num n, levels, _, _ => by
    obtain ⟨l, hl⟩ := exists_lexeme n
    cases hm : l.number? with
    | some m => exact ⟨_, readsAs_num levels hl (.inl hm)⟩
    | none => exact ⟨_, readsAs_num levels hl (.inr ⟨rfl, hm, rfl⟩)⟩
  | .arr items, 0, hn, _ => by simp [nesting] at hn
  | .arr items, levels + 1, hn, level => by
    obtain ⟨values, h⟩ := exists_readsAs_items items (nesting_arr_le_iff.1 hn) (level + 1)
    exact ⟨_, readsAs_arr h⟩
  | .obj members, 0, hn, _ => by simp [nesting] at hn
  | .obj members, levels + 1, hn, level => by
    obtain ⟨after, h⟩ := exists_gathers members (nesting_obj_le_iff.1 hn) (level + 1) []
    exact ⟨_, readsAs_obj h⟩

lemma exists_readsAs_items : (items : List Json) → {levels : Nat} → (∀ v ∈ items, v.nesting ≤ levels) →
    (level : Nat) → ∃ values, List.Forall₂ (ReadsAs style level (value .lenient levels)) items values
  | [], _, _, _ => ⟨[], .nil⟩
  | v :: items, levels, hn, level => by
    obtain ⟨hv, hitems⟩ := List.forall_mem_cons.1 hn
    obtain ⟨w, hw⟩ := exists_readsAs_lenient v hv level
    obtain ⟨values, h⟩ := exists_readsAs_items items hitems level
    exact ⟨w :: values, .cons hw h⟩

lemma exists_gathers : (members : List (String × Json)) → {levels : Nat} → (∀ e ∈ members, e.2.nesting ≤ levels) →
    (level : Nat) → (before : List (String × Json)) →
    ∃ after, Gathers style level (memberOf (value .lenient levels)) before members after
  | [], _, _, _, before => ⟨before, .nil⟩
  | (name, v) :: members, levels, hn, level, before => by
    obtain ⟨hv, hmembers⟩ := List.forall_mem_cons.1 hn
    obtain ⟨w, hw⟩ := exists_readsAs_lenient v hv level
    obtain ⟨after, h⟩ := exists_gathers members hmembers level (Entries.set name w before)
    exact ⟨after, .cons _ rfl (hw.map (Entries.set name · before)) h⟩

end

end lenient

lemma readsAs_skip {style : Style} (level : Nat) (v : Json) : ReadsAs style level skip v () := by
  intro s rest hrest h
  have hn : v.nesting ≤ s.length := by
    have hwrite := nesting_le_length_write style v level rest
    have hblanks := length_le_of_skipBlanks s
    rw [h] at hblanks
    omega
  obtain ⟨w, hw⟩ : ∃ w, ReadsAs style level (value .lenient s.length) v w := exists_readsAs_lenient v hn level
  exact gives_map_iff.2 ⟨w, hw s rest hrest h, rfl⟩

end Specimen.Json
