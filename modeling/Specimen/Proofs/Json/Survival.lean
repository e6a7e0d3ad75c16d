import Specimen.Proofs.Json.Records
import Specimen.Proofs.Json.Skipping

/-! Records are read back from what is written for them: from an object whose members stand in any order among
members that nobody knows, and from the array of their values. -/

universe u

namespace Specimen

namespace SortedMap

variable {α : Type u}

lemma insertEntry_of_lt {k : String} {l : List (String × α)} (h : ∀ e ∈ l, e.1 < k) (v : α) :
    insertEntry k v l = l ++ [(k, v)] := by
  induction l with
  | nil => rfl
  | cons e r ih =>
    obtain ⟨he, hr⟩ := List.forall_mem_cons.1 h
    have hne : k ≠ e.1 := fun hk => String.lt_irrefl k (hk ▸ he)
    have hlt : ¬ k < e.1 := fun hk => String.lt_irrefl k (String.lt_trans hk he)
    rw [insertEntry, if_neg hlt, if_neg hne, ih hr, List.cons_append]

lemma insert_eq {m n : SortedMap α} {k : String} {v : α} {r : List (String × α)}
    (h : m.entries ++ (k, v) :: r = n.entries) : (m.insert k v).entries ++ r = n.entries := by
  have hsorted := n.sorted
  rw [← h] at hsorted
  have hlt : ∀ e ∈ m.entries, e.1 < k := fun e he => (List.pairwise_append.1 hsorted).2.2 e he _ List.mem_cons_self
  have hentries : (m.insert k v).entries = m.entries ++ [(k, v)] := insertEntry_of_lt hlt v
  rw [hentries, ← h, List.append_assoc, List.singleton_append]

end SortedMap

namespace Json

open Reading

variable {style : Style} {level levels : Nat} {s rest : List Char}

namespace Shape

def settle : (shape : Shape) → shape.Carrier → shape.Carrier
  | .any, v => v
  | .optional, o => o.filter (· ≠ .null)
  | .text, s => s
  | .natural, n => n
  | .list element, l => l.map element.settle
  | .tally, m => m

lemma readsAs_text (t : String) : ReadsAs style level (Json.text .strict) (.str t) t := by
  intro s rest _ h
  have hhead : (skipBlanks s).head? = some '"' := by
    rw [h]
    rfl
  rw [Json.text, if_pos hhead]
  exact gives_name_writeText h

lemma readsAs_natural (n : UInt64) : ReadsAs style level readNatural (.nat n) n := by
  intro s rest hrest h
  have hn : ∀ x, Number.natural n ≠ .double x := by simp
  obtain ⟨l, hln, hl⟩ := lexeme_text (.natural n) hn
  obtain ⟨c, r, hc, hnum⟩ := head_of_text rest (.natural n)
  obtain ⟨hlt, hread⟩ : (number .strict s).Gives (.natural n) rest := gives_number_iff.2 ⟨l, h ▸ hl rest hrest, .inl hln⟩
  rw [readNatural]
  split
  · rename_i hb
    rw [hb] at h
    exact absurd (h.trans hc) (by simp)
  · rename_i c' r' hb
    have hc' : c' = c := (List.cons.inj (hb.symm.trans (h.trans hc))).1
    rw [if_pos (hc' ▸ hnum), hread]
    exact gives_ok_iff.2 ⟨rfl, rfl⟩

def tallyMember (key : String) (m : SortedMap UInt64) : Except Fault (Reader (SortedMap UInt64)) :=
  .ok fun t => (readNatural t).map fun n => m.insert key n

lemma gives_read_tally {r : List Char} {m : SortedMap UInt64} (h : skipBlanks s = '{' :: r)
    (hm : (block .strict tallyMember .empty r).Gives m rest) : Gives (read .tally (levels + 1) s) m rest := by
  rw [read]
  dsimp only
  split
  · rename_i hb
    rw [hb] at h
    cases h
  · rename_i c r' n hb hn
    cases hn
    rw [hb] at h
    cases h
    rw [if_pos rfl]
    exact gives_widen_iff.2 hm
  · rename_i hn
    cases hn

lemma gathers_tally {m : SortedMap UInt64} (l : List (String × UInt64)) {before : SortedMap UInt64}
    (h : before.entries ++ l = m.entries) :
    Gathers style level tallyMember before (l.map fun e => (e.1, .nat e.2)) m := by
  induction l generalizing before with
  | nil =>
    rw [List.append_nil] at h
    have : before = m := by
      cases before
      cases m
      cases h
      rfl
    rw [this]
    exact .nil
  | cons e l ih =>
    obtain ⟨k, n⟩ := e
    exact .cons _ rfl ((readsAs_natural n).map fun n => before.insert k n) (ih (SortedMap.insert_eq h))

lemma readsAs_read {shape : Shape} {a : shape.Carrier} (hp : (shape.toJson a).Plain)
    (hn : (shape.toJson a).nesting ≤ levels) :
    ReadsAs style level (shape.read levels) (shape.toJson a) (shape.settle a) := by
  induction shape generalizing level levels with
  | any => exact readsAs_value hp hn
  | optional =>
    have hread : ReadsAs style level (value .strict levels) (toJson .optional a) (toJson .optional a) :=
      readsAs_value hp hn
    have hsettle : settle .optional a = if toJson .optional a = .null then none else some (toJson .optional a) := by
      cases a with
      | none => rfl
      | some v => by_cases hv : v = .null <;> simp [settle, toJson, hv]
    rw [hsettle]
    exact hread.map fun v => if v = .null then none else some v
  | text => exact readsAs_text a
  | natural => exact readsAs_natural a
  | list element ih =>
    cases hp with
    | arr hp =>
      intro s rest _ h
      obtain ⟨t, ht⟩ : ∃ t, write style level (toJson (.list element) a) rest = '[' :: t := by
        cases a <;> exact ⟨_, rfl⟩
      cases levels with
      | zero => simp [toJson, nesting] at hn
      | succ levels =>
        have hn := nesting_arr_le_iff.1 hn
        have hitems : List.Forall₂ (ReadsAs style (level + 1) (element.read levels)) (a.map element.toJson)
            (a.map element.settle) := by
          rw [List.forall₂_map_left_iff, List.forall₂_map_right_iff, List.forall₂_same]
          exact fun b hb => ih (hp _ (List.mem_map_of_mem hb)) (hn _ (List.mem_map_of_mem hb))
        exact gives_read_list_iff.2 ⟨t, h.trans ht, gives_sequence_write hitems ht⟩
  | tally =>
    intro s rest _ h
    obtain ⟨t, ht⟩ : ∃ t, write style level (toJson .tally a) rest = '{' :: t := by
      rw [toJson]
      rcases (a.map Json.nat).entries with _ | ⟨⟨_, _⟩, _⟩ <;> exact ⟨_, rfl⟩
    cases levels with
    | zero => simp [toJson, nesting] at hn
    | succ levels =>
      have hmembers : Gathers style (level + 1) tallyMember .empty (a.map Json.nat).entries a := gathers_tally a.entries rfl
      exact gives_read_tally (h.trans ht) (gives_block_write hmembers ht)

end Shape

def names (fields : List Field) : List String := fields.map Field.name

namespace Slots

def settle : (fields : List Field) → Slots fields → Slots fields
  | [], () => ()
  | f :: fs, (v, vs) => (f.shape.settle v, settle fs vs)

lemma keys_toMembers (fields : List Field) (vs : Slots fields) :
    Entries.keys (toMembers fields vs) = names fields := by
  induction fields with
  | nil => rfl
  | cons f fs ih => exact congrArg (f.name :: ·) (ih vs.2)

def Readable (levels : Nat) (fields : List Field) (vs : Slots fields) : Prop :=
  ∀ e ∈ toMembers fields vs, e.2.Plain ∧ e.2.nesting ≤ levels

section positional

variable {f : Field} {fs : List Field}

lemma gives_positional_nil {first : Bool} (h : skipBlanks s = ']' :: rest) :
    (positional levels [] first s).Gives () rest := by
  rw [positional]
  dsimp only
  split
  · rename_i hb
    rw [hb] at h
    cases h
  · rename_i c r hb
    rw [hb] at h
    cases h
    exact gives_ok_iff.2 ⟨rfl, rfl⟩

lemma gives_positional_cons (first : Bool) {start t : List Char} {v : f.shape.Carrier} {vs : Slots fs}
    (hstart : if first then s = start else skipBlanks s = ',' :: start) {c : Char} {r : List Char}
    (hc : skipBlanks start = c :: r) (hclose : c ≠ ']') (hv : (f.shape.read levels start).Gives v t)
    (hvs : (positional levels fs false t).Gives vs rest) : (positional levels (f :: fs) first s).Gives (v, vs) rest := by
  obtain ⟨d, u, hd, hdclose, hcomma, rfl⟩ : ∃ d u, skipBlanks s = d :: u ∧ d ≠ ']' ∧
      ¬ (!first && decide (d ≠ ',')) = true ∧ start = if first then s else u := by
    cases first with
    | true =>
      obtain rfl : s = start := hstart
      exact ⟨c, r, hc, hclose, by simp, rfl⟩
    | false => exact ⟨',', start, hstart, by decide, by simp, rfl⟩
  have hhead : (skipBlanks (if first then s else u)).head? ≠ some ']' := by
    rw [hc]
    simpa using hclose
  obtain ⟨hlt, hv⟩ := hv
  rw [positional]
  dsimp only
  split
  · rename_i hb
    rw [hb] at hd
    cases hd
  · rename_i d' u' hb
    rw [hb] at hd
    cases hd
    rw [if_neg hdclose, if_neg hcomma, if_neg hhead, hv]
    exact gives_widen_iff.2 (gives_map_iff.2 ⟨vs, hvs, rfl⟩)

lemma gives_positional_items {outer : Nat} {fields : List Field} {vs : Slots fields} (hr : Readable levels fields vs)
    (h : skipBlanks s = skipBlanks (writeItems style level ((toMembers fields vs).map Prod.snd)
      (style.lineBreak outer (']' :: rest)))) :
    (positional levels fields false s).Gives (settle fields vs) rest := by
  have hend : EndsNumber (style.lineBreak outer (']' :: rest)) :=
    endsNumber_lineBreak style outer _ (by simp [EndsNumber])
  induction fields generalizing s with
  | nil =>
    refine gives_positional_nil (h.trans ?_)
    rw [toMembers, List.map_nil, writeItems, skipBlanks_lineBreak, skipBlanks_cons _ (by decide)]
  | cons f fs ih =>
    obtain ⟨v, vs⟩ := vs
    obtain ⟨⟨hp, hn⟩, hr⟩ := List.forall_mem_cons.1 hr
    rw [toMembers, List.map_cons, writeItems, skipBlanks_cons _ (by decide)] at h
    obtain ⟨c, r, hc, -, hclose, -⟩ := head_of_write style level
      (writeItems style level ((toMembers fs vs).map Prod.snd) (style.lineBreak outer (']' :: rest))) (f.shape.toJson v)
    have hbreak := (skipBlanks_lineBreak style level _).trans (skipBlanks_write style level (writeItems style level
      ((toMembers fs vs).map Prod.snd) (style.lineBreak outer (']' :: rest))) (f.shape.toJson v))
    exact gives_positional_cons false h (hbreak.trans hc) hclose
      (Shape.readsAs_read hp hn _ _ (endsNumber_writeItems style level _ hend _) hbreak) (ih hr rfl)

lemma gives_positional_write {fields : List Field} {vs : Slots fields} (hr : Readable levels fields vs)
    (h : write style level (.arr ((toMembers fields vs).map Prod.snd)) rest = '[' :: s) :
    (positional levels fields true s).Gives (settle fields vs) rest := by
  cases fields with
  | nil =>
    rw [toMembers, List.map_nil, write] at h
    cases h
    exact gives_positional_nil rfl
  | cons f fs =>
    obtain ⟨v, vs⟩ := vs
    obtain ⟨⟨hp, hn⟩, hr⟩ := List.forall_mem_cons.1 hr
    rw [toMembers, List.map_cons, write] at h
    cases h
    have hend : EndsNumber (style.lineBreak level (']' :: rest)) :=
      endsNumber_lineBreak style level _ (by simp [EndsNumber])
    obtain ⟨c, r, hc, -, hclose, -⟩ := head_of_write style (level + 1)
      (writeItems style (level + 1) ((toMembers fs vs).map Prod.snd) (style.lineBreak level (']' :: rest)))
      (f.shape.toJson v)
    have hbreak := (skipBlanks_lineBreak style (level + 1) _).trans (skipBlanks_write style (level + 1)
      (writeItems style (level + 1) ((toMembers fs vs).map Prod.snd) (style.lineBreak level (']' :: rest)))
      (f.shape.toJson v))
    exact gives_positional_cons true rfl (hbreak.trans hc) hclose
      (Shape.readsAs_read hp hn _ _ (endsNumber_writeItems style (level + 1) _ hend _) hbreak)
      (gives_positional_items hr rfl)

end positional

end Slots

namespace Filled

def upTo (seen : List String) : (fields : List Field) → Slots fields → Filled fields
  | [], () => ()
  | f :: fs, (v, vs) => (if f.name ∈ seen then some (f.shape.settle v) else none, upTo seen fs vs)

variable {seen : List String} {fields : List Field} {vs : Slots fields} {key : String}

lemma upTo_nil (fields : List Field) (vs : Slots fields) : upTo [] fields vs = empty fields := by
  induction fields with
  | nil => rfl
  | cons f fs ih =>
    rw [upTo, ih]
    rfl

lemma upTo_cons_of_notMem (h : key ∉ names fields) : upTo (key :: seen) fields vs = upTo seen fields vs := by
  induction fields with
  | nil => rfl
  | cons f fs ih =>
    obtain ⟨hf, hfs⟩ : key ≠ f.name ∧ key ∉ names fs := not_or.1 (mt List.mem_cons.2 h)
    have hmem : f.name ∈ key :: seen ↔ f.name ∈ seen := by
      rw [List.mem_cons, or_iff_right (Ne.symm hf)]
    simp only [upTo, hmem, ih hfs]

lemma finish_upTo (h : ∀ k ∈ names fields, k ∈ seen) :
    (upTo seen fields vs).finish = .ok (Slots.settle fields vs) := by
  induction fields with
  | nil => rfl
  | cons f fs ih =>
    obtain ⟨hf, hfs⟩ := List.forall_mem_cons.1 h
    simp only [upTo, finish, if_pos hf, ih hfs]
    rfl

lemma member_of_notMem (h : key ∉ names fields) (before : Filled fields) :
    ∃ reader, member levels key before = .ok reader ∧ ∀ v, ReadsAs style level reader v before := by
  induction fields with
  | nil => exact ⟨_, rfl, readsAs_skip level⟩
  | cons f fs ih =>
    obtain ⟨o, rest⟩ := before
    obtain ⟨hf, hfs⟩ : key ≠ f.name ∧ key ∉ names fs := not_or.1 (mt List.mem_cons.2 h)
    obtain ⟨reader, hreader, hread⟩ := ih hfs rest
    refine ⟨fun s => (reader s).map fun rest' => (o, rest'), ?_, fun v => (hread v).map (o, ·)⟩
    unfold member
    simp only [if_neg hf, hreader]

lemma member_of_mem (hn : (names fields).Nodup) (hr : Slots.Readable levels fields vs) {v : Json}
    (hmem : (key, v) ∈ Slots.toMembers fields vs) (hseen : key ∉ seen) :
    ∃ reader, member levels key (upTo seen fields vs) = .ok reader ∧
      ReadsAs style level reader v (upTo (key :: seen) fields vs) := by
  induction fields with
  | nil => cases hmem
  | cons f fs ih =>
    obtain ⟨w, vs⟩ := vs
    obtain ⟨hfresh, hn⟩ := List.nodup_cons.1 hn
    obtain ⟨hw, hr⟩ := List.forall_mem_cons.1 hr
    rcases List.mem_cons.1 hmem with he | hmem
    · cases he
      refine ⟨fun s => (f.shape.read levels s).map fun v => (some v, upTo seen fs vs), ?_, ?_⟩
      · unfold member
        simp only [upTo, if_true, if_neg hseen]
      · simp only [upTo, List.mem_cons_self, if_true, upTo_cons_of_notMem hfresh]
        exact (Shape.readsAs_read hw.1 hw.2).map fun v => (some v, upTo seen fs vs)
    · have hkey : key ∈ names fs := Slots.keys_toMembers fs vs ▸ List.mem_map_of_mem hmem
      have hne : key ≠ f.name := fun he => hfresh (he ▸ hkey)
      have hf : f.name ∈ key :: seen ↔ f.name ∈ seen := by
        rw [List.mem_cons, or_iff_right hne.symm]
      obtain ⟨reader, hreader, hread⟩ := ih hn hr hmem
      refine ⟨fun s => (reader s).map fun rest' => (if f.name ∈ seen then some (f.shape.settle w) else none, rest'),
        ?_, ?_⟩
      · unfold member
        simp only [upTo, if_neg hne, hreader]
      · simp only [upTo, hf]
        exact hread.map fun rest' => (if f.name ∈ seen then some (f.shape.settle w) else none, rest')

lemma gathers_upTo (hn : (names fields).Nodup) (hr : Slots.Readable levels fields vs) (ms : List (String × Json))
    (hmem : ∀ e ∈ ms, e.1 ∈ names fields → e ∈ Slots.toMembers fields vs)
    (honce : (Entries.keys (ms.filter (·.1 ∈ names fields))).Nodup)
    (hseen : ∀ e ∈ ms, e.1 ∈ names fields → e.1 ∉ seen) :
    Gathers style level (member levels) (upTo seen fields vs) ms (upTo ((Entries.keys ms).reverse ++ seen) fields vs) := by
  induction ms generalizing seen with
  | nil => exact .nil
  | cons e ms ih =>
    obtain ⟨key, v⟩ := e
    obtain ⟨he, hmem⟩ := List.forall_mem_cons.1 hmem
    obtain ⟨hfresh, hseen⟩ := List.forall_mem_cons.1 hseen
    have hkeys : (Entries.keys ((key, v) :: ms)).reverse ++ seen = (Entries.keys ms).reverse ++ key :: seen := by
      simp [Entries.keys]
    rw [hkeys]
    by_cases hkey : key ∈ names fields
    · rw [List.filter_cons_of_pos (by simpa using hkey)] at honce
      obtain ⟨hother, honce⟩ := List.nodup_cons.1 honce
      obtain ⟨reader, hreader, hread⟩ : ∃ reader, member levels key (upTo seen fields vs) = .ok reader ∧
          ReadsAs style level reader v (upTo (key :: seen) fields vs) := member_of_mem hn hr (he hkey) (hfresh hkey)
      refine .cons reader hreader hread (ih hmem honce fun e hms hknown => ?_)
      refine mt List.mem_cons.1 (not_or.2 ⟨?_, hseen e hms hknown⟩)
      rintro rfl
      exact hother (List.mem_map.2 ⟨e, List.mem_filter.2 ⟨hms, by simpa using hknown⟩, rfl⟩)
    · rw [List.filter_cons_of_neg (by simpa using hkey)] at honce
      obtain ⟨reader, hreader, hread⟩ : ∃ reader, member levels key (upTo seen fields vs) = .ok reader ∧
          ∀ v, ReadsAs style level reader v (upTo seen fields vs) := member_of_notMem hkey _
      rw [← upTo_cons_of_notMem hkey] at hread
      refine .cons reader hreader (hread v) (ih hmem honce fun e hms hknown => ?_)
      refine mt List.mem_cons.1 (not_or.2 ⟨?_, hseen e hms hknown⟩)
      rintro rfl
      exact hkey hknown

end Filled

namespace Format

variable {α : Type} {format : Format α}

lemma gives_reader_succ_iff {a : α} :
    (format.reader (levels + 1) s).Gives a rest ↔ ∃ c r, skipBlanks s = c :: r ∧
      if c = '{' then ∃ filled slots, (block .strict (Filled.member levels) (Filled.empty format.fields) r).Gives filled rest ∧
        filled.finish = .ok slots ∧ format.ofSlots slots = a
      else c = '[' ∧ ∃ slots, (Slots.positional levels format.fields true r).Gives slots rest ∧
        format.ofSlots slots = a := by
  unfold reader
  split
  · rename_i hs
    simp [hs]
  · rename_i c r n hs hn
    cases hn
    rw [exists_skipBlanks_iff hs]
    by_cases hbrace : c = '{'
    · rw [if_pos hbrace, if_pos hbrace]
      cases hb : block .strict (Filled.member levels) (Filled.empty format.fields) r with
      | error e => simp
      | ok p =>
        obtain ⟨filled, t, ht⟩ := p
        constructor
        · intro h
          cases hf : filled.finish with
          | error e => simp [hf, Except.map] at h
          | ok slots =>
            simp only [hf] at h
            obtain ⟨rfl, rfl⟩ := gives_ok_iff.1 h
            exact ⟨filled, slots, gives_ok_iff.2 ⟨rfl, rfl⟩, hf, rfl⟩
        · rintro ⟨filled', slots, hblock, hf, rfl⟩
          obtain ⟨rfl, rfl⟩ := gives_ok_iff.1 hblock
          simp only [hf]
          exact gives_ok_iff.2 ⟨rfl, rfl⟩
    · rw [if_neg hbrace, if_neg hbrace]
      by_cases hopen : c = '['
      · rw [if_pos hopen, gives_widen_iff, gives_map_iff, and_iff_right hopen]
      · rw [if_neg hopen, iff_false_left not_gives_error]
        exact fun h => hopen h.1
  · rename_i hn
    cases hn

lemma gives_reader_object {r : List Char} {filled : Filled format.fields} {slots : Slots format.fields}
    (h : skipBlanks s = '{' :: r)
    (hb : (block .strict (Filled.member levels) (Filled.empty format.fields) r).Gives filled rest)
    (hf : filled.finish = .ok slots) : (format.reader (levels + 1) s).Gives (format.ofSlots slots) rest :=
  gives_reader_succ_iff.2 ⟨_, r, h, by rw [if_pos rfl]; exact ⟨filled, slots, hb, hf, rfl⟩⟩

lemma gives_reader_array {r : List Char} {slots : Slots format.fields} (h : skipBlanks s = '[' :: r)
    (hp : (Slots.positional levels format.fields true r).Gives slots rest) :
    (format.reader (levels + 1) s).Gives (format.ofSlots slots) rest :=
  gives_reader_succ_iff.2 ⟨_, r, h, by rw [if_neg (by decide)]; exact ⟨rfl, slots, hp, rfl⟩⟩

lemma read_congr {text text' : String} {a : α} (h : skipBlanks text'.toList = skipBlanks text.toList) :
    format.read text' = .ok a ↔ format.read text = .ok a := by
  simp only [read, document_eq_ok_iff, maxNesting, gives_reader_succ_iff, h]

def settle (format : Format α) (a : α) : α := format.ofSlots (Slots.settle format.fields (format.toSlots a))

def members (format : Format α) (a : α) : List (String × Json) := Slots.toMembers format.fields (format.toSlots a)

def ReadFrom (format : Format α) (v : Json) (a : α) : Prop :=
  format.read v.compact = .ok a ∧ format.read v.pretty = .ok a

lemma readFrom_of_gives {v : Json} {a : α}
    (h : ∀ style, (format.reader maxNesting (write style 0 v [])).Gives a []) : format.ReadFrom v a := by
  refine ⟨document_eq_ok_iff.2 ⟨[], ?_, rfl⟩, document_eq_ok_iff.2 ⟨[], ?_, rfl⟩⟩
  · rw [compact, String.toList_ofList]
    exact h .compact
  · rw [pretty, String.toList_ofList]
    exact h .indented

/-- What is written for `a` is read as `b`, as an object with its members in any order and any others among them,
and as the array of its values. -/
structure Survives (format : Format α) (a b : α) : Prop where
  object : format.ReadFrom (format.toJson a) b
  array : format.ReadFrom (.arr ((format.members a).map Prod.snd)) b
  members : ∀ ms : List (String × Json), (ms.filter (·.1 ∈ names format.fields)).Perm (format.members a) →
    format.ReadFrom (.obj ms) b

lemma readFrom_members {a : α} (hn : (names format.fields).Nodup)
    (hr : Slots.Readable 126 format.fields (format.toSlots a)) {ms : List (String × Json)}
    (hms : (ms.filter (·.1 ∈ names format.fields)).Perm (format.members a)) :
    format.ReadFrom (.obj ms) (format.settle a) := by
  refine readFrom_of_gives fun style => ?_
  obtain ⟨t, ht⟩ : ∃ t, write style 0 (.obj ms) [] = '{' :: t := by
    rcases ms with _ | ⟨⟨_, _⟩, _⟩ <;> exact ⟨_, rfl⟩
  have hkeys := hms.map Prod.fst
  have honce : (Entries.keys (ms.filter (·.1 ∈ names format.fields))).Nodup := by
    rw [← Slots.keys_toMembers format.fields (format.toSlots a)] at hn
    exact hkeys.nodup_iff.2 hn
  have hmem : ∀ e ∈ ms, e.1 ∈ names format.fields → e ∈ Slots.toMembers format.fields (format.toSlots a) :=
    fun e he hknown => hms.subset (List.mem_filter.2 ⟨he, by simpa using hknown⟩)
  have hall : ∀ k ∈ names format.fields, k ∈ (Entries.keys ms).reverse ++ [] := by
    intro k hk
    rw [← Slots.keys_toMembers format.fields (format.toSlots a)] at hk
    obtain ⟨e, he, rfl⟩ := List.mem_map.1 (hkeys.symm.subset hk)
    rw [List.append_nil, List.mem_reverse]
    exact List.mem_map_of_mem (List.mem_of_mem_filter he)
  have hgathers : Gathers style 1 (Filled.member 126) (Filled.upTo [] format.fields (format.toSlots a)) ms
      (Filled.upTo ((Entries.keys ms).reverse ++ []) format.fields (format.toSlots a)) :=
    Filled.gathers_upTo hn hr ms hmem honce (by simp)
  rw [Filled.upTo_nil] at hgathers
  rw [ht]
  exact gives_reader_object rfl (gives_block_write hgathers ht) (Filled.finish_upTo hall)

lemma readFrom_array {a : α} (hr : Slots.Readable 126 format.fields (format.toSlots a)) :
    format.ReadFrom (.arr ((format.members a).map Prod.snd)) (format.settle a) := by
  refine readFrom_of_gives fun style => ?_
  obtain ⟨t, ht⟩ : ∃ t, write style 0 (.arr ((format.members a).map Prod.snd)) [] = '[' :: t := by
    cases (format.members a).map Prod.snd <;> exact ⟨_, rfl⟩
  rw [ht]
  exact gives_reader_array rfl (Slots.gives_positional_write hr ht)

lemma survives {a : α} (hn : (names format.fields).Nodup) (hp : (format.toJson a).Plain)
    (hnesting : (format.toJson a).nesting ≤ maxNesting) : format.Survives a (format.settle a) := by
  have hr : Slots.Readable 126 format.fields (format.toSlots a) := fun e he => by
    cases hp with
    | obj _ hp => exact ⟨hp e he, nesting_obj_le_iff.1 hnesting e he⟩
  have hknown : (format.members a).filter (·.1 ∈ names format.fields) = format.members a := by
    refine List.filter_eq_self.2 fun e he => ?_
    have : e.1 ∈ names format.fields :=
      Slots.keys_toMembers format.fields (format.toSlots a) ▸ List.mem_map_of_mem he
    simpa using this
  exact {
    object := readFrom_members hn hr (hknown ▸ List.Perm.refl _)
    array := readFrom_array hr
    members := fun ms hms => readFrom_members hn hr hms }

end Format

end Json

end Specimen
