import Specimen.Entries
import Specimen.Toml.Text

/-! Flat documents of TOML, whose lines give texts and integers to keys. Tables, inline tables and arrays are
refused, also where a table would name one of several choices, as in `storage = { memory = {} }`. -/

namespace Specimen.Toml

inductive Value where
  | text (s : String)
  | integer (n : Int)
  deriving DecidableEq

structure Document where
  entries : List (String × Value)
  nodup : (Entries.keys entries).Nodup

def Document.find? (d : Document) (key : String) : Option Value := Entries.find? key d.entries

def text? (s : List Char) : Option (String × List Char) :=
  let read := match s with
    | '"' :: '"' :: '"' :: r => lines '"' true [] ((newline? r).getD r)
    | '\x27' :: '\x27' :: '\x27' :: r => lines '\x27' false [] ((newline? r).getD r)
    | '"' :: r => quoted [] r
    | '\x27' :: r => literal r
    | _ => none
  read.map fun (t, r) => (String.ofList t, r)

def moreDigits? (base : Nat) (n : Nat) : List Char → Option (Nat × List Char)
  | [] => some (n, [])
  | '_' :: c :: r => (Text.digit? base c).bind fun d => moreDigits? base (n * base + d) r
  | c :: r =>
    match Text.digit? base c with
    | some d => moreDigits? base (n * base + d) r
    | none => if c = '_' then none else some (n, c :: r)

def digits? (base : Nat) : List Char → Option (Nat × List Char)
  | [] => none
  | c :: r => (Text.digit? base c).bind fun d => moreDigits? base d r

def decimal? (s : List Char) : Option (Nat × List Char) :=
  match s with
  | '0' :: r => some (0, r)
  | s => digits? 10 s

def integer? (s : List Char) : Option (Int × List Char) :=
  let read : Option (Int × List Char) := match s with
    | '0' :: 'x' :: r => (digits? 16 r).map fun (n, r) => (↑n, r)
    | '0' :: 'o' :: r => (digits? 8 r).map fun (n, r) => (↑n, r)
    | '0' :: 'b' :: r => (digits? 2 r).map fun (n, r) => (↑n, r)
    | '-' :: r => (decimal? r).map fun (n, r) => (-↑n, r)
    | '+' :: r => (decimal? r).map fun (n, r) => (↑n, r)
    | r => (decimal? r).map fun (n, r) => (↑n, r)
  read.filter fun (n, _) => -9223372036854775808 ≤ n ∧ n ≤ 9223372036854775807

def isBareKeyChar (c : Char) : Bool := c.isAlphanum || c == '-' || c == '_'

def key? (s : List Char) : Option (String × List Char) :=
  match s with
  | '"' :: r => (quoted [] r).map fun (t, r) => (String.ofList t, r)
  | '\x27' :: r => (literal r).map fun (t, r) => (String.ofList t, r)
  | s =>
    if s.takeWhile isBareKeyChar = [] then none
    else some (String.ofList (s.takeWhile isBareKeyChar), s.dropWhile isBareKeyChar)

def value? (s : List Char) : Option (Value × List Char) :=
  match text? s, integer? s with
  | some (t, r), _ => some (.text t, r)
  | none, some (n, r) => some (.integer n, r)
  | none, none => none

def entry? (s : List Char) : Option ((String × Value) × List Char) :=
  match key? s with
  | none => none
  | some (key, r) =>
    match r.dropWhile isBlank with
    | '=' :: r => (value? (r.dropWhile isBlank)).map fun (v, r) => ((key, v), r)
    | _ => none

def lineEnd? (s : List Char) : Option (List Char) :=
  let s := s.dropWhile isBlank
  let s := if s.head? = some '#' then s.dropWhile isPrintable else s
  if s = [] then some [] else newline? s

theorem length_moreDigits {base n m : Nat} {s r : List Char} (h : moreDigits? base n s = some (m, r)) :
    r.length ≤ s.length := by
  fun_induction moreDigits? base n s with
  | case1 => grind
  | case2 n c t ih =>
    obtain ⟨d, _, hd⟩ := Option.bind_eq_some_iff.1 h
    have := ih d hd
    grind
  | case3 => grind
  | case4 => contradiction
  | case5 => grind

theorem length_digits {base n : Nat} {s r : List Char} (h : digits? base s = some (n, r)) :
    r.length < s.length := by
  unfold digits? at h
  split at h
  · contradiction
  · obtain ⟨d, _, hd⟩ := Option.bind_eq_some_iff.1 h
    exact Nat.lt_succ_of_le (length_moreDigits hd)

theorem length_decimal {n : Nat} {s r : List Char} (h : decimal? s = some (n, r)) : r.length < s.length := by
  unfold decimal? at h
  grind [→ length_digits]

theorem length_integer {n : Int} {s r : List Char} (h : integer? s = some (n, r)) : r.length < s.length := by
  unfold integer? at h
  have h := (Option.filter_eq_some_iff.1 h).1
  split at h <;> obtain ⟨⟨m, t⟩, hm, he⟩ := Option.map_eq_some_iff.1 h <;> grind [→ length_digits, → length_decimal]

theorem length_newline_getD (s : List Char) : ((newline? s).getD s).length ≤ s.length := by
  cases h : newline? s with
  | none => exact Nat.le_refl _
  | some r => exact Nat.le_of_lt (length_newline h)

theorem length_text {t : String} {s r : List Char} (h : text? s = some (t, r)) : r.length < s.length := by
  unfold text? at h
  obtain ⟨⟨t, r⟩, hm, he⟩ := Option.map_eq_some_iff.1 h
  have := length_newline_getD
  split at hm <;> grind [→ length_lines, → length_quoted, → length_literal]

theorem length_key {k : String} {s r : List Char} (h : key? s = some (k, r)) : r.length < s.length := by
  unfold key? at h
  split at h
  · obtain ⟨⟨t, r⟩, hm, he⟩ := Option.map_eq_some_iff.1 h
    grind [→ length_quoted]
  · obtain ⟨⟨t, r⟩, hm, he⟩ := Option.map_eq_some_iff.1 h
    grind [→ length_literal]
  · split at h
    · contradiction
    · rename_i hs
      have := Text.length_dropWhile_lt hs
      grind

theorem length_value {v : Value} {s r : List Char} (h : value? s = some (v, r)) : r.length < s.length := by
  unfold value? at h
  grind [→ length_text, → length_integer]

theorem length_entry {e : String × Value} {s r : List Char} (h : entry? s = some (e, r)) :
    r.length < s.length := by
  have hb := Text.length_dropWhile_le isBlank
  unfold entry? at h
  split at h
  · contradiction
  · rename_i key t hk
    have := length_key hk
    split at h
    · rename_i u hu
      obtain ⟨⟨v, w⟩, hv, he⟩ := Option.map_eq_some_iff.1 h
      have := length_value hv
      have := hb t
      have := hb u
      grind
    · contradiction

theorem length_lineEnd {s r : List Char} (h : lineEnd? s = some r) :
    r.length ≤ s.length ∧ (r = [] ∨ r.length < s.length) := by
  have hb := Text.length_dropWhile_le isBlank s
  have hp := Text.length_dropWhile_le isPrintable (s.dropWhile isBlank)
  unfold lineEnd? at h
  grind [→ length_newline]

def entries? (s : List Char) : Option (List (String × Value)) :=
  match hs : s.dropWhile isBlank with
  | [] => some []
  | _ :: _ =>
    have : 0 < s.length := by
      cases s with
      | nil => contradiction
      | cons => simp
    match h : lineEnd? s with
    | some r =>
      have := length_lineEnd h
      entries? r
    | none =>
      match h : entry? (s.dropWhile isBlank) with
      | none => none
      | some (e, r) =>
        match h : lineEnd? r with
        | none => none
        | some t => (entries? t).map (e :: ·)
termination_by s.length
decreasing_by
  · grind
  · have := length_entry ‹_›
    have := length_lineEnd h
    have := Text.length_dropWhile_le isBlank s
    omega

def Document.ofText? (text : String) : Option Document :=
  let s := text.toList
  let s := if s.head? = some '\ufeff' then s.tail else s
  match entries? s with
  | none => none
  | some entries => if h : (Entries.keys entries).Nodup then some ⟨entries, h⟩ else none

end Specimen.Toml
