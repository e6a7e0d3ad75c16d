import Specimen.Text.Digits
import Specimen.Text.Span

/-! Each reader starts behind the opening mark and leaves the rest behind the closing one. -/

namespace Specimen.Toml

def isBlank (c : Char) : Bool := c == ' ' || c == '\t'

def isPrintable (c : Char) : Bool := c == '\t' || (32 ≤ c.toNat && c.toNat != 127)

def simpleEscape? : Char → Option Char
  | 'b' => some '\x08'
  | 't' => some '\t'
  | 'n' => some '\n'
  | 'f' => some '\x0c'
  | 'r' => some '\r'
  | '"' => some '"'
  | '\\' => some '\\'
  | _ => none

def numbered? (ds : List Char) : Option Char :=
  if ds.all (Text.isDigit 16) then
    let n := Text.ofDigits 16 ds
    if h : n.isValidChar then some (Char.ofNatAux n h) else none
  else none

def escaped? : List Char → Option (Char × List Char)
  | 'u' :: a :: b :: c :: d :: r => (numbered? [a, b, c, d]).map (·, r)
  | 'U' :: a :: b :: c :: d :: e :: f :: g :: h :: r => (numbered? [a, b, c, d, e, f, g, h]).map (·, r)
  | c :: r => (simpleEscape? c).map (·, r)
  | [] => none

theorem length_escaped {s r : List Char} {c : Char} (h : escaped? s = some (c, r)) : r.length < s.length := by
  unfold escaped? at h
  split at h <;> simp only [Option.map_eq_some_iff, Prod.mk.injEq, reduceCtorEq] at h <;>
    (obtain ⟨_, _, _, rfl⟩ := h; simp only [List.length_cons]; omega)

def newline? : List Char → Option (List Char)
  | '\n' :: r => some r
  | '\r' :: '\n' :: r => some r
  | _ => none

theorem length_newline {s r : List Char} (h : newline? s = some r) : r.length < s.length := by
  unfold newline? at h
  grind

def quoted (read : List Char) (s : List Char) : Option (List Char × List Char) :=
  match s with
  | [] => none
  | '"' :: r => some (read.reverse, r)
  | '\\' :: r =>
    match h : escaped? r with
    | none => none
    | some (c, t) =>
      have := length_escaped h
      quoted (c :: read) t
  | c :: r => if isPrintable c then quoted (c :: read) r else none
termination_by s.length

theorem length_quoted {read s t r : List Char} (h : quoted read s = some (t, r)) : r.length < s.length := by
  fun_induction quoted read s <;> grind

def literal (s : List Char) : Option (List Char × List Char) :=
  match s.dropWhile fun c => isPrintable c && c != '\x27' with
  | '\x27' :: r => some (s.takeWhile fun c => isPrintable c && c != '\x27', r)
  | _ => none

theorem length_literal {s t r : List Char} (h : literal s = some (t, r)) : r.length < s.length := by
  have := Text.length_dropWhile_le (fun c => isPrintable c && c != '\x27') s
  unfold literal at h
  grind

/-- The marks that close a text over several lines, of which up to two more may stand at its end. -/
def closing? (mark : Char) (s : List Char) : Option (List Char × List Char) :=
  let marks := s.takeWhile (· == mark)
  if marks.length < 3 then none
  else some (List.replicate (min marks.length 5 - 3) mark, s.drop (min marks.length 5))

theorem length_closing {mark : Char} {s t r : List Char} (h : closing? mark s = some (t, r)) :
    r.length < s.length := by
  have := (List.takeWhile_prefix (l := s) (· == mark)).length_le
  grind [closing?]

def skipBlankLines : List Char → List Char
  | '\r' :: '\n' :: r => skipBlankLines r
  | c :: r => if isBlank c || c == '\n' then skipBlankLines r else c :: r
  | [] => []

theorem length_skipBlankLines (s : List Char) : (skipBlankLines s).length ≤ s.length := by
  fun_induction skipBlankLines s <;> grind

def continued? (s : List Char) : Option (List Char) := (newline? (s.dropWhile isBlank)).map skipBlankLines

theorem length_continued {s r : List Char} (h : continued? s = some r) : r.length < s.length := by
  have h₁ := Text.length_dropWhile_le isBlank s
  obtain ⟨t, ht, rfl⟩ := Option.map_eq_some_iff.1 h
  have h₂ := length_skipBlankLines t
  have h₃ := length_newline ht
  omega

def lines (mark : Char) (escapes : Bool) (read : List Char) (s : List Char) : Option (List Char × List Char) :=
  match closing? mark s with
  | some (marks, r) => some (read.reverse ++ marks, r)
  | none =>
    match h : newline? s with
    | some r =>
      have := length_newline h
      lines mark escapes ('\n' :: read) r
    | none =>
      match s with
      | [] => none
      | c :: r =>
        if escapes && c == '\\' then
          match h : continued? r with
          | some t =>
            have := length_continued h
            lines mark escapes read t
          | none =>
            match h : escaped? r with
            | some (e, t) =>
              have := length_escaped h
              lines mark escapes (e :: read) t
            | none => none
        else if isPrintable c then lines mark escapes (c :: read) r
        else none
termination_by s.length

theorem length_lines {mark : Char} {escapes : Bool} {read s t r : List Char}
    (h : lines mark escapes read s = some (t, r)) : r.length < s.length := by
  fun_induction lines mark escapes read s <;> grind [→ length_closing, → length_newline, → length_continued, → length_escaped]

end Specimen.Toml
