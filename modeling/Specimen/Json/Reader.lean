import Specimen.Json.Lexeme

/-! A reader takes the text that is left and gives a value together with a strictly shorter rest, so loops end
because the text does. The first fault in the order of reading counts. -/

universe u v

namespace Specimen.Json

abbrev Rest (s : List Char) := { r : List Char // r.length < s.length }

abbrev Reading (s : List Char) (α : Type u) := Except Fault (α × Rest s)

abbrev Reader (α : Type u) := (s : List Char) → Reading s α

namespace Reading

variable {α : Type u} {β : Type v} {s t : List Char}

def map (f : α → β) (m : Reading s α) : Reading s β := Except.map (fun p => (f p.1, p.2)) m

def widen (h : s.length ≤ t.length) (m : Reading s α) : Reading t α :=
  Except.map (fun p => (p.1, ⟨p.2.1, Nat.lt_of_lt_of_le p.2.2 h⟩)) m

end Reading

def isBlank (c : Char) : Bool := c == ' ' || c == '\t' || c == '\n' || c == '\r'

def skipBlanks (s : List Char) : List Char := s.dropWhile isBlank

theorem length_lt_of_skipBlanks {s t : List Char} {c : Char} (h : skipBlanks s = c :: t) :
    t.length < s.length := by
  have := Text.length_dropWhile_le isBlank s
  rw [show s.dropWhile isBlank = c :: t from h] at this
  exact this

theorem length_le_of_skipBlanks_eq {s t : List Char} {c : Char} (h : skipBlanks s = c :: t) :
    t.length ≤ s.length :=
  Nat.le_of_lt (length_lt_of_skipBlanks h)

theorem length_le_of_skipBlanks (s : List Char) : (skipBlanks s).length ≤ s.length :=
  Text.length_dropWhile_le isBlank s

def unwanted (s : List Char) : Fault :=
  match skipBlanks s with
  | [] => .malformed
  | c :: r =>
    if c = '[' ∨ c = '{' then .mismatch
    else if c = '"' then match textBody .strict [] r with | .ok _ => .mismatch | .error f => f
    else if c = '-' ∨ c.isDigit then
      match lexeme (c :: r) with
      | .ok (l, _) => if l.number?.isSome then .mismatch else .malformed
      | .error f => f
    else if c = 'n' then if "ull".toList.isPrefixOf r then .mismatch else .malformed
    else if c = 't' then if "rue".toList.isPrefixOf r then .mismatch else .malformed
    else if c = 'f' then if "alse".toList.isPrefixOf r then .mismatch else .malformed
    else .malformed

def name (rigour : Rigour) : Reader String := fun s =>
  match h : skipBlanks s with
  | [] => .error .malformed
  | c :: r =>
    if c = '"' then
      match ht : textBody rigour [] r with
      | .error f => .error f
      | .ok (t, r') => .ok (String.ofList t, ⟨r', Nat.lt_trans (length_lt_of_textBody ht) (length_lt_of_skipBlanks h)⟩)
    else .error .malformed

def text (rigour : Rigour) : Reader String := fun s =>
  if (skipBlanks s).head? = some '"' then name rigour s else .error (unwanted s)

def number (rigour : Rigour) : Reader Number := fun s =>
  match h : lexeme (skipBlanks s) with
  | .error f => .error f
  | .ok (l, r) =>
    match l.number?, rigour with
    | some n, _ => .ok (n, ⟨r, Nat.lt_of_lt_of_le (length_lexeme h) (length_le_of_skipBlanks s)⟩)
    | none, .lenient =>
      .ok (.double (.zero false), ⟨r, Nat.lt_of_lt_of_le (length_lexeme h) (length_le_of_skipBlanks s)⟩)
    | none, .strict => .error .malformed

def wordTail {α : Type u} (w : List Char) (a : α) (s : List Char) : Except Fault (α × { r : List Char // r.length ≤ s.length }) :=
  if w.isPrefixOf s then .ok (a, ⟨s.drop w.length, by simp⟩) else .error .malformed

def leaf (rigour : Rigour) : Reader Json := fun s =>
  match h : skipBlanks s with
  | [] => .error .malformed
  | c :: r =>
    let word (w : String) (v : Json) : Reading s Json :=
      Except.map (fun p => (p.1, ⟨p.2.1, Nat.lt_of_le_of_lt p.2.2 (length_lt_of_skipBlanks h)⟩)) (wordTail w.toList v r)
    if c = '"' then (name rigour s).map .str
    else if c = '-' ∨ c.isDigit then (number rigour s).map .num
    else if c = 'n' then word "ull" .null
    else if c = 't' then word "rue" (.bool true)
    else if c = 'f' then word "alse" (.bool false)
    else .error .malformed

def items {α : Type u} {start : List Char} (read : Reader α) (before : List α) (s : List Char)
    (hs : s.length ≤ start.length) : Reading start (List α) :=
  match read s with
  | .error f => .error f
  | .ok (a, ⟨r, hr⟩) =>
    match hb : skipBlanks r with
    | [] => .error .malformed
    | c :: t =>
      have ht : t.length < s.length := Nat.lt_trans (length_lt_of_skipBlanks hb) hr
      if c = ',' then items read (a :: before) t (Nat.le_trans (Nat.le_of_lt ht) hs)
      else if c = ']' then .ok ((a :: before).reverse, ⟨t, Nat.lt_of_lt_of_le ht hs⟩)
      else .error .malformed
termination_by s.length

def sequence {α : Type u} (read : Reader α) : Reader (List α) := fun s =>
  match h : skipBlanks s with
  | [] => .error .malformed
  | c :: r =>
    if c = ']' then .ok ([], ⟨r, length_lt_of_skipBlanks h⟩) else items read [] s (Nat.le_refl _)

/-- What follows an opening brace or a comma in an object that is not empty. For the name of each
member `read` gives the reader of its value, or refuses the name before the value is looked at. -/
def members {α : Type u} {start : List Char} (rigour : Rigour) (read : String → α → Except Fault (Reader α))
    (before : α) (s : List Char) (hs : s.length ≤ start.length) : Reading start α :=
  match name rigour s with
  | .error f => .error f
  | .ok (key, ⟨r, hr⟩) =>
    match read key before with
    | .error f => .error f
    | .ok reader =>
      match hc : skipBlanks r with
      | [] => .error .malformed
      | c :: t =>
        if c = ':' then
          match reader t with
          | .error f => .error f
          | .ok (after, ⟨u, hu⟩) =>
            match hb : skipBlanks u with
            | [] => .error .malformed
            | d :: w =>
              have hw : w.length < s.length :=
                Nat.lt_trans (length_lt_of_skipBlanks hb) (Nat.lt_trans hu (Nat.lt_trans (length_lt_of_skipBlanks hc) hr))
              if d = ',' then members rigour read after w (Nat.le_trans (Nat.le_of_lt hw) hs)
              else if d = '}' then .ok (after, ⟨w, Nat.lt_of_lt_of_le hw hs⟩)
              else .error .malformed
        else .error .malformed
termination_by s.length

def block {α : Type u} (rigour : Rigour) (read : String → α → Except Fault (Reader α)) (before : α) : Reader α := fun s =>
  match h : skipBlanks s with
  | [] => .error .malformed
  | c :: r =>
    if c = '}' then .ok (before, ⟨r, length_lt_of_skipBlanks h⟩) else members rigour read before s (Nat.le_refl _)

/-- A value in which at most `levels` arrays and objects lie within each other. Of members with one
name the last value counts, in the place of the first. -/
def value (rigour : Rigour) : (levels : Nat) → Reader Json
  | 0 => leaf rigour
  | levels + 1 => fun s =>
    match h : skipBlanks s with
    | [] => .error .malformed
    | c :: r =>
      if c = '[' then
        ((sequence (value rigour levels) r).map .arr).widen (length_le_of_skipBlanks_eq h)
      else if c = '{' then
        ((block rigour (fun key ms => .ok fun t => (value rigour levels t).map (Entries.set key · ms)) [] r).map .obj).widen
          (length_le_of_skipBlanks_eq h)
      else leaf rigour s

def skip : Reader Unit := fun s => (value .lenient s.length s).map fun _ => ()

def maxNesting : Nat := 127

def document {α : Type u} (read : Reader α) (s : String) : Except Fault α :=
  match read s.toList with
  | .error f => .error f
  | .ok (a, r) => if skipBlanks r = [] then .ok a else .error .malformed

def parse (s : String) : Except Fault Json := document (value .strict maxNesting) s

end Specimen.Json
