import Specimen.Json.Basic
import Specimen.Text.Digits
import Specimen.Text.Span

/-! Text that is not JSON is `malformed`; JSON of a kind that is not wanted is a `mismatch`. -/

namespace Specimen.Json

inductive Fault where
  | malformed
  | mismatch
  deriving DecidableEq

def Fault.text : Fault → String
  | .malformed => "the text is not JSON"
  | .mismatch => "the value has another shape"

/-- Whether numbers must fit and escapes must denote characters. Members that nobody asks for are
only scanned for their end. -/
inductive Rigour where
  | strict
  | lenient
  deriving DecidableEq

def hex4? (a b c d : Char) : Option Nat := do
  return (((← Text.digit? 16 a) * 16 + (← Text.digit? 16 b)) * 16 + (← Text.digit? 16 c)) * 16 + (← Text.digit? 16 d)

def simpleEscape? : Char → Option Char
  | '"' => some '"'
  | '\\' => some '\\'
  | '/' => some '/'
  | 'b' => some '\x08'
  | 'f' => some '\x0c'
  | 'n' => some '\n'
  | 'r' => some '\r'
  | 't' => some '\t'
  | _ => none

def isHighSurrogate (n : Nat) : Bool := 0xD800 ≤ n && n < 0xDC00

def isLowSurrogate (n : Nat) : Bool := 0xDC00 ≤ n && n < 0xE000

def textBody (rigour : Rigour) (read : List Char) : List Char → Except Fault (List Char × List Char)
  | [] => .error .malformed
  | '"' :: r => .ok (read.reverse, r)
  | '\\' :: 'u' :: a :: b :: c :: d :: r =>
    match hex4? a b c d with
    | none => .error .malformed
    | some n =>
      if rigour = .lenient then textBody rigour (Char.ofNat n :: read) r
      else if isLowSurrogate n then .error .malformed
      else if isHighSurrogate n then
        match r with
        | '\\' :: 'u' :: a :: b :: c :: d :: r =>
          match hex4? a b c d with
          | none => .error .malformed
          | some m =>
            if isLowSurrogate m then
              textBody rigour (Char.ofNat (0x10000 + (n - 0xD800) * 0x400 + (m - 0xDC00)) :: read) r
            else .error .malformed
        | _ => .error .malformed
      else textBody rigour (Char.ofNat n :: read) r
  | '\\' :: c :: r =>
    match simpleEscape? c with
    | none => .error .malformed
    | some e => textBody rigour (e :: read) r
  | c :: r => if c = '\\' ∨ c.toNat < 32 then .error .malformed else textBody rigour (c :: read) r

theorem length_lt_of_textBody {rigour : Rigour} {read s t r : List Char}
    (h : textBody rigour read s = .ok (t, r)) : r.length < s.length := by
  fun_induction textBody rigour read s <;> (try simp only [List.length_cons]) <;> grind

structure Lexeme where
  negative : Bool
  whole : List Char
  fraction : Option (List Char)
  exponent : Option Int
  deriving DecidableEq

def digitsOf (ds : List Char) : Nat := Nat.ofDigitChars 10 ds 0

def exponentPart (s : List Char) : Except Fault (Option Int × List Char) :=
  match s with
  | [] => .ok (none, s)
  | e :: r =>
    if e = 'e' ∨ e = 'E' then
      let signed := match r with
        | '-' :: t => (true, t)
        | '+' :: t => (false, t)
        | t => (false, t)
      let ds := signed.2.takeWhile Char.isDigit
      if ds = [] then .error .malformed
      else .ok (some (if signed.1 then -(digitsOf ds : Int) else digitsOf ds), signed.2.dropWhile Char.isDigit)
    else .ok (none, s)

def fractionPart (s : List Char) : Except Fault (Option (List Char) × List Char) :=
  match s with
  | '.' :: r =>
    let ds := r.takeWhile Char.isDigit
    if ds = [] then .error .malformed else .ok (some ds, r.dropWhile Char.isDigit)
  | _ => .ok (none, s)

def unsignedLexeme (negative : Bool) (s : List Char) : Except Fault (Lexeme × List Char) :=
  if s.takeWhile Char.isDigit = [] ∨
      ((s.takeWhile Char.isDigit).head? = some '0' ∧ s.takeWhile Char.isDigit ≠ ['0']) then .error .malformed
  else
    match fractionPart (s.dropWhile Char.isDigit) with
    | .error f => .error f
    | .ok (fraction, r) =>
      match exponentPart r with
      | .error f => .error f
      | .ok (exponent, r) => .ok (⟨negative, s.takeWhile Char.isDigit, fraction, exponent⟩, r)

def lexeme (s : List Char) : Except Fault (Lexeme × List Char) :=
  match s with
  | '-' :: r => unsignedLexeme true r
  | _ => unsignedLexeme false s

namespace Lexeme

def isInteger (l : Lexeme) : Bool := l.fraction.isNone && l.exponent.isNone

def double? (l : Lexeme) : Option Binary64 :=
  let fraction := l.fraction.getD []
  Binary64.ofDecimal? l.negative (digitsOf (l.whole ++ fraction)) (l.exponent.getD 0 - fraction.length)

def number? (l : Lexeme) : Option Number :=
  let n := digitsOf l.whole
  if l.isInteger && !l.negative && decide (n < UInt64.size) then some (.natural (UInt64.ofNat n))
  else if h : l.isInteger ∧ l.negative ∧ 0 < n ∧ n - 1 < 1 <<< 63 then some (.negative ⟨n - 1, h.2.2.2⟩)
  else l.double?.map .double

end Lexeme

theorem length_exponentPart {s r : List Char} {e : Option Int} (h : exponentPart s = .ok (e, r)) :
    r.length ≤ s.length := by
  unfold exponentPart at h
  have := fun t => Text.length_dropWhile_le Char.isDigit t
  grind

theorem length_fractionPart {s r : List Char} {f : Option (List Char)} (h : fractionPart s = .ok (f, r)) :
    r.length ≤ s.length := by
  unfold fractionPart at h
  have := fun t => Text.length_dropWhile_le Char.isDigit t
  grind

theorem length_unsignedLexeme {b : Bool} {s r : List Char} {l : Lexeme} (h : unsignedLexeme b s = .ok (l, r)) :
    r.length < s.length := by
  unfold unsignedLexeme at h
  split at h
  · contradiction
  · rename_i hw
    have hlt := Text.length_dropWhile_lt fun hn => hw (.inl hn)
    split at h
    · contradiction
    · rename_i hf
      have hf := length_fractionPart hf
      split at h
      · contradiction
      · rename_i he
        have he := length_exponentPart he
        simp only [Except.ok.injEq, Prod.mk.injEq] at h
        rw [← h.2]
        omega

theorem length_lexeme {s r : List Char} {l : Lexeme} (h : lexeme s = .ok (l, r)) : r.length < s.length := by
  unfold lexeme at h
  split at h
  · exact Nat.lt_succ_of_lt (length_unsignedLexeme h)
  · exact length_unsignedLexeme h

end Specimen.Json
