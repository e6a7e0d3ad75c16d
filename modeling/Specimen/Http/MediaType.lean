import Specimen.Text.Span

/-! Media types, as the header `Content-Type` names them. Parameters have to be well formed, but they are not kept. -/

namespace Specimen.Http

structure MediaType where
  type : String
  subtype : String
  suffix : Option String
  deriving DecidableEq

namespace MediaType

def tokenMarks : String := "!#$%&'*+-.^_`|~"

def isToken (c : Char) : Bool := c.isAlphanum || tokenMarks.toList.contains c

def isVisible (c : Char) : Bool := 32 ≤ c.toNat && c.toNat ≤ 126

def afterQuoted : List Char → Option (List Char)
  | [] => none
  | _ :: s =>
    match s.dropWhile (· ≠ '"') with
    | [] => none
    | _ :: r => some (r.dropWhile (· = ' '))

def afterPlain (s : List Char) : Option (List Char) :=
  let r := s.dropWhile isToken
  if r = [] ∨ s.takeWhile isToken ≠ [] then some r else none

theorem length_afterQuoted {s r : List Char} (h : afterQuoted s = some r) : r.length ≤ s.length := by
  cases s with
  | nil => simp [afterQuoted] at h
  | cons c s =>
    have h1 := Text.length_dropWhile_le (· ≠ '"') s
    rw [afterQuoted] at h
    split at h
    · contradiction
    · rename_i d t ht
      have h2 := Text.length_dropWhile_le (· = ' ') t
      rw [ht] at h1
      rw [Option.some.injEq] at h
      simp only [List.length_cons] at h1 ⊢
      rw [← h]
      omega

theorem length_afterPlain {s r : List Char} (h : afterPlain s = some r) : r.length ≤ s.length := by
  have := Text.length_dropWhile_le isToken s
  simp only [afterPlain] at h
  split at h
  · rw [Option.some.injEq] at h
    rw [← h]
    exact this
  · contradiction

def afterValue (s : List Char) : Option (List Char) :=
  match s with
  | '"' :: r => afterQuoted r
  | s => afterPlain s

theorem length_afterValue {s r : List Char} (h : afterValue s = some r) : r.length ≤ s.length := by
  unfold afterValue at h
  split at h
  · exact Nat.le_succ_of_le (length_afterQuoted h)
  · exact length_afterPlain h

def parametersOk (s : List Char) : Bool :=
  match s with
  | [] => true
  | ' ' :: r => parametersOk r
  | c :: r =>
    if isToken c then
      match _hn : r.dropWhile isToken with
      | '=' :: v =>
        match _ha : afterValue v with
        | none => false
        | some [] => true
        | some (d :: t) => if d = ';' then parametersOk t else false
      | _ => false
    else false
termination_by s.length
decreasing_by
  · simp
  · have h₁ := Text.length_dropWhile_le isToken r
    have h₂ := length_afterValue _ha
    rw [_hn] at h₁
    simp only [List.length_cons] at h₁ h₂ ⊢
    omega

def splitSuffix (s : List Char) : String × Option String :=
  let suffix := (s.reverse.takeWhile (· ≠ '+')).reverse
  let before := s.take (s.length - suffix.length - 1)
  if before = [] then (String.ofList s, none) else (String.ofList before, some (String.ofList suffix))

def ofText? (text : String) : Option MediaType :=
  let s := text.toList.map Char.toLower
  let type := s.takeWhile isToken
  match s.dropWhile isToken with
  | '/' :: r =>
    let (subtype, suffix) := splitSuffix (r.takeWhile isToken)
    let parameters := match r.dropWhile isToken with
      | [] => true
      | c :: t => c == ';' && r.takeWhile isToken != [] && parametersOk t
    if s.all isVisible && type != [] && parameters then some ⟨String.ofList type, subtype, suffix⟩ else none
  | _ => none

def isJson (m : MediaType) : Bool :=
  m.type == "application" && (m.subtype == "json" || m.suffix == some "json")

end MediaType

end Specimen.Http
