import Specimen.Text.Digits

namespace Specimen.Net

structure IPv4 where
  first : UInt8
  second : UInt8
  third : UInt8
  fourth : UInt8
  deriving DecidableEq

structure IPv6 where
  groups : List UInt16
  length_eq : groups.length = 8
  deriving DecidableEq

inductive SocketAddress where
  | v4 (ip : IPv4) (socket : UInt16)
  | v6 (ip : IPv6) (zone : UInt32) (socket : UInt16)
  deriving DecidableEq

def number? (base : Nat) (bound : Nat) (s : List Char) : Option (Nat × List Char) :=
  let ds := s.takeWhile (Text.isDigit base)
  if ds ≠ [] ∧ Text.ofDigits base ds < bound then some (Text.ofDigits base ds, s.dropWhile (Text.isDigit base))
  else none

def behind? (c : Char) : List Char → Option (List Char)
  | [] => none
  | d :: r => if d = c then some r else none

namespace IPv4

def octet? (s : List Char) : Option (UInt8 × List Char) :=
  let ds := s.takeWhile (Text.isDigit 10)
  if 3 < ds.length ∨ (ds.head? = some '0' ∧ ds ≠ ['0']) then none
  else (number? 10 256 s).map fun (n, r) => (UInt8.ofNat n, r)

def ofText? (s : List Char) : Option (IPv4 × List Char) := do
  let (a, s) ← octet? s
  let (b, s) ← octet? (← behind? '.' s)
  let (c, s) ← octet? (← behind? '.' s)
  let (d, s) ← octet? (← behind? '.' s)
  return (⟨a, b, c, d⟩, s)

def text (ip : IPv4) : String := s!"{ip.first}.{ip.second}.{ip.third}.{ip.fourth}"

def highGroup (ip : IPv4) : UInt16 := ip.first.toUInt16 * 256 + ip.second.toUInt16

def lowGroup (ip : IPv4) : UInt16 := ip.third.toUInt16 * 256 + ip.fourth.toUInt16

end IPv4

namespace IPv6

structure Groups where
  groups : List UInt16
  embedsV4 : Bool
  rest : List Char

def group? (s : List Char) : Option (UInt16 × List Char) :=
  if 4 < (s.takeWhile (Text.isDigit 16)).length then none
  else (number? 16 UInt16.size s).map fun (n, r) => (UInt16.ofNat n, r)

def groupsUpTo : (limit : Nat) → (first : Bool) → List Char → Groups
  | 0, _, s => ⟨[], false, s⟩
  | limit + 1, first, s =>
    match if first then some s else behind? ':' s with
    | none => ⟨[], false, s⟩
    | some t =>
      match if 0 < limit then IPv4.ofText? t else none, group? t with
      | some (ip, r), _ => ⟨[ip.highGroup, ip.lowGroup], true, r⟩
      | none, some (g, r) =>
        let more := groupsUpTo limit false r
        ⟨g :: more.groups, more.embedsV4, more.rest⟩
      | none, none => ⟨[], false, s⟩

theorem length_groupsUpTo (limit : Nat) (first : Bool) (s : List Char) :
    (groupsUpTo limit first s).groups.length ≤ limit := by
  fun_induction groupsUpTo limit first s <;> grind

def ofText? (s : List Char) : Option (IPv6 × List Char) :=
  let head := groupsUpTo 8 true s
  if h : head.groups.length = 8 then some (⟨head.groups, h⟩, head.rest)
  else if head.embedsV4 then none
  else
    match (behind? ':' head.rest).bind (behind? ':') with
    | none => none
    | some r =>
      let tail := groupsUpTo (7 - head.groups.length) true r
      have hh : head.groups.length ≤ 8 := length_groupsUpTo 8 true s
      have ht : tail.groups.length ≤ 7 - head.groups.length := length_groupsUpTo _ true r
      let zeros := List.replicate (8 - head.groups.length - tail.groups.length) 0
      some (⟨head.groups ++ zeros ++ tail.groups, by simp [zeros]; omega⟩, tail.rest)

def mapped? (ip : IPv6) : Option IPv4 :=
  match ip.groups with
  | [0, 0, 0, 0, 0, 0xFFFF, high, low] =>
    some ⟨(high / 256).toUInt8, high.toUInt8, (low / 256).toUInt8, low.toUInt8⟩
  | _ => none

def zerosAt (ip : IPv6) (i : Nat) : Nat := ((ip.groups.drop i).takeWhile (· == 0)).length

def longestZeros (ip : IPv6) : Nat :=
  (List.range 8).foldl (fun best i => if ip.zerosAt best < ip.zerosAt i then i else best) 0

def groupTexts (groups : List UInt16) : String :=
  ":".intercalate (groups.map fun g => String.ofList (Nat.toDigits 16 g.toNat))

def text (ip : IPv6) : String :=
  match ip.mapped? with
  | some v4 => "::ffff:" ++ v4.text
  | none =>
    let start := ip.longestZeros
    if 1 < ip.zerosAt start then
      groupTexts (ip.groups.take start) ++ "::" ++ groupTexts (ip.groups.drop (start + ip.zerosAt start))
    else groupTexts ip.groups

end IPv6

namespace SocketAddress

def socket? (s : List Char) : Option UInt16 :=
  match (behind? ':' s).bind (number? 10 UInt16.size) with
  | some (n, []) => some (UInt16.ofNat n)
  | _ => none

def zone? (s : List Char) : Option (UInt32 × List Char) :=
  match s with
  | ']' :: r => some (0, r)
  | '%' :: r =>
    match number? 10 UInt32.size r with
    | some (n, ']' :: r) => some (UInt32.ofNat n, r)
    | _ => none
  | _ => none

def ofText? (s : String) : Option SocketAddress :=
  match s.toList with
  | '[' :: s => do
    let (ip, s) ← IPv6.ofText? s
    let (zone, s) ← zone? s
    return .v6 ip zone (← socket? s)
  | s => do
    let (ip, s) ← IPv4.ofText? s
    return .v4 ip (← socket? s)

def text : SocketAddress → String
  | .v4 ip socket => s!"{ip.text}:{socket}"
  | .v6 ip zone socket => if zone = 0 then s!"[{ip.text}]:{socket}" else s!"[{ip.text}%{zone}]:{socket}"

end SocketAddress

end Specimen.Net
