import Mathlib.Tactic.Lemma
import Specimen.Generator.BuiltIn
import Specimen.Generator.ImageUrl

/-! Draws that stop where a draw would have to come from an empty range or an index would lie outside a table. -/

namespace Specimen

inductive Hazard where
  | emptyRange
  | outOfTable
  | overflow
  deriving DecidableEq

abbrev Guarded (σ : Type) := StateT σ (Except Hazard)

namespace Guarded

variable {σ α β : Type}

def unguarded (m : StateM σ α) : Guarded σ α := fun s => .ok (m s)

section draws

variable [WordSource σ]

def below (w : Width) (span : Nat) : Guarded σ (Fin span) :=
  if h : 0 < span then unguarded (Specimen.below w span h) else throw .emptyRange

def between (w : Width) (lo hi : Nat) : Guarded σ Nat :=
  if lo ≤ hi then do
    let i ← below w (hi - lo + 1)
    return lo + i
  else throw .emptyRange

def pick (entries : Array α) : Guarded σ α := do
  let i ← below .half entries.size
  match entries[i.val]? with
  | some a => return a
  | none => throw .outOfTable

def digitFrom (least : Nat) : Guarded σ Char := do
  let d ← between .half least 9
  return Nat.digitChar d

def fill : List Char → Guarded σ (List Char)
  | [] => pure []
  | c :: rest => do
    let c ← if c = '#' then digitFrom 0 else if c = '^' then digitFrom 1 else pure c
    let rest ← fill rest
    return c :: rest

def number (formats : Array String) : Guarded σ String := do
  let format ← pick formats
  let digits ← fill format.toList
  return String.ofList digits

def firstName : Guarded σ String := pick Words.FirstNames.table.entries

def lastName : Guarded σ String := pick Words.LastNames.table.entries

def name : Guarded σ String := do
  let first ← firstName
  let last ← lastName
  return s!"{first} {last}"

def email : Guarded σ String := do
  let first ← firstName
  let domain ← pick Words.mailDomains.entries
  return s!"{first.toLower}@example.{domain}"

def streetName : Guarded σ String := do
  let named ← if ← unguarded coin then firstName else lastName
  let suffix ← pick Words.streetSuffixes.entries
  return s!"{named} {suffix}"

def address : Guarded σ String := do
  let building ← number Words.buildingNumbers.entries
  let street ← streetName
  return s!"{building} {street}"

def city : Guarded σ String := do
  let form ← below .half 5
  if form.val = 0 then
    let before ← pick Words.cityPrefixes.entries
    let first ← firstName
    let last ← lastName
    let suffix ← pick Words.citySuffixes.entries
    return s!"{before} {first} {last} {suffix}"
  else
    let named ← if form.val = 1 then firstName else lastName
    let suffix ← pick Words.citySuffixes.entries
    return s!"{named} {suffix}"

def country : Guarded σ String := pick Words.countries.entries

def phone : Guarded σ String := number Words.phoneNumbers.entries

def company : Guarded σ String := do
  let both ← below .half 2
  let first ← lastName
  let second ← lastName
  let suffix ← pick Words.companySuffixes.entries
  return if both.val = 0 then s!"{first} {suffix}" else s!"{first} and {second} {suffix}"

def fillerWord : Guarded σ String := do
  let word ← pick Words.lorem.entries
  return if word.isEmpty then "lorem" else word

def builtIn? (tag : String) : Option (Guarded σ String) :=
  if tag = "company" then some company
  else if tag = "phone" then some phone
  else if tag = "country" then some country
  else if tag = "city" then some city
  else if tag = "address" then some address
  else if tag = "email" then some email
  else if tag = "name" then some name
  else none

def drawUrl (spec : ImageSpec) (base : String) : Guarded σ String := do
  let nonce ← below .half ImageSpec.nonceBound
  return spec.url base nonce

end draws

def Guards (g : Guarded σ α) (m : StateM σ α) : Prop := ∀ s, g s = .ok (m s)

lemma guards_unguarded (m : StateM σ α) : Guards (unguarded m) m := fun _ => rfl

lemma Guards.pure (a : α) : Guards (Pure.pure a : Guarded σ α) (Pure.pure a) := fun _ => rfl

lemma Guards.bind {g : Guarded σ α} {m : StateM σ α} {f : α → Guarded σ β} {k : α → StateM σ β}
    (hg : Guards g m) (hf : ∀ a, Guards (f a) (k a)) : Guards (g >>= f) (m >>= k) := by
  intro s
  change (g s >>= fun p => f p.1 p.2) = _
  rw [hg s]
  exact hf _ _

section draws

variable [WordSource σ]

lemma guards_below (w : Width) {span : Nat} (h : 0 < span) :
    Guards (below w span : Guarded σ _) (Specimen.below w span h) := by
  rw [below, dif_pos h]
  exact guards_unguarded _

lemma guards_between (w : Width) {lo hi : Nat} (h : lo ≤ hi) :
    Guards (between w lo hi : Guarded σ _) (Specimen.between w lo hi h) := by
  rw [between, if_pos h]
  exact (guards_below w (Nat.succ_pos _)).bind fun _ => .pure _

lemma guards_pick (t : Table α) : Guards (pick t.entries : Guarded σ α) t.pick := by
  refine (guards_below .half t.size_pos).bind fun i => ?_
  rw [Array.getElem?_eq_getElem i.isLt]
  exact .pure _

lemma guards_digitFrom {least : Nat} (h : least ≤ 9) :
    Guards (digitFrom least : Guarded σ Char) (Generator.digitFrom least h) :=
  (guards_between .half h).bind fun _ => .pure _

lemma guards_fill (l : List Char) : Guards (fill l : Guarded σ _) (Generator.fill l) := by
  induction l with
  | nil => exact .pure _
  | cons c rest ih =>
    rw [fill, Generator.fill]
    split
    · exact (guards_digitFrom _).bind fun _ => ih.bind fun _ => .pure _
    split
    · exact (guards_digitFrom _).bind fun _ => ih.bind fun _ => .pure _
    · exact (Guards.pure c).bind fun _ => ih.bind fun _ => .pure _

lemma guards_number (t : Table String) : Guards (number t.entries : Guarded σ _) (Generator.number t) :=
  (guards_pick t).bind fun format => (guards_fill format.toList).bind fun _ => .pure _

lemma guards_firstName : Guards (firstName : Guarded σ _) Generator.firstName := guards_pick _

lemma guards_lastName : Guards (lastName : Guarded σ _) Generator.lastName := guards_pick _

lemma guards_name : Guards (name : Guarded σ _) Generator.name :=
  guards_firstName.bind fun _ => guards_lastName.bind fun _ => .pure _

lemma guards_email : Guards (email : Guarded σ _) Generator.email :=
  guards_firstName.bind fun _ => (guards_pick Words.mailDomains).bind fun _ => .pure _

lemma guards_streetName : Guards (streetName : Guarded σ _) Generator.streetName := by
  refine (guards_unguarded coin).bind fun heads => ?_
  cases heads
  · exact guards_lastName.bind fun _ => (guards_pick Words.streetSuffixes).bind fun _ => .pure _
  · exact guards_firstName.bind fun _ => (guards_pick Words.streetSuffixes).bind fun _ => .pure _

lemma guards_address : Guards (address : Guarded σ _) Generator.address :=
  (guards_number Words.buildingNumbers).bind fun _ => guards_streetName.bind fun _ => .pure _

lemma guards_city : Guards (city : Guarded σ _) Generator.city := by
  refine (guards_below .half (by decide)).bind fun form => ?_
  have hzero : form = 0 ↔ form.val = 0 := Fin.ext_iff
  have hone : form = 1 ↔ form.val = 1 := Fin.ext_iff
  simp only [hzero, hone]
  split
  · exact (guards_pick Words.cityPrefixes).bind fun _ => guards_firstName.bind fun _ =>
      guards_lastName.bind fun _ => (guards_pick Words.citySuffixes).bind fun _ => .pure _
  split
  · exact guards_firstName.bind fun _ => (guards_pick Words.citySuffixes).bind fun _ => .pure _
  · exact guards_lastName.bind fun _ => (guards_pick Words.citySuffixes).bind fun _ => .pure _

lemma guards_company : Guards (company : Guarded σ _) Generator.company := by
  refine (guards_below .half (by decide)).bind fun both => ?_
  have hzero : both = 0 ↔ both.val = 0 := Fin.ext_iff
  simp only [hzero]
  exact guards_lastName.bind fun _ => guards_lastName.bind fun _ =>
    (guards_pick Words.companySuffixes).bind fun _ => .pure _

lemma guards_fillerWord : Guards (fillerWord : Guarded σ _) Generator.fillerWord :=
  (guards_pick Words.lorem).bind fun _ => .pure _

lemma guards_drawUrl (spec : ImageSpec) (base : String) :
    Guards (drawUrl spec base : Guarded σ _) (spec.drawUrl base) :=
  (guards_below .half (by decide)).bind fun _ => .pure _

inductive Offers (tag : String) : Option (Guarded σ String) → Option (Generator σ) → Prop
  | absent : Offers tag none none
  | present {g m} : Guards g m → Offers tag (some g) (some (.ofText tag m))

omit [WordSource σ] in
lemma Offers.ite {tag name : String} {g : Guarded σ String} {m : StateM σ String} {o : Option (Guarded σ String)}
    {p : Option (Generator σ)} (h : Guards g m) (h' : Offers tag o p) :
    Offers tag (if tag = name then some g else o)
      (if tag = (Generator.ofText name m).tag then some (.ofText name m) else p) := by
  have htag : (Generator.ofText name m).tag = name := rfl
  rw [htag]
  by_cases hname : tag = name
  · rw [if_pos hname, if_pos hname, ← hname]
    exact .present h
  · rw [if_neg hname, if_neg hname]
    exact h'

lemma offers_builtIn (tag : String) : Offers (σ := σ) tag (builtIn? tag) (Registry.builtIn.find? tag) := by
  simp only [builtIn?, Registry.builtIn, List.foldl_cons, List.foldl_nil, Registry.find?_register]
  exact .ite guards_company <| .ite (guards_number _) <| .ite (guards_pick _) <| .ite guards_city <|
    .ite guards_address <| .ite guards_email <| .ite guards_name .absent

end draws

end Guarded

end Specimen
