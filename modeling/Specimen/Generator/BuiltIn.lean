import Specimen.Generator.Basic
import Specimen.Words.FirstNames
import Specimen.Words.LastNames
import Specimen.Words.Phrases
import Specimen.Words.Places

namespace Specimen.Generator

variable {σ : Type} [WordSource σ]

def digitFrom (least : Nat) (h : least ≤ 9) : StateM σ Char := do
  let d ← between .half least 9 h
  return Nat.digitChar d

/-- `#` stands for any digit and `^` for one that is not zero. -/
def fill : List Char → StateM σ (List Char)
  | [] => pure []
  | c :: rest => do
    let c ← if c = '#' then digitFrom 0 (by decide) else if c = '^' then digitFrom 1 (by decide) else pure c
    let rest ← fill rest
    return c :: rest

def number (formats : Table String) : StateM σ String := do
  let format ← formats.pick
  let digits ← fill format.toList
  return String.ofList digits

def firstName : StateM σ String := Words.FirstNames.table.pick

def lastName : StateM σ String := Words.LastNames.table.pick

def name : StateM σ String := do
  let first ← firstName
  let last ← lastName
  return s!"{first} {last}"

def email : StateM σ String := do
  let first ← firstName
  let domain ← Words.mailDomains.pick
  return s!"{first.toLower}@example.{domain}"

def streetName : StateM σ String := do
  let named ← if ← coin then firstName else lastName
  let suffix ← Words.streetSuffixes.pick
  return s!"{named} {suffix}"

def address : StateM σ String := do
  let building ← number Words.buildingNumbers
  let street ← streetName
  return s!"{building} {street}"

def city : StateM σ String := do
  let form ← below .half 5 (by decide)
  if form = 0 then
    let before ← Words.cityPrefixes.pick
    let first ← firstName
    let last ← lastName
    let suffix ← Words.citySuffixes.pick
    return s!"{before} {first} {last} {suffix}"
  else
    let named ← if form = 1 then firstName else lastName
    let suffix ← Words.citySuffixes.pick
    return s!"{named} {suffix}"

def country : StateM σ String := Words.countries.pick

def phone : StateM σ String := number Words.phoneNumbers

/-- A company bears one name or two, but both are drawn. -/
def company : StateM σ String := do
  let both ← below .half 2 (by decide)
  let first ← lastName
  let second ← lastName
  let suffix ← Words.companySuffixes.pick
  return if both = 0 then s!"{first} {suffix}" else s!"{first} and {second} {suffix}"

def fillerWord : StateM σ String := do
  let word ← Words.lorem.pick
  return if word.isEmpty then "lorem" else word

end Specimen.Generator

namespace Specimen.Registry

variable {σ : Type} [WordSource σ]

def empty : Registry σ := ⟨.empty, .ofText "lorem.word" Generator.fillerWord⟩

def builtIn : Registry σ :=
  [("name", Generator.name), ("email", Generator.email), ("address", Generator.address),
    ("city", Generator.city), ("country", Generator.country), ("phone", Generator.phone),
    ("company", Generator.company)].foldl (fun r g => r.register (.ofText g.1 g.2)) empty

end Specimen.Registry
