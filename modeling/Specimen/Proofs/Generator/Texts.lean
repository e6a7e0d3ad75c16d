import Mathlib.Data.List.Forall2
import Specimen.Generator.BuiltIn
import Specimen.Proofs.Generator.Draws
import Specimen.Proofs.Text.Visible

namespace Specimen

open Text (IsVisible isBlank startsVisibly)

def Always {σ α : Type} (m : StateM σ α) (P : α → Prop) : Prop := ∀ s, P (m s).1

namespace Always

variable {σ α β : Type} {m : StateM σ α} {P : α → Prop} {Q : β → Prop}

lemma pure {a : α} (h : P a) : Always (Pure.pure a : StateM σ α) P := fun _ => h

lemma bind {f : α → StateM σ β} (hm : Always m P) (hf : ∀ a, P a → Always (f a) Q) : Always (m >>= f) Q :=
  fun s => hf _ (hm s) _

lemma after {f : α → StateM σ β} (hf : ∀ a, Always (f a) Q) : Always (m >>= f) Q := fun _ => hf _ _

lemma mono {R : α → Prop} (hm : Always m P) (h : ∀ a, P a → R a) : Always m R := fun s => h _ (hm s)

end Always

variable {σ : Type} [WordSource σ]

lemma always_between (w : Width) {lo hi : Nat} (h : lo ≤ hi) :
    Always (between w lo hi h : StateM σ Nat) fun n => lo ≤ n ∧ n ≤ hi :=
  fun s => ⟨le_between w lo hi h s, between_le w lo hi h s⟩

lemma always_pick {α : Type} (t : Table α) : Always (t.pick : StateM σ α) (· ∈ t.entries) :=
  .after fun _ => .pure (Array.getElem_mem _)

lemma always_pick_visible {t : Table String} (h : t.entries.toList.all startsVisibly) :
    Always (t.pick : StateM σ String) IsVisible :=
  (always_pick t).mono fun _ ha =>
    Text.isVisible_of_startsVisibly (List.all_eq_true.1 h _ (Array.mem_toList_iff.2 ha))

namespace Generator

section formats

def Fills (c d : Char) : Prop := if c = '#' ∨ c = '^' then (d.isDigit : Prop) else d = c

lemma always_digitFrom {least : Nat} (h : least ≤ 9) : Always (digitFrom least h : StateM σ Char) (·.isDigit) := by
  refine (always_between .half h).bind fun d hd => .pure ?_
  have hdigit : ∀ d ≤ 9, (Nat.digitChar d).isDigit := by decide
  exact hdigit d hd.2

lemma always_fill (l : List Char) : Always (fill l : StateM σ (List Char)) (List.Forall₂ Fills l) := by
  induction l with
  | nil => exact .pure .nil
  | cons c rest ih =>
    have hcons {d : Char} (hd : Fills c d) :
        Always (do let rest ← fill rest; return d :: rest : StateM σ (List Char)) (List.Forall₂ Fills (c :: rest)) :=
      ih.bind fun _ hrest => .pure (.cons hd hrest)
    rw [fill]
    split
    · rename_i h
      exact (always_digitFrom _).bind fun d hd => hcons (by rwa [Fills, if_pos (.inl h)])
    split
    · rename_i h
      exact (always_digitFrom _).bind fun d hd => hcons (by rwa [Fills, if_pos (.inr h)])
    · rename_i hhash hcaret
      exact hcons (by rw [Fills, if_neg (by simp [hhash, hcaret])])

lemma always_number (formats : Table String) : Always (number formats : StateM σ String) fun text =>
    ∃ format ∈ formats.entries, List.Forall₂ Fills format.toList text.toList :=
  (always_pick formats).bind fun format hformat => (always_fill format.toList).bind fun _ hfills =>
    .pure ⟨format, hformat, by rwa [String.toList_ofList]⟩

lemma visible_of_fills {l m : List Char} (h : List.Forall₂ Fills l m) (hl : ∃ c ∈ l, isBlank c = false) :
    ∃ d ∈ m, isBlank d = false := by
  induction h with
  | nil => simp at hl
  | @cons c d l m hd _ ih =>
    obtain ⟨x, hx, hblank⟩ := hl
    rcases List.mem_cons.1 hx with rfl | hx
    · refine ⟨d, List.mem_cons_self, ?_⟩
      rw [Fills] at hd
      split at hd
      · exact Text.isBlank_of_isDigit hd
      · rwa [hd]
    · obtain ⟨y, hy, hblank⟩ := ih ⟨x, hx, hblank⟩
      exact ⟨y, List.mem_cons_of_mem d hy, hblank⟩

lemma digits_of_fills {l m : List Char} (h : List.Forall₂ Fills l m) (hl : ∀ c ∈ l, c = '#') :
    ∀ d ∈ m, d.isDigit := by
  induction h with
  | nil => simp
  | cons hd _ ih =>
    obtain ⟨hc, hl⟩ := List.forall_mem_cons.1 hl
    rw [Fills, if_pos (.inl hc)] at hd
    exact List.forall_mem_cons.2 ⟨hd, ih hl⟩

end formats

def IsMailAddress (text : String) : Prop :=
  ∃ name domain, text = name ++ "@example." ++ domain ∧ name ≠ "" ∧ (∀ c ∈ name.toList, c.isUpper = false) ∧
    domain ∈ ["com", "net", "org"]

def IsStreetAddress (text : String) : Prop :=
  ∃ number street, text = number ++ " " ++ street ∧ number ≠ "" ∧ ∀ c ∈ number.toList, c.isDigit

lemma IsMailAddress.isVisible {text : String} (h : IsMailAddress text) : IsVisible text := by
  obtain ⟨name, domain, rfl, -⟩ := h
  have hat : IsVisible "@example." := ⟨'@', by decide, by decide⟩
  exact (hat.append_left name).append_right domain

lemma IsStreetAddress.isVisible {text : String} (h : IsStreetAddress text) : IsVisible text := by
  obtain ⟨number, street, rfl, hne, hdigits⟩ := h
  have hnumber : IsVisible number := by
    obtain ⟨c, hc⟩ := List.exists_mem_of_ne_nil _ (mt String.toList_eq_nil_iff.1 hne)
    exact ⟨c, hc, Text.isBlank_of_isDigit (hdigits c hc)⟩
  exact (hnumber.append_right " ").append_right street

lemma always_firstName : Always (firstName : StateM σ String) IsVisible := always_pick_visible (by decide +kernel)

lemma always_lastName : Always (lastName : StateM σ String) IsVisible := always_pick_visible (by decide +kernel)

lemma always_name : Always (name : StateM σ String) IsVisible :=
  always_firstName.bind fun _ hfirst => .after fun last => .pure ((hfirst.append_right " ").append_right last)

lemma toList_toLower (text : String) : text.toLower.toList = text.toList.map Char.toLower := String.toList_map

lemma isUpper_of_mem_toLower {text : String} {c : Char} (h : c ∈ text.toLower.toList) : c.isUpper = false := by
  rw [toList_toLower] at h
  obtain ⟨d, -, rfl⟩ := List.mem_map.1 h
  unfold Char.toLower Char.isUpper
  split <;> grind [UInt32.toNat_add, Char.toNat_val]

lemma always_email : Always (email : StateM σ String) IsMailAddress := by
  refine always_firstName.bind fun first hfirst => (always_pick Words.mailDomains).bind fun domain hdomain => .pure ?_
  refine ⟨first.toLower, domain, rfl, fun h => hfirst.ne_empty ?_, fun _ => isUpper_of_mem_toLower, ?_⟩
  · rw [← String.toList_eq_nil_iff] at h ⊢
    simpa [toList_toLower] using h
  · simpa [Words.mailDomains] using hdomain

lemma always_address : Always (address : StateM σ String) IsStreetAddress := by
  refine (always_number Words.buildingNumbers).bind fun building hbuilding => .after fun street => .pure ?_
  obtain ⟨format, hformat, hfills⟩ := hbuilding
  have hall : ∀ format ∈ Words.buildingNumbers.entries, format.toList ≠ [] ∧ ∀ c ∈ format.toList, c = '#' := by
    simp [Words.buildingNumbers]
  obtain ⟨hne, hhash⟩ := hall format hformat
  refine ⟨building, street, rfl, fun h => hne ?_, digits_of_fills hfills hhash⟩
  rw [← String.toList_eq_nil_iff] at h
  rw [h] at hfills
  exact List.forall₂_nil_right_iff.1 hfills

lemma always_city : Always (city : StateM σ String) IsVisible := by
  refine .after fun form => ?_
  split
  · have hprefixes : Always (Words.cityPrefixes.pick : StateM σ String) IsVisible := always_pick_visible (by decide)
    refine hprefixes.bind fun before hbefore => .after fun first => .after fun last => .after fun suffix => .pure ?_
    exact (((((hbefore.append_right " ").append_right first).append_right " ").append_right last).append_right
      " ").append_right suffix
  · have hsuffixed {named : String} (h : IsVisible named) :
        Always (do let suffix ← Words.citySuffixes.pick; return s!"{named} {suffix}" : StateM σ String) IsVisible :=
      .after fun suffix => .pure ((h.append_right " ").append_right suffix)
    split
    · exact always_firstName.bind fun _ => hsuffixed
    · exact always_lastName.bind fun _ => hsuffixed

lemma always_country : Always (country : StateM σ String) IsVisible := always_pick_visible (by decide +kernel)

lemma always_phone : Always (phone : StateM σ String) IsVisible := by
  refine (always_number Words.phoneNumbers).mono fun text htext => ?_
  obtain ⟨format, hformat, hfills⟩ := htext
  have hall : Words.phoneNumbers.entries.toList.all startsVisibly := by decide +kernel
  exact visible_of_fills hfills
    (Text.isVisible_of_startsVisibly (List.all_eq_true.1 hall _ (Array.mem_toList_iff.2 hformat)))

lemma always_company : Always (company : StateM σ String) IsVisible := by
  refine .after fun both => always_lastName.bind fun first hfirst => .after fun second => .after fun suffix => .pure ?_
  split
  · exact (hfirst.append_right " ").append_right suffix
  · exact (((hfirst.append_right " and ").append_right second).append_right " ").append_right suffix

lemma always_fillerWord : Always (fillerWord : StateM σ String) IsVisible := by
  have hword : Always (Words.lorem.pick : StateM σ String) IsVisible := always_pick_visible (by decide +kernel)
  refine hword.bind fun word hvisible => .pure ?_
  rw [if_neg (by simpa using hvisible.ne_empty)]
  exact hvisible

inductive IsBuiltIn : StateM σ String → Prop
  | name : IsBuiltIn name
  | email : IsBuiltIn email
  | address : IsBuiltIn address
  | city : IsBuiltIn city
  | country : IsBuiltIn country
  | phone : IsBuiltIn phone
  | company : IsBuiltIn company
  | fillerWord : IsBuiltIn fillerWord

lemma IsBuiltIn.always_visible {m : StateM σ String} (h : IsBuiltIn m) : Always m IsVisible := by
  cases h with
  | name => exact always_name
  | email => exact always_email.mono fun _ => IsMailAddress.isVisible
  | address => exact always_address.mono fun _ => IsStreetAddress.isVisible
  | city => exact always_city
  | country => exact always_country
  | phone => exact always_phone
  | company => exact always_company
  | fillerWord => exact always_fillerWord

end Generator

namespace Registry

open Generator (IsBuiltIn)

lemma find?_builtIn {tag : String} {g : Generator σ} (h : (builtIn : Registry σ).find? tag = some g) :
    ∃ m, IsBuiltIn m ∧ g = .ofText tag m := by
  simp only [builtIn, List.foldl_cons, List.foldl_nil, find?_register] at h
  -- the branches in reverse order of registration
  split_ifs at h with hcompany hphone hcountry hcity haddress hemail hname <;> cases h
  · exact ⟨_, .company, by rw [hcompany]; rfl⟩
  · exact ⟨_, .phone, by rw [hphone]; rfl⟩
  · exact ⟨_, .country, by rw [hcountry]; rfl⟩
  · exact ⟨_, .city, by rw [hcity]; rfl⟩
  · exact ⟨_, .address, by rw [haddress]; rfl⟩
  · exact ⟨_, .email, by rw [hemail]; rfl⟩
  · exact ⟨_, .name, by rw [hname]; rfl⟩

end Registry

end Specimen
