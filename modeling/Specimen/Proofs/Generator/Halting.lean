import Specimen.Proofs.Generator.Texts
import Specimen.Proofs.Random.Steering

namespace Specimen

namespace Generator

lemma halts_digitFrom {least : Nat} (h : least ≤ 9) : Halts (digitFrom least h) :=
  .bind ⟨least, .between .half h (by decide) (Nat.le_refl _) h⟩ fun _ => .pure _

lemma halts_fill (l : List Char) : Halts (fill l) := by
  induction l with
  | nil => exact .pure _
  | cons c rest ih =>
    have hrest (d : Char) : Halts (do let rest ← fill rest; return d :: rest) := ih.bind fun _ => .pure _
    rw [fill]
    split
    · exact (halts_digitFrom _).bind hrest
    split
    · exact (halts_digitFrom _).bind hrest
    · exact hrest c

lemma halts_number (formats : Table String) : Halts (number formats) :=
  (halts_pick _).bind fun format => (halts_fill format.toList).bind fun _ => .pure _

lemma halts_firstName : Halts firstName := halts_pick _

lemma halts_lastName : Halts lastName := halts_pick _

lemma halts_name : Halts name := halts_firstName.bind fun _ => halts_lastName.bind fun _ => .pure _

lemma halts_email : Halts email := halts_firstName.bind fun _ => (halts_pick _).bind fun _ => .pure _

lemma halts_streetName : Halts streetName := by
  refine halts_coin.bind fun first => ?_
  split
  · exact halts_firstName.bind fun _ => (halts_pick _).bind fun _ => .pure _
  · exact halts_lastName.bind fun _ => (halts_pick _).bind fun _ => .pure _

lemma halts_address : Halts address := (halts_number _).bind fun _ => halts_streetName.bind fun _ => .pure _

lemma halts_city : Halts city := by
  refine (halts_below _ _).bind fun form => ?_
  split
  · exact (halts_pick _).bind fun _ => halts_firstName.bind fun _ => halts_lastName.bind fun _ =>
      (halts_pick _).bind fun _ => .pure _
  split
  · exact halts_firstName.bind fun _ => (halts_pick _).bind fun _ => .pure _
  · exact halts_lastName.bind fun _ => (halts_pick _).bind fun _ => .pure _

lemma halts_company : Halts company :=
  (halts_below _ _).bind fun _ => halts_lastName.bind fun _ => halts_lastName.bind fun _ =>
    (halts_pick _).bind fun _ => .pure _

lemma IsBuiltIn.halts {m : StateM WordCycle String} (h : IsBuiltIn m) : Halts m := by
  cases h with
  | name => exact halts_name
  | email => exact halts_email
  | address => exact halts_address
  | city => exact halts_city
  | country => exact halts_pick _
  | phone => exact halts_number _
  | company => exact halts_company
  | fillerWord => exact (halts_pick _).bind fun _ => .pure _

end Generator

lemma ImageSpec.halts_drawUrl (spec : ImageSpec) (base : String) : Halts (spec.drawUrl base) :=
  (halts_below _ _).bind fun _ => .pure _

end Specimen
