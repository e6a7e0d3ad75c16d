import Mathlib.Tactic.Lemma
import Specimen.Proofs.Engine.Tour
import Specimen.Proofs.Entries

/-! Which node of a schema each value of a record stands for. -/

namespace Specimen

namespace Json

mutual

def parts : Json → List Json
  | .arr items => partsOfItems items ++ [.arr items]
  | .obj members => partsOfMembers members ++ [.obj members]
  | v => [v]

def partsOfItems : List Json → List Json
  | [] => []
  | v :: r => parts v ++ partsOfItems r

def partsOfMembers : List (String × Json) → List Json
  | [] => []
  | (_, v) :: r => parts v ++ partsOfMembers r

end

lemma partsOfItems_eq (l : List Json) : partsOfItems l = l.flatMap parts := by
  induction l with
  | nil => rfl
  | cons v r ih => rw [partsOfItems, ih, List.flatMap_cons]

def arrayLength : Json → Nat
  | .arr items => items.length
  | _ => 0

end Json

namespace Schema

mutual

/-- The nodes of a schema with the values that stand for them, each after those within it. -/
def instances : Schema → Json → List (Schema × Json)
  | .object fields, .obj members => instancesOfFields fields members ++ [(.object fields, .obj members)]
  | .array minSize maxSize element, .arr items =>
    items.flatMap (instances element) ++ [(.array minSize maxSize element, .arr items)]
  | s, v => [(s, v)]

def instancesOfFields : List (String × Schema) → List (String × Json) → List (Schema × Json)
  | (_, s) :: fields, (_, v) :: members => instances s v ++ instancesOfFields fields members
  | _, _ => []

end

def IsKindOf : Schema → Json → Prop
  | .scalar _, .str _ | .image _, .str _ | .object _, .obj _ | .array _ _ _, .arr _ => True
  | _, _ => False

end Schema

structure Shows (made : List (Schema × Json)) (values : List Json) : Prop where
  snd : made.map Prod.snd = values
  kinds : ∀ i ∈ made, i.1.IsKindOf i.2

namespace Shows

lemma nil : Shows [] [] := ⟨rfl, by simp⟩

lemma singleton {s : Schema} {v : Json} (h : s.IsKindOf v) : Shows [(s, v)] [v] := ⟨rfl, by simpa using h⟩

lemma append {made later : List (Schema × Json)} {l m : List Json} (h : Shows made l) (k : Shows later m) :
    Shows (made ++ later) (l ++ m) where
  snd := by rw [List.map_append, h.snd, k.snd]
  kinds := List.forall_mem_append.2 ⟨h.kinds, k.kinds⟩

end Shows

lemma shows_flatMap {made : Json → List (Schema × Json)} {l : List Json} (h : ∀ v ∈ l, Shows (made v) v.parts) :
    Shows (l.flatMap made) (l.flatMap Json.parts) := by
  induction l with
  | nil => exact .nil
  | cons v r ih =>
    rw [List.flatMap_cons, List.flatMap_cons]
    exact (h v List.mem_cons_self).append (ih fun u hu => h u (List.mem_cons_of_mem _ hu))

namespace Registry

variable {σ : Type}

def knows (r : Registry σ) (tag : String) : Bool := (r.find? tag).isSome

end Registry

namespace Report

variable {σ : Type}

def note (r : Registry σ) (rep : Report) : Schema × Json → Report
  | (.scalar tag, _) => if r.knows tag then rep.recordUsage tag else rep.recordFallback tag
  | (.image _, _) => rep.recordImage
  | (.array _ _ _, v) => rep.recordArray (UInt64.ofNat v.arrayLength)
  | (.object _, _) => rep

end Report

structure Notes {σ : Type} (r : Registry σ) (w : Walk σ) (made : List (Schema × Json)) (v : Walk σ) : Prop where
  report : v.report = made.foldl (Report.note r) w.report
  values : v.values = w.values + made.length

namespace Notes

variable {σ : Type} {r : Registry σ} {w v u : Walk σ} {made later : List (Schema × Json)}

lemma refl (w : Walk σ) : Notes r w [] w := ⟨rfl, rfl⟩

lemma trans (h : Notes r w made v) (k : Notes r v later u) : Notes r w (made ++ later) u where
  report := by rw [k.report, h.report, List.foldl_append]
  values := by rw [k.values, h.values, List.length_append, Nat.add_assoc]

lemma concat (h : Notes r { w with values := w.values + 1 } made v) (i : Schema × Json)
    (hr : u.report = v.report.note r i) (hv : u.values = v.values) : Notes r w (made ++ [i]) u where
  report := by rw [hr, h.report, List.foldl_append, List.foldl_cons, List.foldl_nil]
  values := by
    rw [hv, h.values, List.length_append, List.length_singleton]
    exact Nat.add_right_comm _ _ _

end Notes

namespace Tour

open Schema

variable {σ α : Type} (r : Registry σ) (base : String)

lemma report_scalar (tag : String) (v : Json) (w : Walk σ) :
    (scalar r tag w).walk.report = w.report.note r (.scalar tag, v) := by
  rw [scalar, Report.note, Registry.knows]
  cases r.find? tag <;> rfl

lemma values_scalar (tag : String) (w : Walk σ) : (scalar r tag w).walk.values = w.values := by
  rw [scalar]
  cases r.find? tag <;> rfl

section gather

variable {step : Tour σ α} (w : Walk σ) (n : Nat)

lemma length_gather : (gather step n w).value.length = n := by
  induction n generalizing w with
  | zero => rfl
  | succ n ih => simp [gather, ih]

lemma forall_mem_gather {P : α → Prop} (h : ∀ w, P (step w).value) : ∀ a ∈ (gather step n w).value, P a := by
  induction n generalizing w with
  | zero => simp [gather]
  | succ n ih =>
    simp only [gather, bind_apply, pure_apply, List.forall_mem_cons]
    exact ⟨h w, ih _⟩

variable {r}

lemma notes_gather {made : α → List (Schema × Json)} (h : ∀ w, Notes r w (made (step w).value) (step w).walk) :
    Notes r w ((gather step n w).value.flatMap made) (gather step n w).walk := by
  induction n generalizing w with
  | zero => exact .refl w
  | succ n ih =>
    simp only [gather, bind_apply, pure_apply, List.flatMap_cons]
    exact (h w).trans (ih _)

end gather

section

variable [WordSource σ]

lemma keys_members (fields : List (String × Schema)) (w : Walk σ) :
    Entries.keys (members r base fields w).value = Entries.keys fields := by
  induction fields generalizing w with
  | nil => rfl
  | cons f rest ih =>
    simp only [members, bind_apply, pure_apply]
    exact congrArg (f.1 :: ·) (ih _)

lemma foldl_set_of_nodup {made before : List (String × Json)} (h : (Entries.keys (before ++ made)).Nodup) :
    made.foldl (fun l m => Entries.set m.1 m.2 l) before = before ++ made := by
  induction made generalizing before with
  | nil => simp
  | cons m rest ih =>
    have hfresh : m.1 ∉ Entries.keys before := Entries.notMem_keys_of_nodup h
    rw [List.foldl_cons, Entries.set_of_notMem hfresh, ih (by simpa using h)]
    simp

lemma foldl_set_members {fields : List (String × Schema)} (h : (Entries.keys fields).Nodup) (w : Walk σ) :
    (members r base fields w).value.foldl (fun l m => Entries.set m.1 m.2 l) [] = (members r base fields w).value :=
  foldl_set_of_nodup (by simpa [keys_members] using h)

mutual

lemma notes_value : {s : Schema} → s.Distinct → (w : Walk σ) →
    Notes r w (s.instances (value r base s w).value) (value r base s w).walk
  | .scalar tag, _, w => by
    rw [value]
    exact (Notes.refl _).concat _ (report_scalar r tag _ _) (values_scalar r tag _)
  | .image spec, _, w => by
    rw [value]
    exact (Notes.refl _).concat (.image spec, _) rfl rfl
  | .object fields, h, w => by
    -- a value is counted before those within it and reported after them, as `concat` has it
    have hm := notes_members h.2 { w with values := w.values + 1 }
    simp only [value, bind_apply, pure_apply, node, foldl_set_members r base h.1, instances]
    exact hm.concat _ rfl rfl
  | .array minSize maxSize element, h, w => by
    let step : Tour σ Json := do checkpoint; value r base element
    have hstep (u : Walk σ) : Notes r u (element.instances (step u).value) (step u).walk := notes_value h.2 u
    let u := (length minSize maxSize { w with values := w.values + 1 }).walk
    let n := (length minSize maxSize { w with values := w.values + 1 }).value.toNat
    have hitems : Notes r { w with values := w.values + 1 } ((gather step n u).value.flatMap element.instances)
        (gather step n u).walk := ⟨(notes_gather u n hstep).report, (notes_gather u n hstep).values⟩
    simp only [value, bind_apply, pure_apply, node, instances]
    refine hitems.concat _ ?_ rfl
    simp only [record, Report.note, Json.arrayLength, length_gather, UInt64.ofNat_toNat]
    rfl

lemma notes_members : {fields : List (String × Schema)} → EverywhereIn NamesDistinct fields → (w : Walk σ) →
    Notes r w (instancesOfFields fields (members r base fields w).value) (members r base fields w).walk
  | [], _, w => .refl w
  | (name, s) :: rest, h, w => by
    simp only [members, bind_apply, pure_apply, instancesOfFields]
    exact (notes_value h.1 w).trans (notes_members h.2 _)

end

lemma notes_records {schema : Schema} (h : schema.Distinct) (count : Nat) (w : Walk σ) :
    Notes r w ((records r base schema count w).value.flatMap schema.instances)
      (records r base schema count w).walk := by
  refine notes_gather w count fun u => ?_
  have hv := notes_value r base h u
  exact ⟨hv.report, hv.values⟩

mutual

lemma shows_value : {s : Schema} → s.Distinct → (w : Walk σ) →
    Shows (s.instances (value r base s w).value) (value r base s w).value.parts
  | .scalar _, _, _ | .image _, _, _ => .singleton trivial
  | .object fields, h, w => by
    simp only [value, bind_apply, pure_apply, foldl_set_members r base h.1, instances, Json.parts]
    exact (shows_members h.2 _).append (.singleton trivial)
  | .array minSize maxSize element, h, w => by
    simp only [value, bind_apply, pure_apply, instances, Json.parts, Json.partsOfItems_eq]
    let step : Tour σ Json := do checkpoint; value r base element
    have hstep (u : Walk σ) : Shows (element.instances (step u).value) (step u).value.parts := shows_value h.2 u
    exact (shows_flatMap (forall_mem_gather _ _ hstep)).append (.singleton trivial)

lemma shows_members : {fields : List (String × Schema)} → EverywhereIn NamesDistinct fields → (w : Walk σ) →
    Shows (instancesOfFields fields (members r base fields w).value)
      (Json.partsOfMembers (members r base fields w).value)
  | [], _, _ => .nil
  | (name, s) :: rest, h, w => by
    simp only [members, bind_apply, pure_apply, instancesOfFields, Json.partsOfMembers]
    exact (shows_value h.1 w).append (shows_members h.2 _)

end

lemma shows_records {schema : Schema} (h : schema.Distinct) (count : Nat) (w : Walk σ) :
    Shows ((records r base schema count w).value.flatMap schema.instances)
      ((records r base schema count w).value.flatMap Json.parts) :=
  shows_flatMap (forall_mem_gather w count fun _ => shows_value r base h _)

end

end Tour

end Specimen
