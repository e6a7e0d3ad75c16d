import Specimen.Proofs.Engine.Tour

namespace Specimen

/-- A relation between a walk, the stops of a tour from there and the walk that follows, which holds of every
step and of one tour after the other. -/
structure Lawful {σ : Type} (R : Walk σ → List (Stop σ) → Walk σ → Prop) : Prop where
  refl (w) : R w [] w
  trans {w v u l m} : R w l v → R v m u → R w (l ++ m) u
  node (w) : R w [.node w] { w with values := w.values + 1 }
  checkpoint (w) : R w [.checkpoint w] w
  change (w) (source : σ) (cancels : Bool) (report : Report) :
    R w [] { w with source := source, fired := w.fired || cancels, report := report }

namespace Tour

variable {σ α β : Type}

def Obeys (R : Walk σ → List (Stop σ) → Walk σ → Prop) (t : Tour σ α) : Prop :=
  ∀ w, R w (t w).stops (t w).walk

end Tour

def Registry.Offers {σ : Type} (r : Registry σ) (g : Generator σ) : Prop :=
  (∃ tag, r.find? tag = some g) ∨ g = r.fallback

structure LawfulOn {σ : Type} (r : Registry σ) (R : Walk σ → List (Stop σ) → Walk σ → Prop) : Prop where
  refl (w) : R w [] w
  trans {w v u l m} : R w l v → R v m u → R w (l ++ m) u
  node (w) : R w [.node w] { w with values := w.values + 1 }
  checkpoint (w) : R w [.checkpoint w] w
  change (w) (source : σ) (report : Report) : R w [] { w with source := source, report := report }
  call (g) : r.Offers g → Tour.Obeys R (Tour.call g)

lemma Lawful.on {σ : Type} {R : Walk σ → List (Stop σ) → Walk σ → Prop} (h : Lawful R) (r : Registry σ) :
    LawfulOn r R where
  refl := h.refl
  trans := h.trans
  node := h.node
  checkpoint := h.checkpoint
  change w source report := by simpa only [Bool.or_false] using h.change w source false report
  call g _ w := h.change w (g.generate w.source).2 (g.generate w.source).1.cancels w.report

namespace Tour

variable {σ α β : Type} {R : Walk σ → List (Stop σ) → Walk σ → Prop} {r : Registry σ} (h : LawfulOn r R)

include h

lemma Obeys.pure (a : α) : Obeys R (Pure.pure a : Tour σ α) := h.refl

lemma Obeys.bind {t : Tour σ α} {f : α → Tour σ β} (ht : Obeys R t) (hf : ∀ a, Obeys R (f a)) :
    Obeys R (t >>= f) := fun w => h.trans (ht w) (hf _ _)

lemma obeys_node : Obeys R node := h.node

lemma obeys_checkpoint : Obeys R checkpoint := h.checkpoint

lemma obeys_draw (d : StateM σ α) : Obeys R (draw d) := fun w => h.change w (d w.source).2 w.report

lemma obeys_record (f : Report → Report) : Obeys R (record f) := fun w => h.change w w.source (f w.report)

lemma obeys_gather {step : Tour σ α} (hstep : Obeys R step) (n : Nat) : Obeys R (gather step n) := by
  induction n with
  | zero => exact .pure h _
  | succ n ih => exact .bind h hstep fun _ => .bind h ih fun _ => .pure h _

lemma obeys_scalar (tag : String) : Obeys R (scalar r tag) := by
  rw [scalar]
  split
  · rename_i g hg
    exact .bind h (obeys_record h _) fun _ => h.call g (.inl ⟨tag, hg⟩)
  · exact .bind h (obeys_record h _) fun _ => h.call _ (.inr rfl)

variable [WordSource σ] (base : String)

mutual

lemma obeys_value : (s : Schema) → Obeys R (value r base s)
  | .scalar tag => by
    rw [value]
    exact .bind h (obeys_node h) fun _ => .bind h (obeys_scalar h tag) fun _ => .pure h _
  | .image spec => by
    rw [value, image]
    exact .bind h (obeys_node h) fun _ =>
      .bind h (.bind h (obeys_record h _) fun _ => obeys_draw h _) fun _ => .pure h _
  | .object fields => by
    rw [value]
    exact .bind h (obeys_node h) fun _ => .bind h (obeys_members fields) fun _ => .pure h _
  | .array minSize maxSize element => by
    rw [value, length]
    have hstep : Obeys R (do checkpoint; value r base element) :=
      .bind h (obeys_checkpoint h) fun _ => obeys_value element
    exact .bind h (obeys_node h) fun _ => .bind h (obeys_draw h _) fun len =>
      .bind h (obeys_gather h hstep len.toNat) fun _ => .bind h (obeys_record h _) fun _ => .pure h _

lemma obeys_members : (fields : List (String × Schema)) → Obeys R (members r base fields)
  | [] => by
    rw [members]
    exact .pure h _
  | (name, s) :: rest => by
    rw [members]
    exact .bind h (obeys_value s) fun _ => .bind h (obeys_members rest) fun _ => .pure h _

end

lemma obeys_records (hf : ∀ w, R w [] { w with recordsDone := w.recordsDone + 1 }) (schema : Schema)
    (count : Nat) : Obeys R (records r base schema count) := by
  have hfinish : Obeys R finishRecord := hf
  rw [records]
  exact obeys_gather h (.bind h (obeys_checkpoint h) fun _ => .bind h (obeys_value h base schema) fun _ =>
    .bind h hfinish fun _ => .pure h _) count

end Tour

section

variable {σ : Type}

structure Numbered (w : Walk σ) (l : List (Stop σ)) (v : Walk σ) : Prop where
  nodes : (l.filterMap Stop.node?).map Walk.values = List.range' w.values (l.filterMap Stop.node?).length
  values : v.values = w.values + (l.filterMap Stop.node?).length

lemma lawful_numbered : Lawful (Numbered (σ := σ)) where
  refl _ := ⟨rfl, rfl⟩
  trans {w v u l m} h k := by
    constructor
    · rw [List.filterMap_append, List.map_append, List.length_append, h.nodes, k.nodes, h.values,
        List.range'_append_1]
    · rw [k.values, h.values, List.filterMap_append, List.length_append, Nat.add_assoc]
  node _ := ⟨rfl, rfl⟩
  checkpoint _ := ⟨rfl, rfl⟩
  change _ _ _ _ := ⟨rfl, rfl⟩

structure StaysFired (w : Walk σ) (l : List (Stop σ)) (v : Walk σ) : Prop where
  start : w.fired → v.fired
  stops : ∀ s ∈ l, s.walk.fired → v.fired

lemma lawful_staysFired : Lawful (StaysFired (σ := σ)) where
  refl _ := ⟨id, by simp⟩
  trans h k := ⟨fun hw => k.start (h.start hw), fun s hs hf => by
    rcases List.mem_append.1 hs with hs | hs
    · exact k.start (h.stops s hs hf)
    · exact k.stops s hs hf⟩
  node _ := ⟨id, by simp [Stop.walk]⟩
  checkpoint _ := ⟨id, by simp [Stop.walk]⟩
  change _ _ _ _ := ⟨fun h => by simp [h], by simp⟩

structure Unfinished (w : Walk σ) (l : List (Stop σ)) (v : Walk σ) : Prop where
  recordsDone : v.recordsDone = w.recordsDone
  stops : ∀ s ∈ l, s.walk.recordsDone = w.recordsDone

lemma lawful_unfinished : Lawful (Unfinished (σ := σ)) where
  refl _ := ⟨rfl, by simp⟩
  trans h k := ⟨k.recordsDone.trans h.recordsDone, fun s hs => by
    rcases List.mem_append.1 hs with hs | hs
    · exact h.stops s hs
    · exact (k.stops s hs).trans h.recordsDone⟩
  node _ := ⟨rfl, by simp [Stop.walk]⟩
  checkpoint _ := ⟨rfl, by simp [Stop.walk]⟩
  change _ _ _ _ := ⟨rfl, by simp⟩

variable [WordSource σ] {e : Engine σ} {schema : Schema} {count : UInt64} {fired : Bool} {runId : String} {source : σ}

lemma numbered_outing : Numbered (Engine.begin source fired (.new runId count))
    (e.outing schema count fired runId source).stops (e.outing schema count fired runId source).walk :=
  Tour.obeys_records (lawful_numbered.on _) _ (fun _ => ⟨rfl, rfl⟩) _ _ _

lemma values_nodes_outing : (e.outing schema count fired runId source).nodes.map Walk.values =
    List.range' 0 (e.outing schema count fired runId source).nodes.length := numbered_outing.nodes

lemma staysFired_outing : StaysFired (Engine.begin source fired (.new runId count))
    (e.outing schema count fired runId source).stops (e.outing schema count fired runId source).walk :=
  Tour.obeys_records (lawful_staysFired.on _) _ (fun _ => ⟨id, by simp⟩) _ _ _

lemma recordsDone_lt_of_mem_stops (r : Registry σ) (base : String) {count : Nat} {w : Walk σ} {s : Stop σ}
    (hs : s ∈ (Tour.records r base schema count w).stops) : s.walk.recordsDone < w.recordsDone + count := by
  -- no record is finished within a record, so each stop knows only of the records before its own
  have step (u : Walk σ) := Tour.obeys_value (lawful_unfinished.on r) base schema u
  rw [Tour.records] at hs
  induction count generalizing w with
  | zero => simp [Tour.gather] at hs
  | succ n ih =>
    simp only [Tour.gather, Tour.bind_apply, Tour.pure_apply, Tour.checkpoint, Tour.finishRecord,
      List.append_nil, List.cons_append, List.nil_append, List.mem_cons, List.mem_append] at hs
    rcases hs with rfl | hs | hs
    · simp [Stop.walk]
    · rw [(step w).stops s hs]
      omega
    · have := ih hs
      simp only [(step w).recordsDone] at this
      omega

end

end Specimen
