import Specimen.Engine.Run
import Specimen.Proofs.Engine.Results
import Specimen.Proofs.Schema.Everywhere

/-! Tours: walks through a schema that neither a budget nor a token can stop. A run is the tour up to the first
place where the run has to stop. -/

namespace Specimen

open EStateM (Result)

/-- A place where a walk may have to stop, with the walk that has come there. -/
inductive Stop (σ : Type) where
  | node (w : Walk σ)
  | checkpoint (w : Walk σ)

namespace Stop

variable {σ : Type}

def walk : Stop σ → Walk σ
  | .node w | .checkpoint w => w

def node? : Stop σ → Option (Walk σ)
  | .node w => some w
  | .checkpoint _ => none

def checkpoint? : Stop σ → Option (Walk σ)
  | .node _ => none
  | .checkpoint w => some w

def fault? (limit : UInt64) (watched : Bool) : Stop σ → Option GenerationError
  | .node w => if limit.toNat ≤ w.values then some (.valueBudgetExceeded limit) else none
  | .checkpoint w => if watched && w.fired then some (.cancelled w.recordsDone) else none

end Stop

structure Outing (σ α : Type) where
  value : α
  stops : List (Stop σ)
  walk : Walk σ

namespace Outing

variable {σ α : Type}

def upTo (fault? : Stop σ → Option GenerationError) (o : Outing σ α) : Result GenerationError (Walk σ) α :=
  match o.stops.findSome? fun s => (fault? s).map (·, s.walk) with
  | some (fault, w) => .error fault w
  | none => .ok o.value o.walk

def nodes (o : Outing σ α) : List (Walk σ) := o.stops.filterMap Stop.node?

end Outing

def Tour (σ α : Type) := Walk σ → Outing σ α

namespace Tour

variable {σ α β : Type}

instance : Monad (Tour σ) where
  pure a := fun w => ⟨a, [], w⟩
  bind t f := fun w =>
    let o := t w
    let p := f o.value o.walk
    ⟨p.value, o.stops ++ p.stops, p.walk⟩

@[simp] lemma pure_apply (a : α) (w : Walk σ) : (pure a : Tour σ α) w = ⟨a, [], w⟩ := rfl

@[simp] lemma bind_apply (t : Tour σ α) (f : α → Tour σ β) (w : Walk σ) :
    (t >>= f) w = ⟨(f (t w).value (t w).walk).value, (t w).stops ++ (f (t w).value (t w).walk).stops,
      (f (t w).value (t w).walk).walk⟩ := rfl

def draw (m : StateM σ α) : Tour σ α := fun w => ⟨(m w.source).1, [], { w with source := (m w.source).2 }⟩

def record (f : Report → Report) : Tour σ Unit := fun w => ⟨(), [], { w with report := f w.report }⟩

def call (g : Generator σ) : Tour σ String := fun w =>
  ⟨(g.generate w.source).1.text, [],
    { w with source := (g.generate w.source).2, fired := w.fired || (g.generate w.source).1.cancels }⟩

def finishRecord : Tour σ Unit := fun w => ⟨(), [], { w with recordsDone := w.recordsDone + 1 }⟩

def node : Tour σ Unit := fun w => ⟨(), [.node w], { w with values := w.values + 1 }⟩

def checkpoint : Tour σ Unit := fun w => ⟨(), [.checkpoint w], w⟩

def gather (step : Tour σ α) : Nat → Tour σ (List α)
  | 0 => pure []
  | n + 1 => do
    let a ← step
    let l ← gather step n
    return a :: l

section

variable (r : Registry σ) (base : String)

def scalar (tag : String) : Tour σ String := do
  match r.find? tag with
  | some g =>
    record (Report.recordUsage tag)
    call g
  | none =>
    record (Report.recordFallback tag)
    call r.fallback

variable [WordSource σ]

def image (spec : ImageSpec) : Tour σ String := do
  record Report.recordImage
  draw (spec.drawUrl base)

def length (minSize maxSize : UInt64) : Tour σ UInt64 :=
  draw (UInt64.ofNat <$>
    between (.toReach maxSize.toNat) minSize.toNat (max minSize.toNat maxSize.toNat) (Nat.le_max_left _ _))

mutual

def value : Schema → Tour σ Json
  | .scalar tag => do
    node
    return .str (← scalar r tag)
  | .image spec => do
    node
    return .str (← image base spec)
  | .object fields => do
    node
    let made ← members fields
    return .obj (made.foldl (fun l e => Entries.set e.1 e.2 l) [])
  | .array minSize maxSize element => do
    node
    let len ← length minSize maxSize
    let items ← gather (do checkpoint; value element) len.toNat
    record (Report.recordArray len)
    return .arr items

def members : List (String × Schema) → Tour σ (List (String × Json))
  | [] => pure []
  | (name, s) :: rest => do
    let v ← value s
    let l ← members rest
    return (name, v) :: l

end

def records (schema : Schema) (count : Nat) : Tour σ Dataset :=
  gather (do
    checkpoint
    let v ← value r base schema
    finishRecord
    return v) count

end

section follows

variable {limit : UInt64} {watched : Bool}

def Follows (limit : UInt64) (watched : Bool) (m : Walker σ α) (t : Tour σ α) : Prop :=
  ∀ w, m w = (t w).upTo (Stop.fault? limit watched)

lemma Follows.pure (a : α) : Follows limit watched (Pure.pure a : Walker σ α) (Pure.pure a) := fun _ => rfl

lemma Follows.bind {m : Walker σ α} {t : Tour σ α} {f : α → Walker σ β} {g : α → Tour σ β}
    (hm : Follows limit watched m t) (hf : ∀ a, Follows limit watched (f a) (g a)) :
    Follows limit watched (m >>= f) (t >>= g) := by
  intro w
  change EStateM.bind m f w = _
  rw [EStateM.bind, hm w, bind_apply]
  simp only [Outing.upTo, List.findSome?_append]
  cases (t w).stops.findSome? fun s => (s.fault? limit watched).map (·, s.walk) with
  | some fault => rfl
  | none => exact hf _ _

lemma follows_draw (d : StateM σ α) : Follows limit watched (Walker.draw d) (draw d) := fun _ => rfl

lemma follows_record (f : Report → Report) :
    Follows limit watched (Walker.record f : Walker σ Unit) (record f) := fun _ => rfl

lemma follows_call (g : Generator σ) : Follows limit watched (Walker.call g) (call g) := fun _ => rfl

lemma follows_finishRecord :
    Follows limit watched (Walker.finishRecord : Walker σ Unit) finishRecord := fun _ => rfl

lemma follows_spend : Follows limit watched (Walker.spend limit : Walker σ Unit) node := by
  intro w
  by_cases h : limit.toNat ≤ w.values
  · simp only [Walker.spend, node, Outing.upTo, List.findSome?_cons, Stop.fault?, if_pos h, Option.map_some]
    rfl
  · simp only [Walker.spend, node, Outing.upTo, List.findSome?_cons, Stop.fault?, if_neg h, Option.map_none]
    rfl

lemma follows_checkpoint : Follows limit watched (Walker.checkpoint watched : Walker σ Unit) checkpoint := by
  intro w
  by_cases h : (watched && w.fired) = true
  · simp only [Walker.checkpoint, checkpoint, Outing.upTo, List.findSome?_cons, Stop.fault?, if_pos h,
      Option.map_some]
    rfl
  · simp only [Walker.checkpoint, checkpoint, Outing.upTo, List.findSome?_cons, Stop.fault?, if_neg h,
      Option.map_none]
    rfl

lemma follows_gather {m : Walker σ α} {t : Tour σ α} (h : Follows limit watched m t) (n : Nat) (before : List α) :
    Follows limit watched (Walker.gather m n before) (do
      let l ← gather t n
      return before.reverse ++ l) := by
  -- the loop of a walk carries the values before it in reverse, which is why they are no fixed list here
  induction n generalizing before with
  | zero =>
    intro w
    simp only [Walker.gather, gather, bind_apply, pure_apply, List.append_nil]
    rfl
  | succ n ih =>
    intro w
    rw [Walker.gather, h.bind (fun a => ih (a :: before)) w]
    simp only [gather, bind_apply, pure_apply, List.append_nil, List.reverse_cons, List.append_assoc,
      List.singleton_append]

section

variable (e : Engine σ)

lemma follows_scalar (tag : String) : Follows limit watched (e.scalar tag) (scalar e.registry tag) := by
  rw [Engine.scalar, scalar]
  cases h : e.registry.find? tag with
  | some g =>
    obtain ⟨-, -, rfl⟩ := Option.map_eq_some_iff.1 h
    exact (follows_record _).bind fun _ => follows_call _
  | none => exact (follows_record _).bind fun _ => follows_call _

variable [WordSource σ]

lemma follows_image (spec : ImageSpec) :
    Follows limit watched (e.image spec) (image e.options.imageBaseUrl spec) :=
  (follows_record _).bind fun _ => follows_draw _

lemma follows_length {minSize maxSize : UInt64} (h : minSize ≤ maxSize) :
    Follows limit watched (Engine.length minSize maxSize : Walker σ UInt64) (length minSize maxSize) := by
  have hle : minSize.toNat ≤ maxSize.toNat := UInt64.le_iff_toNat_le.1 h
  have hlength : (length minSize maxSize : Tour σ UInt64) =
      draw (UInt64.ofNat <$> between (.toReach maxSize.toNat) minSize.toNat maxSize.toNat hle) := by
    rw [length]
    congr 3
    exact Nat.max_eq_right hle
  intro w
  rw [Engine.length, dif_pos hle, hlength]
  exact follows_draw _ w

mutual

lemma follows_value (e : Engine σ) : {s : Schema} → s.Sized →
    Follows e.options.maxValues watched (e.value watched s) (value e.registry e.options.imageBaseUrl s)
  | .scalar tag, _ => by
    rw [Engine.value, value]
    exact follows_spend.bind fun _ => (follows_scalar e tag).bind fun _ => .pure _
  | .image spec, _ => by
    rw [Engine.value, value]
    exact follows_spend.bind fun _ => (follows_image e spec).bind fun _ => .pure _
  | .object fields, h => by
    rw [Engine.value, value]
    refine follows_spend.bind fun _ => ?_
    intro w
    rw [(follows_members e h.2 []).bind (fun _ => .pure _) w]
    simp only [bind_apply, pure_apply, List.append_nil]
  | .array minSize maxSize element, h => by
    rw [Engine.value, value]
    refine follows_spend.bind fun _ => (follows_length h.1).bind fun len => ?_
    have hstep : Follows e.options.maxValues watched
        (do Walker.checkpoint watched; e.value watched element)
        (do checkpoint; value e.registry e.options.imageBaseUrl element) :=
      follows_checkpoint.bind fun _ => follows_value e h.2
    intro w
    rw [(follows_gather hstep len.toNat []).bind (fun _ => (follows_record _).bind fun _ => .pure _) w]
    simp only [bind_apply, pure_apply, List.append_nil, List.reverse_nil, List.nil_append]

lemma follows_members (e : Engine σ) : {fields : List (String × Schema)} →
    Schema.EverywhereIn Schema.SizesOrdered fields → (before : List (String × Json)) →
    Follows e.options.maxValues watched (e.members watched fields before) (do
      let made ← members e.registry e.options.imageBaseUrl fields
      return made.foldl (fun l m => Entries.set m.1 m.2 l) before)
  | [], _, before => fun _ => rfl
  | (name, s) :: rest, h, before => by
    -- a walk sets each member as it is made, where a tour sets them when all are made
    rw [Engine.members, members]
    intro w
    rw [(follows_value e h.1).bind (fun v => follows_members e h.2 (Entries.set name v before)) w]
    simp only [bind_apply, pure_apply, List.append_nil, List.foldl_cons]

end

lemma follows_records {schema : Schema} (hs : schema.Sized) (count : Nat) :
    Follows e.options.maxValues watched (e.records watched schema count)
      (records e.registry e.options.imageBaseUrl schema count) := by
  have hvalue : Follows e.options.maxValues watched (e.value watched schema)
      (value e.registry e.options.imageBaseUrl schema) := follows_value e hs
  have hstep := follows_checkpoint.bind fun _ => hvalue.bind fun v => follows_finishRecord.bind fun _ => .pure v
  intro w
  rw [Engine.records, follows_gather hstep count [] w, records]
  simp only [bind_apply, pure_apply, List.append_nil, List.reverse_nil, List.nil_append]

end

end follows

end Tour

def Run.ofResult {σ : Type} : Result GenerationError (Walk σ) Dataset → Run σ
  | .ok records w => ⟨.ok records, { w.report with recordsGenerated := UInt64.ofNat records.length }, w.source⟩
  | .error fault w => ⟨.error fault, { w.report with recordsGenerated := UInt64.ofNat w.recordsDone }, w.source⟩

namespace Engine

variable {σ : Type} [WordSource σ] (e : Engine σ)

def outing (schema : Schema) (count : UInt64) (fired : Bool) (runId : String) (source : σ) : Outing σ Dataset :=
  Tour.records e.registry e.options.imageBaseUrl schema count.toNat (begin source fired (.new runId count))

variable {e} {schema : Schema} {count : UInt64} {token : Option Bool} {runId : String} {source : σ}

lemma run_of_checkLimits_eq_error {fault : GenerationError} (h : e.options.checkLimits [] schema = .error fault) :
    e.run schema count token runId source = ⟨.error fault, .new runId count, source⟩ := by
  simp only [run, h]

lemma run_eq_upTo (hs : schema.Sized) (h : e.options.checkLimits [] schema = .ok ()) :
    e.run schema count token runId source =
      .ofResult ((e.outing schema count (token.getD false) runId source).upTo
        (Stop.fault? e.options.maxValues token.isSome)) := by
  simp only [run, h, Tour.follows_records e hs count.toNat _]
  rfl

end Engine

end Specimen
