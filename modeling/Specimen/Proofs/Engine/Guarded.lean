import Specimen.Proofs.Engine.Cancellation
import Specimen.Proofs.Engine.Events
import Specimen.Proofs.Generator.Guarded
import Specimen.Proofs.Schema.Sized

/-! Runs on a machine that stops where a counter would leave its 64 bits, a draw would have to come from an
empty range or an index would lie outside a table. -/

namespace Specimen

open EStateM (Result)

def GuardedWalker (σ α : Type) := Walk σ → Except Hazard (Result GenerationError (Walk σ) α)

namespace GuardedWalker

variable {σ α β : Type}

instance : Monad (GuardedWalker σ) where
  pure a := fun w => .ok (.ok a w)
  bind g f := fun w =>
    match g w with
    | .error hazard => .error hazard
    | .ok (.error fault w') => .ok (.error fault w')
    | .ok (.ok a w') => f a w'

def unguarded (m : Walker σ α) : GuardedWalker σ α := fun w => .ok (m w)

def checkpoint (poll : Walk σ → Bool) : GuardedWalker σ Unit := fun w =>
  if poll w then .ok (.error (.cancelled w.recordsDone) w) else .ok (.ok () w)

def fitting (n : Walk σ → Nat) (g : GuardedWalker σ α) : GuardedWalker σ α := fun w =>
  if n w < UInt64.size then g w else .error .overflow

def draw (g : Guarded σ α) : GuardedWalker σ α := fun w =>
  match g w.source with
  | .error hazard => .error hazard
  | .ok (a, s) => .ok (.ok a { w with source := s })

def recordUsage (tag : String) : GuardedWalker σ Unit :=
  fitting (fun w => (w.report.tally (.usage tag)).toNat + 1) (unguarded (Walker.record (Report.recordUsage tag)))

def recordFallback (tag : String) : GuardedWalker σ Unit :=
  fitting (fun w => (w.report.tally .fallbacks).toNat + 1)
    (fitting (fun w => (w.report.tally (.fallback tag)).toNat + 1)
      (unguarded (Walker.record (Report.recordFallback tag))))

def recordImage : GuardedWalker σ Unit :=
  fitting (fun w => (w.report.tally .images).toNat + 1) (unguarded (Walker.record Report.recordImage))

def recordArray (len : UInt64) : GuardedWalker σ Unit :=
  fitting (fun w => w.report.arrayElements.toNat + len.toNat) (unguarded (Walker.record (Report.recordArray len)))

def finishRecord : GuardedWalker σ Unit :=
  fitting (fun w => w.recordsDone + 1) (unguarded Walker.finishRecord)

def spend (limit : UInt64) : GuardedWalker σ Unit := fun w =>
  if limit.toNat ≤ w.values then unguarded (Walker.spend limit) w
  else fitting (fun w => w.values + 1) (unguarded (Walker.spend limit)) w

def gather (step : GuardedWalker σ α) : Nat → List α → GuardedWalker σ (List α)
  | 0, before => pure before.reverse
  | n + 1, before => do
    let a ← step
    gather step n (a :: before)

section

variable [WordSource σ] (o : Options) (poll : Walk σ → Bool)

def scalar (tag : String) : GuardedWalker σ String := do
  match Guarded.builtIn? tag with
  | some g =>
    recordUsage tag
    draw g
  | none =>
    recordFallback tag
    draw Guarded.fillerWord

def image (spec : ImageSpec) : GuardedWalker σ String := do
  recordImage
  draw (Guarded.drawUrl spec o.imageBaseUrl)

def length (minSize maxSize : UInt64) : GuardedWalker σ UInt64 :=
  draw (UInt64.ofNat <$> Guarded.between (.toReach maxSize.toNat) minSize.toNat maxSize.toNat)

mutual

def value : Schema → GuardedWalker σ Json
  | .scalar tag => do
    spend o.maxValues
    return .str (← scalar tag)
  | .image spec => do
    spend o.maxValues
    return .str (← image o spec)
  | .object fields => do
    spend o.maxValues
    return .obj (← members fields [])
  | .array minSize maxSize element => do
    spend o.maxValues
    let len ← length minSize maxSize
    let items ← gather (do checkpoint poll; value element) len.toNat []
    recordArray len
    return .arr items

def members : List (String × Schema) → List (String × Json) → GuardedWalker σ (List (String × Json))
  | [], before => pure before
  | (name, s) :: rest, before => do
    let v ← value s
    members rest (Entries.set name v before)

end

def records (schema : Schema) (count : Nat) : GuardedWalker σ Dataset :=
  gather (do
    checkpoint poll
    let v ← value o poll schema
    finishRecord
    return v) count []

end

end GuardedWalker

def Engine.builtIn (σ : Type) [WordSource σ] (o : Options) : Engine σ := ⟨o, .builtIn⟩

def Engine.guardedRun {σ : Type} [WordSource σ] (o : Options) (poll : Walk σ → Bool) (schema : Schema)
    (count : UInt64) (fired : Bool) (runId : String) (source : σ) : Except Hazard (Run σ) :=
  match o.checkLimits [] schema with
  | .error fault => .ok ⟨.error fault, .new runId count, source⟩
  | .ok () =>
    (GuardedWalker.records o poll schema count.toNat (begin source fired (.new runId count))).map .ofResult

structure Covered {σ : Type} (limit : UInt64) (placed made : Nat) (w : Walk σ) : Prop where
  values_le : w.values ≤ limit.toNat
  placed_le : w.report.arrayElements.toNat + w.recordsDone + placed ≤ w.values
  tally_le : ∀ t, (w.report.tally t).toNat + made ≤ w.values

namespace Covered

variable {σ : Type} {limit : UInt64} {placed made : Nat} {w : Walk σ}

lemma begin (source : σ) (fired : Bool) (runId : String) (count : UInt64) :
    Covered limit 0 0 (Engine.begin source fired (.new runId count)) where
  values_le := Nat.zero_le _
  placed_le := Nat.le_refl _
  tally_le t := by cases t <;> exact Nat.le_refl _

lemma lt_size (h : Covered limit placed made w) {n : Nat} (hn : n ≤ w.values) : n < UInt64.size :=
  Nat.lt_of_le_of_lt (Nat.le_trans hn h.values_le) limit.toNat_lt

lemma spend (h : Covered limit placed 0 w) (hlt : w.values < limit.toNat) :
    Covered limit (placed + 1) 1 { w with values := w.values + 1 } where
  values_le := hlt
  placed_le := Nat.succ_le_succ h.placed_le
  tally_le t := Nat.succ_le_succ (h.tally_le t)

lemma mono {placed' made' : Nat} (h : Covered limit placed made w) (hplaced : placed' ≤ placed)
    (hmade : made' ≤ made) : Covered limit placed' made' w where
  values_le := h.values_le
  placed_le := Nat.le_trans (Nat.add_le_add_left hplaced _) h.placed_le
  tally_le t := Nat.le_trans (Nat.add_le_add_left hmade _) (h.tally_le t)

lemma change (h : Covered limit placed made w) (source : σ) (fired : Bool) :
    Covered limit placed made { w with source := source, fired := fired } where
  values_le := h.values_le
  placed_le := h.placed_le
  tally_le := h.tally_le

lemma record (h : Covered limit placed 1 w) {f : Report → Report}
    (hf : ∀ t, ((f w.report).tally t).toNat ≤ (w.report.tally t).toNat + 1)
    (helements : (f w.report).arrayElements = w.report.arrayElements) :
    Covered limit placed 0 { w with report := f w.report } where
  values_le := h.values_le
  placed_le := helements.symm ▸ h.placed_le
  tally_le t := Nat.le_trans (hf t) (h.tally_le t)

lemma recordArray {len : UInt64} (h : Covered limit (placed + len.toNat) 0 w) :
    Covered limit placed 0 { w with report := w.report.recordArray len } where
  values_le := h.values_le
  placed_le := by
    have hle := h.placed_le
    have hadd : (w.report.recordArray len).arrayElements.toNat ≤ w.report.arrayElements.toNat + len.toNat := by
      rw [Report.recordArray, Report.toNat_addElements]
      exact Nat.min_le_right _ _
    dsimp only at *
    omega
  tally_le := h.tally_le

lemma finishRecord (h : Covered limit 1 0 w) :
    Covered limit 0 0 { w with recordsDone := w.recordsDone + 1 } where
  values_le := h.values_le
  placed_le := h.placed_le
  tally_le := h.tally_le

end Covered

structure Guards {σ α : Type} (poll : Walk σ → Bool) (watched : Bool) (limit : UInt64) (P : Walk σ → Prop)
    (g : GuardedWalker σ α) (m : Walker σ α) (Q : Walk σ → Prop) : Prop where
  ends : ∀ w, P w → (∃ a w', g w = .ok (.ok a w') ∧ Q w') ∨ ∃ fault w', g w = .ok (.error fault w') ∧
    (fault = .valueBudgetExceeded limit ∨ ∃ done, fault = .cancelled done)
  agrees : (∀ w, poll w = (watched && w.fired)) → ∀ w, P w → g w = .ok (m w)

namespace GuardedWalker

variable {σ α β : Type} {g : GuardedWalker σ α} {f : α → GuardedWalker σ β} {w w' : Walk σ}

lemma bind_of_ok {a : α} (h : g w = .ok (.ok a w')) : (g >>= f) w = f a w' := by
  change (match g w with
    | .error hazard => _
    | .ok (.error fault w') => _
    | .ok (.ok a w') => f a w') = _
  rw [h]

lemma bind_of_error {fault : GenerationError} (h : g w = .ok (.error fault w')) :
    (g >>= f) w = .ok (.error fault w') := by
  change (match g w with
    | .error hazard => _
    | .ok (.error fault w') => _
    | .ok (.ok a w') => f a w') = _
  rw [h]

end GuardedWalker

namespace Guards

variable {σ α β : Type} {poll : Walk σ → Bool} {watched : Bool} {limit : UInt64} {P Q R : Walk σ → Prop}

lemma pure (a : α) (h : ∀ w, P w → Q w) : Guards poll watched limit P (Pure.pure a) (Pure.pure a) Q where
  ends w hw := .inl ⟨a, w, rfl, h w hw⟩
  agrees _ _ _ := rfl

lemma bind {g : GuardedWalker σ α} {m : Walker σ α} {f : α → GuardedWalker σ β} {k : α → Walker σ β}
    (hg : Guards poll watched limit P g m Q) (hf : ∀ a, Guards poll watched limit Q (f a) (k a) R) :
    Guards poll watched limit P (g >>= f) (m >>= k) R where
  ends w hw := by
    rcases hg.ends w hw with ⟨a, v, ha, hv⟩ | ⟨fault, v, he, hfault⟩
    · rw [GuardedWalker.bind_of_ok ha]
      exact (hf a).ends v hv
    · exact .inr ⟨fault, v, GuardedWalker.bind_of_error he, hfault⟩
  agrees hpoll w hw := by
    have hm := hg.agrees hpoll w hw
    change _ = Except.ok (EStateM.bind m k w)
    rw [EStateM.bind]
    rcases hg.ends w hw with ⟨a, v, ha, hv⟩ | ⟨fault, v, he, -⟩
    · rw [GuardedWalker.bind_of_ok ha, ← Except.ok.inj (ha.symm.trans hm)]
      exact (hf a).agrees hpoll v hv
    · rw [GuardedWalker.bind_of_error he, ← Except.ok.inj (he.symm.trans hm)]

lemma imp {g : GuardedWalker σ α} {m : Walker σ α} (hg : Guards poll watched limit P g m Q)
    (h : ∀ w, Q w → R w) : Guards poll watched limit P g m R where
  ends w hw := (hg.ends w hw).imp_left fun ⟨a, v, ha, hv⟩ => ⟨a, v, ha, h v hv⟩
  agrees := hg.agrees

lemma fitting {n : Walk σ → Nat} {g : GuardedWalker σ α} {m : Walker σ α} (hn : ∀ w, P w → n w < UInt64.size)
    (hg : Guards poll watched limit P g m Q) : Guards poll watched limit P (GuardedWalker.fitting n g) m Q where
  ends w hw := by
    rw [GuardedWalker.fitting, if_pos (hn w hw)]
    exact hg.ends w hw
  agrees hpoll w hw := by
    rw [GuardedWalker.fitting, if_pos (hn w hw)]
    exact hg.agrees hpoll w hw

lemma onward {g : GuardedWalker σ α} {m : Walker σ α} (hg : ∀ w, P w → g w = .ok (m w))
    (hm : ∀ w, P w → ∃ a w', m w = .ok a w' ∧ Q w') : Guards poll watched limit P g m Q where
  ends w hw := by
    obtain ⟨a, v, ha, hv⟩ := hm w hw
    exact .inl ⟨a, v, ha ▸ hg w hw, hv⟩
  agrees _ := hg

lemma gather {P : Nat → Walk σ → Prop} {g : GuardedWalker σ α} {m : Walker σ α}
    (h : ∀ i, Guards poll watched limit (P i) g m (P (i + 1))) (n i : Nat) (before : List α) :
    Guards poll watched limit (P i) (GuardedWalker.gather g n before) (Walker.gather m n before) (P (i + n)) := by
  induction n generalizing i before with
  | zero => exact .pure _ fun _ => id
  | succ n ih =>
    refine (h i).bind fun a => ?_
    rw [← Nat.add_assoc, Nat.add_right_comm]
    exact ih (i + 1) (a :: before)

end Guards

section

variable {σ α : Type} {poll : Walk σ → Bool} {watched : Bool} {limit : UInt64} {placed : Nat}

lemma guards_record {f : Report → Report} (hf : ∀ r t, ((f r).tally t).toNat ≤ (r.tally t).toNat + 1)
    (helements : ∀ r, (f r).arrayElements = r.arrayElements) :
    Guards poll watched limit (Covered limit placed 1) (.unguarded (Walker.record f)) (Walker.record f)
      (Covered limit placed 0) :=
  .onward (fun _ _ => rfl) fun _ hw => ⟨_, _, rfl, hw.record (hf _) (helements _)⟩

lemma Covered.tally_add_one_lt {w : Walk σ} (h : Covered limit placed 1 w) (t : Tally) :
    (w.report.tally t).toNat + 1 < UInt64.size := h.lt_size (h.tally_le t)

lemma guards_recordUsage (tag : String) : Guards poll watched limit (Covered limit placed 1)
    (GuardedWalker.recordUsage tag) (Walker.record (Report.recordUsage tag)) (Covered limit placed 0) :=
  .fitting (fun _ hw => hw.tally_add_one_lt _) (guards_record (fun r t => r.toNat_tally_apply_le (.usage tag) t) fun _ => rfl)

lemma guards_recordFallback (tag : String) : Guards poll watched limit (Covered limit placed 1)
    (GuardedWalker.recordFallback tag) (Walker.record (Report.recordFallback tag)) (Covered limit placed 0) :=
  .fitting (fun _ hw => hw.tally_add_one_lt _) <| .fitting (fun _ hw => hw.tally_add_one_lt _) <|
    guards_record (fun r t => r.toNat_tally_apply_le (.fallback tag) t) fun _ => rfl

lemma guards_recordImage : Guards poll watched limit (Covered limit placed 1)
    GuardedWalker.recordImage (Walker.record Report.recordImage) (Covered limit placed 0) :=
  .fitting (fun _ hw => hw.tally_add_one_lt _) (guards_record (fun r t => r.toNat_tally_apply_le .image t) fun _ => rfl)

lemma guards_recordArray (len : UInt64) : Guards poll watched limit (Covered limit (placed + len.toNat) 0)
    (GuardedWalker.recordArray len) (Walker.record (Report.recordArray len)) (Covered limit placed 0) := by
  refine .fitting (fun w hw => hw.lt_size ?_) (.onward (fun _ _ => rfl) fun _ hw => ⟨_, _, rfl, hw.recordArray⟩)
  have := hw.placed_le
  omega

lemma guards_finishRecord : Guards poll watched limit (Covered limit 1 0)
    GuardedWalker.finishRecord Walker.finishRecord (Covered limit 0 0) := by
  refine .fitting (fun w hw => hw.lt_size ?_) (.onward (fun _ _ => rfl) fun _ hw => ⟨_, _, rfl, hw.finishRecord⟩)
  have := hw.placed_le
  omega

lemma guards_spend : Guards poll watched limit (Covered limit placed 0)
    (GuardedWalker.spend limit) (Walker.spend limit) (Covered limit (placed + 1) 1) := by
  have hspend (w : Walk σ) : (GuardedWalker.spend limit w) = .ok (Walker.spend limit w) := by
    rw [GuardedWalker.spend]
    split
    · rfl
    · rename_i h
      have hlt : w.values + 1 < UInt64.size := Nat.lt_of_le_of_lt (Nat.not_le.1 h) limit.toNat_lt
      rw [GuardedWalker.fitting, if_pos hlt]
      rfl
  refine ⟨fun w hw => ?_, fun _ w _ => hspend w⟩
  rw [hspend, Walker.spend]
  split
  · exact .inr ⟨_, _, rfl, .inl rfl⟩
  · rename_i h
    exact .inl ⟨_, _, rfl, hw.spend (Nat.not_le.1 h)⟩

lemma guards_spend_untallied : Guards poll watched limit (Covered limit placed 0)
    (GuardedWalker.spend limit) (Walker.spend limit) (Covered limit (placed + 1) 0) :=
  guards_spend.imp fun _ hw => hw.mono (Nat.le_refl _) (Nat.zero_le _)

lemma guards_checkpoint {P : Walk σ → Prop} :
    Guards poll watched limit P (.checkpoint poll) (Walker.checkpoint watched) P where
  ends w hw := by
    rw [GuardedWalker.checkpoint]
    split
    · exact .inr ⟨_, w, rfl, .inr ⟨w.recordsDone, rfl⟩⟩
    · exact .inl ⟨(), w, rfl, hw⟩
  agrees hpoll w _ := by
    rw [GuardedWalker.checkpoint, Walker.checkpoint, hpoll w]
    split <;> rfl

variable {made : Nat}

lemma draw_eq_ok {g : Guarded σ α} {m : StateM σ α} (h : Guarded.Guards g m) (w : Walk σ) :
    GuardedWalker.draw g w = .ok (Walker.draw m w) := by
  rw [GuardedWalker.draw, h w.source]
  rfl

lemma guards_draw {g : Guarded σ α} {m : StateM σ α} (h : Guarded.Guards g m) :
    Guards poll watched limit (Covered limit placed made) (GuardedWalker.draw g) (Walker.draw m)
      (Covered limit placed made) :=
  .onward (fun w _ => draw_eq_ok h w) fun w hw => ⟨_, _, rfl, hw.change _ w.fired⟩

lemma guards_call {tag : String} {g : Guarded σ String} {m : StateM σ String} (h : Guarded.Guards g m) :
    Guards poll watched limit (Covered limit placed made) (GuardedWalker.draw g) (Walker.call (.ofText tag m))
      (Covered limit placed made) := by
  refine .onward (fun w _ => ?_) fun w hw => ⟨_, _, rfl, hw.change _ _⟩
  have hcall : Walker.call (.ofText tag m) w = Walker.draw m w := by
    change Result.ok _ { w with source := _, fired := w.fired || false } = _
    rw [Bool.or_false]
    rfl
  rw [hcall, draw_eq_ok h]

variable [WordSource σ] (o : Options)

lemma guards_scalar (tag : String) : Guards poll watched limit (Covered limit placed 1)
    (GuardedWalker.scalar tag) ((Engine.builtIn σ o).scalar tag) (Covered limit placed 0) := by
  have h := Guarded.offers_builtIn (σ := σ) tag
  rw [GuardedWalker.scalar, Engine.scalar]
  simp only [Engine.builtIn]
  generalize (Guarded.builtIn? tag : Option (Guarded σ String)) = g at h ⊢
  generalize (Registry.builtIn.find? tag : Option (Generator σ)) = r at h ⊢
  cases h with
  | absent => exact (guards_recordFallback tag).bind fun _ => guards_call Guarded.guards_fillerWord
  | present hg => exact (guards_recordUsage tag).bind fun _ => guards_call hg

lemma guards_image (spec : ImageSpec) : Guards poll watched limit (Covered limit placed 1)
    (GuardedWalker.image o spec) ((Engine.builtIn σ o).image spec) (Covered limit placed 0) := by
  rw [GuardedWalker.image, Engine.image]
  exact guards_recordImage.bind fun _ => guards_draw (Guarded.guards_drawUrl spec o.imageBaseUrl)

lemma guards_length {minSize maxSize : UInt64} (h : minSize ≤ maxSize) :
    Guards poll watched limit (Covered limit placed made) (GuardedWalker.length minSize maxSize)
      (Engine.length minSize maxSize) (Covered limit placed made) := by
  have hle : minSize.toNat ≤ maxSize.toNat := UInt64.le_iff_toNat_le.1 h
  have hlength : (Engine.length minSize maxSize : Walker σ UInt64) = Walker.draw (UInt64.ofNat <$>
      between (.toReach maxSize.toNat) minSize.toNat maxSize.toNat hle) := by
    funext w
    rw [Engine.length, dif_pos hle]
  rw [hlength]
  exact guards_draw ((Guarded.guards_between _ hle).bind fun _ => .pure _)

mutual

lemma guards_value (placed : Nat) : {s : Schema} → s.Sized →
    Guards poll watched o.maxValues (Covered o.maxValues placed 0) (GuardedWalker.value o poll s)
      ((Engine.builtIn σ o).value watched s) (Covered o.maxValues (placed + 1) 0)
  | .scalar tag, _ => by
    rw [GuardedWalker.value, Engine.value]
    exact guards_spend.bind fun _ => (guards_scalar o tag).bind fun _ => .pure _ fun _ => id
  | .image spec, _ => by
    rw [GuardedWalker.value, Engine.value]
    exact guards_spend.bind fun _ => (guards_image o spec).bind fun _ => .pure _ fun _ => id
  | .object fields, h => by
    rw [GuardedWalker.value, Engine.value]
    exact guards_spend_untallied.bind fun _ => (guards_members (placed + 1) h.2 []).bind fun _ => .pure _ fun _ => id
  | .array minSize maxSize element, h => by
    rw [GuardedWalker.value, Engine.value]
    -- each element places one more, which the tally of the elements takes at the end
    have hstep (i : Nat) := guards_checkpoint.bind fun _ => guards_value i h.2
    exact guards_spend_untallied.bind fun _ => (guards_length h.1).bind fun len =>
      (Guards.gather hstep len.toNat (placed + 1) []).bind fun _ =>
        (guards_recordArray len).bind fun _ => .pure _ fun _ => id

lemma guards_members (placed : Nat) : {fields : List (String × Schema)} →
    Schema.EverywhereIn Schema.SizesOrdered fields → (before : List (String × Json)) →
    Guards poll watched o.maxValues (Covered o.maxValues placed 0) (GuardedWalker.members o poll fields before)
      ((Engine.builtIn σ o).members watched fields before) (Covered o.maxValues placed 0)
  | [], _, before => by
    rw [GuardedWalker.members, Engine.members]
    exact .pure _ fun _ => id
  | (name, s) :: rest, h, before => by
    rw [GuardedWalker.members, Engine.members]
    have hvalue := (guards_value placed h.1).imp fun _ hw => hw.mono (Nat.le_succ placed) (Nat.le_refl 0)
    exact hvalue.bind fun v => guards_members placed h.2 (Entries.set name v before)

end

variable (poll watched) in
lemma guards_records {schema : Schema} (h : schema.Sized) (count : Nat) :
    Guards poll watched o.maxValues (Covered o.maxValues 0 0) (GuardedWalker.records o poll schema count)
      ((Engine.builtIn σ o).records watched schema count) (Covered o.maxValues 0 0) := by
  rw [GuardedWalker.records, Engine.records]
  -- each record places one value, which the count of the records takes
  exact .gather (P := fun _ => Covered o.maxValues 0 0) (fun _ => guards_checkpoint.bind fun _ =>
    (guards_value o 0 h).bind fun v => guards_finishRecord.bind fun _ => .pure v fun _ => id) count 0 []

end

namespace Engine

variable {σ : Type} [WordSource σ]

lemma run_of_checkLimits_eq_ok (e : Engine σ) {schema : Schema} {count : UInt64} {token : Option Bool}
    {runId : String} {source : σ} (h : e.options.checkLimits [] schema = .ok ()) :
    e.run schema count token runId source =
      .ofResult (e.records token.isSome schema count.toNat (begin source (token.getD false) (.new runId count))) := by
  simp only [run, h]
  cases e.records _ _ _ _ <;> rfl

/-- A schema that is read from JSON is generated from without a draw from an empty range, an index outside a table
or a counter that leaves its 64 bits, whenever the token is fired, and a run ends with its records or for a limit or
its token. -/
theorem guardedRun_eq_ok {v : Json} {schema : Schema} (h : Schema.ofJson v = .ok schema) (o : Options)
    (count : UInt64) (runId : String) (source : σ) :
    schema.Sized ∧
    (∀ poll fired, ∃ run, guardedRun o poll schema count fired runId source = .ok run ∧
      ∀ fault, run.outcome = .error fault →
        fault = .depthExceeded o.maxDepth ∨ (∃ path maxSize, fault = .arrayTooLarge path maxSize o.maxArrayLen) ∨
        fault = .valueBudgetExceeded o.maxValues ∨ ∃ done, fault = .cancelled done) ∧
    ∀ token : Option Bool,
      guardedRun o (fun w => token.isSome && w.fired) schema count (token.getD false) runId source =
        .ok ((builtIn σ o).run schema count token runId source) := by
  have hs : schema.Sized := Schema.sized_of_ofJson h
  have hbegin (fired : Bool) : Covered o.maxValues 0 0 (begin source fired (.new runId count)) :=
    .begin source fired runId count
  refine ⟨hs, fun poll fired => ?_, fun token => ?_⟩
  · rw [guardedRun]
    cases hl : o.checkLimits [] schema with
    | error fault =>
      refine ⟨_, rfl, fun fault' hr => ?_⟩
      cases hr
      exact (Options.fault_of_checkLimits hl).imp_right .inl
    | ok =>
      have hrecords := guards_records poll false o hs count.toNat
      rcases hrecords.ends _ (hbegin fired) with ⟨records, w, hw, -⟩ | ⟨fault, w, hw, hfault⟩
      · simp only [hw]
        refine ⟨_, rfl, fun fault hr => by cases hr⟩
      · simp only [hw]
        refine ⟨_, rfl, fun fault' hr => ?_⟩
        cases hr
        exact .inr (.inr hfault)
  · rw [guardedRun]
    cases hl : o.checkLimits [] schema with
    | error fault => rw [run_of_checkLimits_eq_error (e := builtIn σ o) hl]
    | ok =>
      have hrecords := guards_records (fun w : Walk σ => token.isSome && w.fired) token.isSome o hs count.toNat
      rw [run_of_checkLimits_eq_ok (builtIn σ o) hl]
      simp only [hrecords.agrees (fun _ => rfl) _ (hbegin _)]
      rfl

example : guardedRun {} (·.fired) (.array 2 1 (.scalar "name")) 1 false "" (⟨#[0], 0⟩ : WordCycle) =
    .error .emptyRange := by
  rfl

section

def namesJson : Json :=
  .obj [("type", .str "array"), ("size", .arr [.num (.natural 1), .num (.natural 2)]), ("schema", .str "name")]

def namesSchema : Schema := .array 1 2 (.scalar "name")

theorem guardedRun_eq_ok_names :
    Schema.ofJson namesJson = .ok namesSchema ∧
    guardedRun {} (fun w => true && w.fired) namesSchema 3 false "" (⟨#[0], 0⟩ : WordCycle) =
      .ok ((builtIn WordCycle {}).run namesSchema 3 (some false) "" ⟨#[0], 0⟩) := by
  have h : Schema.ofJson namesJson = .ok namesSchema := by rfl
  exact ⟨h, (guardedRun_eq_ok h {} 3 "" (⟨#[0], 0⟩ : WordCycle)).2.2 (some false)⟩

end

end Engine

end Specimen
