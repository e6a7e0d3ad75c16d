import Specimen.Proofs.Engine.Guarded
import Specimen.Proofs.Engine.Results

/-! Two walks from one place, perhaps with different engines and through different schemas, that stay at one
place. Only their reports may differ. -/

namespace Specimen

open EStateM (Result)

namespace Schema

mutual

inductive Matches (P : String → String → Prop) : Schema → Schema → Prop
  | scalar {tag tag'} : P tag tag' → Matches P (.scalar tag) (.scalar tag')
  | image (width height category category') :
      Matches P (.image ⟨width, height, category⟩) (.image ⟨width, height, category'⟩)
  | object {fields fields'} : MatchesEach P fields fields' → Matches P (.object fields) (.object fields')
  | array (minSize maxSize) {element element'} : Matches P element element' →
      Matches P (.array minSize maxSize element) (.array minSize maxSize element')

inductive MatchesEach (P : String → String → Prop) : List (String × Schema) → List (String × Schema) → Prop
  | nil : MatchesEach P [] []
  | cons (name) {s s' rest rest'} : Matches P s s' → MatchesEach P rest rest' →
      MatchesEach P ((name, s) :: rest) ((name, s') :: rest')

end

end Schema

namespace Options

variable (o : Options) {P : String → String → Prop}

mutual

lemma checkLimits_of_matches (path : Schema.Path) : {s s' : Schema} → s.Matches P s' →
    o.checkLimits path s = o.checkLimits path s'
  | _, _, .scalar _ | _, _, .image _ _ _ _ => by rw [checkLimits, checkLimits]
  | _, _, .object h => by rw [checkLimits, checkLimits, checkFields_of_matches path h]
  | _, _, .array _ _ h => by rw [checkLimits, checkLimits, checkLimits_of_matches (.element :: path) h]

lemma checkFields_of_matches (path : Schema.Path) : {fields fields' : List (String × Schema)} →
    Schema.MatchesEach P fields fields' → o.checkFields path fields = o.checkFields path fields'
  | _, _, .nil => rfl
  | _, _, .cons name hs hrest => by
    rw [checkFields, checkFields, checkLimits_of_matches (.field name :: path) hs, checkFields_of_matches path hrest]

end

end Options

/-- The walks are at one place. `R n` relates their reports for some `n`, by which `made` values have not been
counted yet. -/
structure Abreast {σ : Type} (limit : UInt64) (R : Nat → Report → Report → Prop) (made : Nat) (w w' : Walk σ) :
    Prop where
  source : w.source = w'.source
  fired : w.fired = w'.fired
  values : w.values = w'.values
  recordsDone : w.recordsDone = w'.recordsDone
  values_le : w.values ≤ limit.toNat
  report : ∃ n, n + made ≤ w.values ∧ R n w.report w'.report

inductive Level {σ α : Type} (limit : UInt64) (R : Nat → Report → Report → Prop) (made : Nat) :
    Result GenerationError (Walk σ) α → Result GenerationError (Walk σ) α → Prop
  | ok (a) {w w'} : Abreast limit R made w w' → Level limit R made (.ok a w) (.ok a w')
  | error (fault) {w w'} : Abreast limit R 0 w w' → Level limit R made (.error fault w) (.error fault w')

def StaysLevel {σ α : Type} (limit : UInt64) (R : Nat → Report → Report → Prop) (made made' : Nat)
    (m m' : Walker σ α) : Prop :=
  ∀ w w', Abreast limit R made w w' → Level limit R made' (m w) (m' w')

structure Run.Level {σ : Type} (limit : UInt64) (R : Nat → Report → Report → Prop) (r r' : Run σ) : Prop where
  outcome : r.outcome = r'.outcome
  source : r.source = r'.source
  report : ∃ n ≤ limit.toNat, R n r.report r'.report

variable {σ α β : Type} {limit : UInt64} {R : Nat → Report → Report → Prop} {made made' : Nat}

lemma Abreast.mono {w w' : Walk σ} (h : Abreast limit R made w w') (hle : made' ≤ made) :
    Abreast limit R made' w w' where
  source := h.source
  fired := h.fired
  values := h.values
  recordsDone := h.recordsDone
  values_le := h.values_le
  report := by
    obtain ⟨n, hn, hR⟩ := h.report
    exact ⟨n, Nat.le_trans (Nat.add_le_add_left hle n) hn, hR⟩

namespace StaysLevel

variable {m m' : Walker σ α}

lemma pure (a : α) : StaysLevel limit R made made (Pure.pure a : Walker σ α) (Pure.pure a) :=
  fun _ _ h => .ok a h

lemma bind {later : Nat} {f f' : α → Walker σ β} (hm : StaysLevel limit R made made' m m')
    (hf : ∀ a, StaysLevel limit R made' later (f a) (f' a)) :
    StaysLevel limit R made later (m >>= f) (m' >>= f') := by
  intro w w' h
  have hlevel := hm w w' h
  change Level limit R later (EStateM.bind m f w) (EStateM.bind m' f' w')
  rw [EStateM.bind, EStateM.bind]
  generalize m w = r at hlevel ⊢
  generalize m' w' = r' at hlevel ⊢
  cases hlevel with
  | ok a h => exact hf a _ _ h
  | error fault h => exact .error fault h

lemma uncounted (hm : StaysLevel limit R made 1 m m') : StaysLevel limit R made 0 m m' := by
  intro w w' h
  have hlevel := hm w w' h
  generalize m w = r at hlevel ⊢
  generalize m' w' = r' at hlevel ⊢
  cases hlevel with
  | ok a h => exact .ok a (h.mono (Nat.zero_le 1))
  | error fault h => exact .error fault h

lemma gather (hm : StaysLevel limit R 0 0 m m') (n : Nat) (l : List α) :
    StaysLevel limit R 0 0 (Walker.gather m n l) (Walker.gather m' n l) := by
  induction n generalizing l with
  | zero => exact .pure _
  | succ n ih => exact hm.bind fun a => ih (a :: l)

end StaysLevel

namespace Walker

lemma staysLevel_draw (d : StateM σ α) : StaysLevel limit R made made (draw d) (draw d) := by
  intro w w' h
  rw [draw, draw, ← h.source]
  exact .ok _ ⟨rfl, h.fired, h.values, h.recordsDone, h.values_le, h.report⟩

lemma staysLevel_call (g : Generator σ) : StaysLevel limit R made made (call g) (call g) := by
  intro w w' h
  rw [call, call, ← h.source, ← h.fired]
  exact .ok _ ⟨rfl, rfl, h.values, h.recordsDone, h.values_le, h.report⟩

lemma staysLevel_record {f f' : Report → Report} (hf : ∀ n r r', R n r r' → R (n + made) (f r) (f' r')) :
    StaysLevel limit R made 0 (record f : Walker σ Unit) (record f') := by
  intro w w' h
  obtain ⟨n, hn, hR⟩ := h.report
  exact .ok () ⟨h.source, h.fired, h.values, h.recordsDone, h.values_le, n + made, hn, hf n _ _ hR⟩

lemma staysLevel_finishRecord : StaysLevel limit R made made (finishRecord : Walker σ Unit) finishRecord :=
  fun _ _ h => .ok () ⟨h.source, h.fired, h.values, congrArg (· + 1) h.recordsDone, h.values_le, h.report⟩

lemma staysLevel_spend : StaysLevel limit R 0 1 (spend limit : Walker σ Unit) (spend limit) := by
  intro w w' h
  rw [spend, spend, ← h.values]
  split
  · exact .error _ h
  · rename_i hlt
    obtain ⟨n, hn, hR⟩ := h.report
    exact .ok () ⟨h.source, h.fired, rfl, h.recordsDone, Nat.not_le.1 hlt, n, Nat.succ_le_succ hn, hR⟩

lemma staysLevel_checkpoint (watched : Bool) :
    StaysLevel limit R 0 0 (checkpoint watched : Walker σ Unit) (checkpoint watched) := by
  intro w w' h
  rw [checkpoint, checkpoint, ← h.fired, ← h.recordsDone]
  split
  · exact .error _ h
  · exact .ok () h

end Walker

namespace Engine

open Walker

variable [WordSource σ] (e : Engine σ) (check : Walker σ Unit)

lemma staysLevel_length (minSize maxSize : UInt64) :
    StaysLevel limit R 0 0 (length minSize maxSize : Walker σ UInt64) (length minSize maxSize) := by
  intro w w' h
  rw [length, length]
  split
  · exact staysLevel_draw _ w w' h
  · exact .error _ h

mutual

def checkedValue : Schema → Walker σ Json
  | .scalar tag => do
    spend e.options.maxValues
    return .str (← e.scalar tag)
  | .image spec => do
    spend e.options.maxValues
    return .str (← e.image spec)
  | .object fields => do
    spend e.options.maxValues
    return .obj (← checkedMembers fields [])
  | .array minSize maxSize element => do
    spend e.options.maxValues
    let len ← length minSize maxSize
    let items ← gather (do check; checkedValue element) len.toNat []
    record (Report.recordArray len)
    return .arr items

def checkedMembers : List (String × Schema) → List (String × Json) → Walker σ (List (String × Json))
  | [], before => pure before
  | (name, s) :: rest, before => do
    let v ← checkedValue s
    checkedMembers rest (Entries.set name v before)

end

def checkedRecords (schema : Schema) (count : Nat) : Walker σ Dataset :=
  gather (do
    check
    let v ← e.checkedValue check schema
    finishRecord
    return v) count []

def checkedRun (schema : Schema) (count : UInt64) (fired : Bool) (runId : String) (source : σ) : Run σ :=
  match e.options.checkLimits [] schema with
  | .error fault => ⟨.error fault, .new runId count, source⟩
  | .ok () => .ofResult (e.checkedRecords check schema count.toNat (begin source fired (.new runId count)))

mutual

lemma value_eq_checkedValue (watched : Bool) : (s : Schema) →
    e.value watched s = e.checkedValue (checkpoint watched) s
  | .scalar _ | .image _ => by rw [value, checkedValue]
  | .object fields => by simp only [value, checkedValue, members_eq_checkedMembers watched fields]
  | .array _ _ element => by simp only [value, checkedValue, value_eq_checkedValue watched element]

lemma members_eq_checkedMembers (watched : Bool) : (fields : List (String × Schema)) →
    (before : List (String × Json)) →
    e.members watched fields before = e.checkedMembers (checkpoint watched) fields before
  | [], _ => by rw [members, checkedMembers]
  | (_, s) :: rest, _ => by
    simp only [members, checkedMembers, value_eq_checkedValue watched s, members_eq_checkedMembers watched rest]

end

lemma run_eq_checkedRun (schema : Schema) (count : UInt64) (token : Option Bool) (runId : String) (source : σ) :
    e.run schema count token runId source =
      e.checkedRun (checkpoint token.isSome) schema count (token.getD false) runId source := by
  rw [checkedRun]
  cases h : e.options.checkLimits [] schema with
  | error fault => exact run_of_checkLimits_eq_error h
  | ok =>
    rw [run_of_checkLimits_eq_ok e h, records, value_eq_checkedValue]
    rfl

/-- The engines do the same for tags that `P` relates, and what their reports tell apart is left to `R`. -/
structure Corresponds (P : String → String → Prop) (R : Nat → Report → Report → Prop) (e e' : Engine σ) : Prop where
  options : e.options = e'.options
  scalar : ∀ limit {tag tag'}, P tag tag' → StaysLevel limit R 1 0 (e.scalar tag) (e'.scalar tag')
  recordImage : ∀ n r r', R n r r' → R (n + 1) r.recordImage r'.recordImage
  recordArray : ∀ len n r r', R n r r' → R n (r.recordArray len) (r'.recordArray len)
  generated : ∀ k n r r', R n r r' → R n { r with recordsGenerated := k } { r' with recordsGenerated := k }
  new : ∀ runId runId' count, R 0 (.new runId count) (.new runId' count)

variable {e check} {e' : Engine σ} {P : String → String → Prop}

lemma level_image (h : Corresponds P R e e') {spec spec' : ImageSpec} (hwidth : spec.width = spec'.width)
    (hheight : spec.height = spec'.height) : StaysLevel limit R 1 0 (e.image spec) (e'.image spec') := by
  have hurl : spec.drawUrl e.options.imageBaseUrl = (spec'.drawUrl e'.options.imageBaseUrl : StateM σ String) := by
    simp only [ImageSpec.drawUrl, ImageSpec.url, hwidth, hheight, h.options]
  rw [image, image, hurl]
  exact (staysLevel_record h.recordImage).bind fun _ => staysLevel_draw _

mutual

lemma level_checkedValue (h : Corresponds P R e e') (hcheck : StaysLevel e.options.maxValues R 0 0 check check) :
    {s s' : Schema} → s.Matches P s' →
    StaysLevel e.options.maxValues R 0 0 (e.checkedValue check s) (e'.checkedValue check s')
  | _, _, .scalar htag => by
    rw [checkedValue, checkedValue, ← h.options]
    exact staysLevel_spend.bind fun _ => (h.scalar _ htag).bind fun _ => .pure _
  | _, _, .image _ _ _ _ => by
    rw [checkedValue, checkedValue, ← h.options]
    exact staysLevel_spend.bind fun _ => (level_image h rfl rfl).bind fun _ => .pure _
  | _, _, .object hfields => by
    rw [checkedValue, checkedValue, ← h.options]
    exact staysLevel_spend.uncounted.bind fun _ => (level_checkedMembers h hcheck hfields []).bind fun _ => .pure _
  | _, _, .array minSize maxSize helement => by
    rw [checkedValue, checkedValue, ← h.options]
    have hstep := hcheck.bind fun _ => level_checkedValue h hcheck helement
    exact staysLevel_spend.uncounted.bind fun _ => (staysLevel_length minSize maxSize).bind fun len =>
      (hstep.gather len.toNat []).bind fun _ => (staysLevel_record (h.recordArray len)).bind fun _ => .pure _

lemma level_checkedMembers (h : Corresponds P R e e') (hcheck : StaysLevel e.options.maxValues R 0 0 check check) :
    {fields fields' : List (String × Schema)} → Schema.MatchesEach P fields fields' →
    (before : List (String × Json)) → StaysLevel e.options.maxValues R 0 0 (e.checkedMembers check fields before)
      (e'.checkedMembers check fields' before)
  | _, _, .nil, before => by
    rw [checkedMembers, checkedMembers]
    exact .pure before
  | _, _, .cons name hs hrest, before => by
    rw [checkedMembers, checkedMembers]
    exact (level_checkedValue h hcheck hs).bind fun v => level_checkedMembers h hcheck hrest (Entries.set name v before)

end

variable {s s' : Schema}

lemma level_checkedRecords (h : Corresponds P R e e') (hcheck : StaysLevel e.options.maxValues R 0 0 check check)
    (hs : s.Matches P s') (count : Nat) :
    StaysLevel e.options.maxValues R 0 0 (e.checkedRecords check s count) (e'.checkedRecords check s' count) :=
  (hcheck.bind fun _ => (level_checkedValue h hcheck hs).bind fun _ =>
    staysLevel_finishRecord.bind fun _ => .pure _).gather count []

lemma level_checkedRun (h : Corresponds P R e e') (hcheck : StaysLevel e.options.maxValues R 0 0 check check)
    (hs : s.Matches P s') (count : UInt64) (fired : Bool) (runId runId' : String) (source : σ) :
    Run.Level e.options.maxValues R (e.checkedRun check s count fired runId source)
      (e'.checkedRun check s' count fired runId' source) := by
  have hnew := h.new runId runId' count
  rw [checkedRun, checkedRun, ← h.options, ← e.options.checkLimits_of_matches [] hs]
  cases e.options.checkLimits [] s with
  | error fault => exact ⟨rfl, rfl, 0, Nat.zero_le _, hnew⟩
  | ok =>
    have hbegin : Abreast e.options.maxValues R 0 (begin source fired (.new runId count))
        (begin source fired (.new runId' count)) := ⟨rfl, rfl, rfl, rfl, Nat.zero_le _, 0, Nat.le_refl 0, hnew⟩
    have hlevel := level_checkedRecords h hcheck hs count.toNat _ _ hbegin
    dsimp only
    generalize e.checkedRecords check s count.toNat (begin source fired (.new runId count)) = r at hlevel ⊢
    generalize e'.checkedRecords check s' count.toNat (begin source fired (.new runId' count)) = r' at hlevel ⊢
    cases hlevel with
    | ok records h' =>
      obtain ⟨n, hn, hR⟩ := h'.report
      exact ⟨rfl, h'.source, n, Nat.le_trans hn h'.values_le, h.generated _ n _ _ hR⟩
    | error fault h' =>
      obtain ⟨n, hn, hR⟩ := h'.report
      rw [Run.ofResult, Run.ofResult, ← h'.recordsDone]
      exact ⟨rfl, h'.source, n, Nat.le_trans hn h'.values_le, h.generated _ n _ _ hR⟩

lemma level_run (h : Corresponds P R e e') (hs : s.Matches P s') (count : UInt64) (token : Option Bool)
    (runId runId' : String) (source : σ) : Run.Level e.options.maxValues R (e.run s count token runId source)
      (e'.run s' count token runId' source) := by
  rw [run_eq_checkedRun, run_eq_checkedRun]
  exact level_checkedRun h (staysLevel_checkpoint _) hs count _ runId runId' source

end Engine

end Specimen
