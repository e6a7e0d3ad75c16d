import Specimen.Proofs.Http.Readable
import Specimen.Store.Memory

/-! What has been stored and has not been removed since is all that a store in memory holds and all that the
next response depends on. -/

namespace Specimen

namespace Http

open Store

structure Exchange (σ : Type) where
  chance : Chance σ
  request : Request
  response : Response

namespace Exchange

variable {σ : Type}

def Succeeds (x : Exchange σ) (method : Method) : Prop := x.request.method = method ∧ x.response.status = 200

instance (x : Exchange σ) (method : Method) : Decidable (x.Succeeds method) :=
  inferInstanceAs (Decidable (_ ∧ _))

def Stored (x : Exchange σ) (key : String) (records : Dataset) : Prop :=
  x.request.method = .post ∧ x.response = .json 200 (StoredDataset.format.toJson ⟨key, records⟩) ∧
    ∀ v ∈ records, v.Plain

def KeysDiffer (x y : Exchange σ) : Prop := x.Succeeds .post → y.Succeeds .post → x.chance.key ≠ y.chance.key

instance (x y : Exchange σ) : Decidable (x.KeysDiffer y) := inferInstanceAs (Decidable (_ → _ → _))

def Removed (x : Exchange σ) (key : String) : Prop := x.request.Deletes key ∧ x.response.status = 200

variable {x : Exchange σ} {key key' : String} {records records' : Dataset}

lemma Stored.succeeds (h : x.Stored key records) : x.Succeeds .post := by
  obtain ⟨hm, hr, -⟩ := h
  exact ⟨hm, by rw [hr]; rfl⟩

lemma Removed.succeeds (h : x.Removed key) : x.Succeeds .delete := ⟨h.1.1, h.2⟩

lemma Removed.not_stored (h : x.Removed key) : ¬ x.Stored key' records := by
  intro hs
  have hm := hs.succeeds.1
  rw [h.succeeds.1] at hm
  cases hm

lemma Removed.unique (h : x.Removed key) (h' : x.Removed key') : key = key' := by
  obtain ⟨⟨-, s, hs, hk⟩, -⟩ := h
  obtain ⟨⟨-, s', hs', hk'⟩, -⟩ := h'
  cases hs.symm.trans hs'
  exact Option.some.inj (hk.symm.trans hk')

lemma plain_toJson_stored (key : String) (h : ∀ v ∈ records, v.Plain) :
    (StoredDataset.format.toJson ⟨key, records⟩).Plain := by
  have hdata : Json.Plain (.arr (records.map fun v => v)) := .arr (by simpa using h)
  have hnames : ["key", "data"].Nodup := by decide
  refine .obj hnames fun e he => ?_
  rcases List.mem_cons.1 he with rfl | he
  · exact .str key
  · rw [List.mem_singleton.1 he]
    exact hdata

lemma json_stored_inj (h : ∀ v ∈ records, v.Plain) (h' : ∀ v ∈ records', v.Plain)
    (he : Response.json 200 (StoredDataset.format.toJson ⟨key, records⟩) =
      .json 200 (StoredDataset.format.toJson ⟨key', records'⟩)) : key = key' ∧ records = records' := by
  have hjson := Json.eq_of_compact_eq (plain_toJson_stored key h) (plain_toJson_stored key' h')
    (congrArg Response.body he)
  simpa [Json.Format.toJson, StoredDataset.format, Json.Slots.toMembers, Json.Shape.toJson] using hjson

lemma Stored.unique (h : x.Stored key records) (h' : x.Stored key' records') :
    key = key' ∧ records = records' :=
  json_stored_inj h.2.2 h'.2.2 (h.2.1.symm.trans h'.2.1)

end Exchange

/-- The records were stored under the key, and the key has not been removed since. -/
def Held {σ : Type} (history : List (Exchange σ)) (key : String) (records : Dataset) : Prop :=
  ∃ before x after, history = before ++ x :: after ∧ x.Stored key records ∧ ∀ y ∈ after, ¬ y.Removed key

section

variable {σ : Type} {history : List (Exchange σ)} {x : Exchange σ} {key : String} {records : Dataset}

lemma not_held_nil : ¬ Held ([] : List (Exchange σ)) key records := by
  rintro ⟨before, x, after, h, -⟩
  simp at h

lemma Held.exists_stored (h : Held history key records) : ∃ x ∈ history, x.Stored key records := by
  obtain ⟨before, x, after, rfl, hx, -⟩ := h
  exact ⟨x, by simp, hx⟩

lemma held_concat_iff :
    Held (history ++ [x]) key records ↔ x.Stored key records ∨ Held history key records ∧ ¬ x.Removed key := by
  constructor
  · rintro ⟨before, y, after, he, hy, hafter⟩
    -- the last exchange is the one that stored the records, or it came after that one
    rcases List.eq_nil_or_concat after with rfl | ⟨after, z, rfl⟩
    · obtain ⟨-, hz⟩ := List.append_inj' he rfl
      cases hz
      exact .inl hy
    · rw [List.concat_eq_append, ← List.cons_append, ← List.append_assoc] at he
      obtain ⟨hh, hz⟩ := List.append_inj' he rfl
      cases hz
      refine .inr ⟨⟨before, y, after, hh, hy, fun z hz => hafter z ?_⟩, hafter x ?_⟩ <;> simp [*]
  · rintro (hx | ⟨⟨before, y, after, rfl, hy, hafter⟩, hx⟩)
    · exact ⟨history, x, [], rfl, hx, by simp⟩
    · refine ⟨before, y, after ++ [x], by simp, hy, fun z hz => ?_⟩
      rcases List.mem_append.1 hz with hz | hz
      · exact hafter z hz
      · rwa [List.mem_singleton.1 hz]

end

structure MayFollow {σ : Type} (history : List (Exchange σ)) (x : Exchange σ) (w w' : Datasets) : Prop where
  found : ∀ key records, x.request.Asks key → Held history key records → x.response = .json 200 records.toJson
  missing : ∀ key, x.request.Asks key → (∀ records, ¬ Held history key records) → x.response.status = 404
  listed : x.request.method = .get → Resource.ofPath? x.request.path = some .listFiles →
    ∃ keys, x.response = .json 200 (KeyList.format.toJson ⟨keys⟩) ∧ keys.Pairwise (· < ·) ∧
      ∀ key, key ∈ keys ↔ ∃ records, Held history key records
  removed : ∀ key, x.request.Deletes key → (x.response.status = 200 ↔ ∃ records, Held history key records)
  stored : x.Succeeds .post → ∃ records, x.Stored x.chance.key records
  unchanged : ¬ x.Succeeds .post → ¬ x.Succeeds .delete → w' = w

inductive Effect {σ : Type} (x : Exchange σ) (w w' : Datasets) : Prop
  | stores {records} : x.Stored x.chance.key records → w' = w.insert x.chance.key records → Effect x w w'
  | removes {key} : x.Removed key → w' = w.erase key → Effect x w w'
  | keeps : ¬ x.Succeeds .post → ¬ x.Succeeds .delete → w' = w → Effect x w w'

namespace Effect

variable {σ : Type} {x : Exchange σ} {w w' : Datasets}

lemma of_status (h : x.response.status ≠ 200) : Effect x w w := .keeps (fun hx => h hx.2) (fun hx => h hx.2) rfl

lemma key_eq {key : String} {records : Dataset} (h : Effect x w w') (hs : x.Stored key records) :
    key = x.chance.key := by
  cases h with
  | stores hs' _ => exact (hs.unique hs').1
  | removes hr _ => exact absurd hs hr.not_stored
  | keeps hpost _ _ => exact absurd hs.succeeds hpost

end Effect

structure Kept {σ : Type} (history : List (Exchange σ)) (w : Datasets) : Prop where
  keyed : ∀ x ∈ history, ∀ key records, x.Stored key records → key = x.chance.key
  held : ∀ key records, w.find? key = some records ↔ Held history key records

namespace Kept

variable {σ : Type} {history : List (Exchange σ)} {x : Exchange σ} {w w' : Datasets}

lemma not_held (h : Kept history w) (hx : x.Succeeds .post) (hfresh : ∀ y ∈ history, y.KeysDiffer x)
    (records : Dataset) :
    ¬ Held history x.chance.key records := by
  intro hl
  obtain ⟨y, hy, hys⟩ := hl.exists_stored
  exact hfresh y hy hys.succeeds hx (h.keyed y hy _ _ hys).symm

lemma concat (h : Kept history w) (hx : Effect x w w') (hfresh : ∀ y ∈ history, y.KeysDiffer x) :
    Kept (history ++ [x]) w' := by
  refine ⟨fun y hy key records hs => ?_, fun key records => ?_⟩
  · rcases List.mem_append.1 hy with hy | hy
    · exact h.keyed y hy key records hs
    · cases List.mem_singleton.1 hy
      exact hx.key_eq hs
  · rw [held_concat_iff]
    cases hx with
    | stores hs hw =>
      have hlive : ¬ x.Removed key := fun hr => hr.not_stored hs
      rw [hw, SortedMap.find?_insert]
      split
      · rename_i hk
        subst hk
        -- nothing was held under the key before, as no dataset had been stored under it
        have hnew : ¬ Held history x.chance.key records := h.not_held hs.succeeds hfresh records
        constructor
        · intro he
          cases he
          exact .inl hs
        · rintro (hs' | ⟨hl, -⟩)
          · rw [(hs.unique hs').2]
          · exact absurd hl hnew
      · rename_i hk
        have hother : ¬ x.Stored key records := fun hs' => hk (hs'.unique hs).1
        simp [hother, hlive, h.held]
    | removes hr hw =>
      have hnone : ¬ x.Stored key records := hr.not_stored
      rw [hw, SortedMap.find?_erase]
      split
      · rename_i hk
        subst hk
        simp [hr, hnone]
      · rename_i hk
        have hlive : ¬ x.Removed key := fun hr' => hk (hr'.unique hr)
        simp [hnone, hlive, h.held]
    | keeps hpost hdelete hw =>
      have hnone : ¬ x.Stored key records := fun hs => hpost hs.succeeds
      have hlive : ¬ x.Removed key := fun hr => hdelete hr.succeeds
      simp [hw, hnone, hlive, h.held]

end Kept

namespace Service

variable {σ : Type} [WordSource σ]

def overMemory (engine : Engine σ) (config : Config) : Service σ (StateM Datasets) := ⟨engine, memory, config⟩

def history {τ : Type} (s : Service σ (StateM τ)) (w : τ) (l : List (Chance σ × Request)) : List (Exchange σ) :=
  List.zipWith (fun e response => ⟨e.1, e.2, response⟩) l ((s.respond l).run w).1

def after {τ : Type} (s : Service σ (StateM τ)) (w : τ) (l : List (Chance σ × Request)) : τ :=
  ((s.respond l).run w).2

lemma history_cons {τ : Type} (s : Service σ (StateM τ)) (w : τ) (chance : Chance σ) (r : Request)
    (rest : List (Chance σ × Request)) :
    s.history w ((chance, r) :: rest) =
      ⟨chance, r, ((s.handle chance r).run w).1⟩ :: s.history ((s.handle chance r).run w).2 rest := rfl

section

variable {engine : Engine σ} {config : Config} {chance : Chance σ} {r : Request} {response : Response}
    {w w' : Datasets} {key : String}

lemma effect_of_generate (hm : r.method = .post) (hp : Resource.ofPath? r.path = some .generateData)
    (h : ((overMemory engine config).handle chance r).run w = (response, w')) :
    Effect ⟨chance, r, response⟩ w w' := by
  rw [run_handle_generate hm hp, generateData] at h
  split at h
  · rename_i e _
    cases h
    exact .of_status e.status_ne_ok
  · rename_i records hg
    cases h
    exact .stores ⟨hm, rfl, fun v hv => (plain_of_generate hg v hv).1⟩ rfl

lemma run_handle_delete_of_find? (hr : r.Deletes key) {records : Dataset} (hf : w.find? key = some records) :
    ((overMemory engine config).handle chance r).run w =
      (.json 200 (Message.format.toJson ⟨"File deleted successfully"⟩), w.erase key) := by
  have hdelete : ((overMemory engine config).deleteData key).run w =
      (.ok ⟨"File deleted successfully"⟩, w.erase key) :=
    run_bind_eq_ok_iff.2 ⟨(), w.erase key, run_adapt_eq_ok_iff.2 (run_delete_of_find? hf), rfl⟩
  rw [run_handle_delete hr, hdelete]
  rfl

lemma run_handle_delete_of_find?_eq_none (hr : r.Deletes key) (hf : w.find? key = none) :
    ((overMemory engine config).handle chance r).run w = (.ofError .notFound, w) := by
  have hstore : ((memory.delete key).adapt ApiError.ofStore).run w = (.error .notFound, w) := by
    rw [run_adapt, run_delete_of_find?_eq_none hf]
    rfl
  have hdelete : ((overMemory engine config).deleteData key).run w = (.error .notFound, w) :=
    run_bind_of_error hstore
  rw [run_handle_delete hr, hdelete]
  rfl

lemma effect_of_delete (hr : r.Deletes key)
    (h : ((overMemory engine config).handle chance r).run w = (response, w')) :
    Effect ⟨chance, r, response⟩ w w' := by
  cases hf : w.find? key with
  | some records =>
    rw [run_handle_delete_of_find? hr hf] at h
    cases h
    exact .removes ⟨hr, rfl⟩ rfl
  | none =>
    rw [run_handle_delete_of_find?_eq_none hr hf] at h
    cases h
    exact .of_status (show 404 ≠ 200 by decide)

lemma readOnly_get_memory (key : String) : ReadOnly (memory.get key) := by
  intro w
  cases hf : w.find? key with
  | some records => rw [run_get_of_find? hf]
  | none => rw [run_get_of_find?_eq_none hf]

lemma run_answer_snd {resource : Resource} (ha : resource.allows r.method) (hpost : r.method ≠ .post)
    (hdelete : r.method ≠ .delete) :
    (((overMemory engine config).answer chance r resource).run w).2 = w := by
  cases resource with
  | generateData => cases hm : r.method <;> simp [Resource.allows, hm] at ha hpost
  | deleteData segment => cases hm : r.method <;> simp [Resource.allows, hm] at ha hdelete
  | getData segment =>
    simp only [answer, withKey]
    cases Percent.decode? segment with
    | none => rfl
    | some key => exact (readOnly_get_memory key).run_snd w
  | listFiles | apiDocs | health => rfl

lemma effect_of_handle (h : ((overMemory engine config).handle chance r).run w = (response, w')) :
    Effect ⟨chance, r, response⟩ w w' := by
  by_cases ho : r.method = .options
  · rw [handle, if_pos ho] at h
    cases h
    exact .keeps (by simp [Exchange.Succeeds, ho]) (by simp [Exchange.Succeeds, ho]) rfl
  · cases hp : Resource.ofPath? r.path with
    | none =>
      simp only [handle, if_neg ho, hp] at h
      cases h
      exact .of_status (show 404 ≠ 200 by decide)
    | some resource =>
      by_cases ha : resource.allows r.method
      · by_cases hpost : r.method = .post
        · rw [hpost] at ha
          obtain rfl : resource = .generateData := by
            cases resource <;> first | rfl | cases ha
          exact effect_of_generate hpost hp h
        by_cases hdelete : r.method = .delete
        · rw [hdelete] at ha
          obtain ⟨segment, rfl⟩ : ∃ segment, resource = .deleteData segment := by
            cases resource <;> first | exact ⟨_, rfl⟩ | cases ha
          cases hk : Percent.decode? segment with
          | some key => exact effect_of_delete ⟨hdelete, segment, hp, hk⟩ h
          | none =>
            rw [run_handle_of_allows ho hp (by rw [hdelete]; exact ha)] at h
            simp only [answer, withKey, hk, hdelete, reduceCtorEq, if_false] at h
            cases h
            exact .of_status (show 400 ≠ 200 by decide)
        · rw [run_handle_of_allows ho hp ha, run_answer_snd ha hpost hdelete] at h
          cases h
          exact .keeps (fun hx => hpost hx.1) (fun hx => hdelete hx.1) rfl
      · simp only [handle, if_neg ho, hp, ha] at h
        cases h
        exact .of_status (show 405 ≠ 200 by decide)

lemma run_handle_get_of_find?_eq_none (hr : r.Asks key) (hf : w.find? key = none) :
    ((overMemory engine config).handle chance r).run w = (.ofError .notFound, w) := by
  have hget : ((overMemory engine config).getData key).run w = (.error .notFound, w) := by
    change ((memory.get key).adapt ApiError.ofStore).run w = _
    rw [run_adapt, run_get_of_find?_eq_none hf]
    rfl
  rw [run_handle_get hr, hget]
  rfl

variable {history : List (Exchange σ)}

lemma mayFollow_of_kept (hkept : Kept history w)
    (h : ((overMemory engine config).handle chance r).run w = (response, w')) :
    MayFollow history ⟨chance, r, response⟩ w w' := by
  have heffect := effect_of_handle h
  have hnone (key : String) : w.find? key = none ↔ ∀ records, ¬ Held history key records := by
    simp only [← hkept.held]
    cases w.find? key <;> simp
  refine ⟨fun key records hr hl => ?_, fun key hr hl => ?_, fun hm hp => ?_, fun key hr => ?_, fun hx => ?_,
    fun hpost hdelete => ?_⟩
  · rw [run_handle_of_asks hr (run_get_of_find? ((hkept.held key records).2 hl))] at h
    cases h
    rfl
  · rw [run_handle_get_of_find?_eq_none hr ((hnone key).2 hl)] at h
    cases h
    rfl
  · rw [run_handle_list hm hp] at h
    cases h
    refine ⟨w.keys, rfl, w.keys_sorted, fun key => ?_⟩
    rw [SortedMap.mem_keys_iff, Ne, hnone]
    simp
  · cases hf : w.find? key with
    | some records =>
      rw [run_handle_delete_of_find? hr hf] at h
      cases h
      exact ⟨fun _ => ⟨records, (hkept.held key records).1 hf⟩, fun _ => rfl⟩
    | none =>
      rw [run_handle_delete_of_find?_eq_none hr hf] at h
      cases h
      refine ⟨fun hstatus => absurd hstatus (show 404 ≠ 200 by decide), ?_⟩
      rintro ⟨records, hl⟩
      exact absurd hl ((hnone key).1 hf records)
  · cases heffect with
    | stores hs _ => exact ⟨_, hs⟩
    | removes hr _ => exact absurd (hx.1.symm.trans hr.succeeds.1) (by decide)
    | keeps hpost _ _ => exact absurd hx hpost
  · cases heffect with
    | stores hs _ => exact absurd hs.succeeds hpost
    | removes hr _ => exact absurd hr.succeeds hdelete
    | keeps _ _ hw => exact hw

lemma kept_after {l : List (Chance σ × Request)} (hkept : Kept history w)
    (hkeys : (history ++ (overMemory engine config).history w l).Pairwise Exchange.KeysDiffer) :
    Kept (history ++ (overMemory engine config).history w l) ((overMemory engine config).after w l) := by
  -- the history grows at its end while the requests are taken from the front
  induction l generalizing history w with
  | nil =>
    change Kept (history ++ []) w
    rwa [List.append_nil]
  | cons e rest ih =>
    obtain ⟨chance, r⟩ := e
    rw [history_cons, List.append_cons] at hkeys ⊢
    have hfresh := (List.pairwise_append.1 (List.pairwise_append.1 hkeys).1).2.2
    refine ih (hkept.concat (effect_of_handle rfl) fun y hy => ?_) hkeys
    exact hfresh y hy _ (List.mem_singleton_self _)

/-- After any requests the store holds the datasets that were stored and have not been removed since, and the
next response is the one that these call for. -/
theorem recalls_history (engine : Engine σ) (config : Config) (l : List (Chance σ × Request))
    (hkeys : ((overMemory engine config).history .empty l).Pairwise Exchange.KeysDiffer) :
    (∀ key records, ((overMemory engine config).after .empty l).find? key = some records ↔
      Held ((overMemory engine config).history .empty l) key records) ∧
    ∀ chance r response w',
      ((overMemory engine config).handle chance r).run ((overMemory engine config).after .empty l) = (response, w') →
      MayFollow ((overMemory engine config).history .empty l) ⟨chance, r, response⟩
        ((overMemory engine config).after .empty l) w' := by
  have hempty : Kept ([] : List (Exchange σ)) SortedMap.empty :=
    ⟨by simp, fun key records => by simp [not_held_nil]⟩
  have hkept := kept_after hempty hkeys
  exact ⟨hkept.held, fun chance r response w' h => mayFollow_of_kept hkept h⟩

section

def sampleOther : Chance WordCycle := { sampleChance with key := "l" }

def sampleDelete : Request := { samplePost with method := .delete, target := "/delete-data/%6b" }

def samplePast : List (Chance WordCycle × Request) :=
  [(sampleChance, samplePost), (sampleOther, samplePost), (sampleChance, sampleDelete)]

def sampleMemory : Service WordCycle (StateM Datasets) := overMemory Engine.plainEngine {}

theorem recalls_history_sample :
    (sampleMemory.history .empty samplePast).Pairwise Exchange.KeysDiffer ∧
      (sampleMemory.after .empty samplePast).keys = ["l"] ∧
      (∀ key records, (sampleMemory.after .empty samplePast).find? key = some records ↔
        Held (sampleMemory.history .empty samplePast) key records) ∧
      ∀ chance r response w',
        (sampleMemory.handle chance r).run (sampleMemory.after .empty samplePast) = (response, w') →
        MayFollow (sampleMemory.history .empty samplePast) ⟨chance, r, response⟩
          (sampleMemory.after .empty samplePast) w' := by
  have hkeys : (sampleMemory.history .empty samplePast).Pairwise Exchange.KeysDiffer := by decide +kernel
  have hleft : (sampleMemory.after .empty samplePast).keys = ["l"] := by decide +kernel
  exact ⟨hkeys, hleft, recalls_history Engine.plainEngine {} samplePast hkeys⟩

end

end

end Service

end Http

end Specimen
