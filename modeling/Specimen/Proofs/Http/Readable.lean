import Specimen.Http.Server
import Specimen.Proofs.Engine.Nesting
import Specimen.Proofs.Store.Directory

namespace Specimen

namespace Http

open Store Files

lemma ApiError.status_ne_ok (e : ApiError) : e.status ≠ 200 := by
  unfold status
  split <;> decide

namespace Request

def Asks (r : Request) (key : String) : Prop :=
  r.method = .get ∧ ∃ segment, Resource.ofPath? r.path = some (.getData segment) ∧
    Percent.decode? segment = some key

def Deletes (r : Request) (key : String) : Prop :=
  r.method = .delete ∧
    ∃ segment, Resource.ofPath? r.path = some (.deleteData segment) ∧ Percent.decode? segment = some key

end Request

namespace Service

section

variable {σ τ : Type} [WordSource σ] {s : Service σ (StateM τ)} {chance : Chance σ} {r : Request} {w w' : τ}

lemma run_handle_of_allows {resource : Resource} (ho : r.method ≠ .options)
    (hp : Resource.ofPath? r.path = some resource) (ha : resource.allows r.method) :
    (s.handle chance r).run w =
      (if r.method = .head then { ((s.answer chance r resource).run w).1 with body := "" }
        else ((s.answer chance r resource).run w).1, ((s.answer chance r resource).run w).2) := by
  simp only [handle, if_neg ho, hp, ha, if_true]
  rfl

lemma state_of_handle (P : τ → Prop) (hw : P w)
    (hput : ∀ records, P ((s.store.put chance.key records).run w).2)
    (hget : ∀ key, P ((s.store.get key).run w).2) (hlist : P (s.store.list.run w).2)
    (hdelete : ∀ key, r.Deletes key → P ((s.store.delete key).run w).2) :
    P ((s.handle chance r).run w).2 := by
  by_cases ho : r.method = .options
  · rw [handle, if_pos ho]
    exact hw
  · cases hp : Resource.ofPath? r.path with
    | none =>
      simp only [handle, if_neg ho, hp]
      exact hw
    | some resource =>
      by_cases ha : resource.allows r.method
      · rw [run_handle_of_allows ho hp ha]
        cases resource with
        | generateData =>
          change P ((s.generateData chance r).run w).2
          rw [generateData]
          cases s.generate chance r with
          | error e => exact hw
          | ok records =>
            rw [ReadOnly.run_bind_snd fun _ => .pure _]
            exact hput records
        | getData segment =>
          simp only [answer, withKey]
          cases Percent.decode? segment with
          | none => exact hw
          | some key => exact hget key
        | listFiles =>
          change P (s.listFiles.run w).2
          rw [listFiles, ReadOnly.run_bind_snd fun _ => .pure _]
          exact hlist
        | deleteData segment =>
          have hm : r.method = .delete := by
            cases hm : r.method <;> simp [Resource.allows, hm] at ha ⊢
          simp only [answer, withKey]
          cases hk : Percent.decode? segment with
          | none => exact hw
          | some key =>
            change P ((s.deleteData key).run w).2
            rw [deleteData, ReadOnly.run_bind_snd fun _ => .pure _]
            exact hdelete key ⟨hm, segment, hp, hk⟩
        | apiDocs | health => exact hw
      · simp only [handle, if_neg ho, hp, ha]
        exact hw

lemma run_handle_generate (hm : r.method = .post) (hp : Resource.ofPath? r.path = some .generateData) :
    (s.handle chance r).run w =
      (.ofResult StoredDataset.format.toJson ((s.generateData chance r).run w).1,
        ((s.generateData chance r).run w).2) := by
  rw [run_handle_of_allows (by simp [hm]) hp (by simp [hm, Resource.allows])]
  simp only [hm, reduceCtorEq, if_false]
  rfl

lemma run_handle_get {key : String} (hr : r.Asks key) :
    (s.handle chance r).run w =
      (.ofResult Dataset.toJson ((s.getData key).run w).1, ((s.getData key).run w).2) := by
  obtain ⟨hm, segment, hp, hk⟩ := hr
  rw [run_handle_of_allows (by simp [hm]) hp (by simp [hm, Resource.allows])]
  simp only [hm, reduceCtorEq, if_false, answer, withKey, hk]
  rfl

lemma run_handle_list (hm : r.method = .get) (hp : Resource.ofPath? r.path = some .listFiles) :
    (s.handle chance r).run w =
      (.ofResult KeyList.format.toJson (s.listFiles.run w).1, (s.listFiles.run w).2) := by
  rw [run_handle_of_allows (by simp [hm]) hp (by simp [hm, Resource.allows])]
  simp only [hm, reduceCtorEq, if_false]
  rfl

lemma run_handle_delete {key : String} (hr : r.Deletes key) :
    (s.handle chance r).run w =
      (.ofResult Message.format.toJson ((s.deleteData key).run w).1, ((s.deleteData key).run w).2) := by
  obtain ⟨hm, segment, hp, hk⟩ := hr
  rw [run_handle_of_allows (by simp [hm]) hp (by simp [hm, Resource.allows])]
  simp only [hm, reduceCtorEq, if_false, answer, withKey, hk]
  rfl

lemma stored_of_handle {response : Response} (hm : r.method = .post)
    (hp : Resource.ofPath? r.path = some .generateData)
    (h : (s.handle chance r).run w = (response, w')) (hok : response.status = 200) :
    ∃ records key, s.generate chance r = .ok records ∧
      (s.store.put chance.key records).run w = (.ok key, w') ∧
      response = .json 200 (StoredDataset.format.toJson ⟨key, records⟩) := by
  cases hg : (s.generateData chance r).run w with
  | mk result u =>
    rw [run_handle_generate hm hp, hg] at h
    cases h
    cases result with
    | error e => exact absurd hok e.status_ne_ok
    | ok stored =>
      rw [generateData] at hg
      split at hg
      · cases hg
      · rename_i records hr
        obtain ⟨key, t, hput, hk⟩ := run_bind_eq_ok_iff.1 hg
        obtain ⟨rfl, rfl⟩ := run_pure_eq_ok_iff.1 hk
        exact ⟨records, key, hr, run_adapt_eq_ok_iff.1 hput, rfl⟩

lemma run_handle_of_asks {key : String} (hr : r.Asks key) {records : Dataset}
    (h : (s.store.get key).run w = (.ok records, w')) :
    (s.handle chance r).run w = (.json 200 records.toJson, w') := by
  have hget : (s.getData key).run w = (.ok records, w') := run_adapt_eq_ok_iff.2 h
  rw [run_handle_get hr, hget]
  rfl

end

section

variable {σ : Type} {m : Type → Type} [WordSource σ]

lemma exists_text_of_readBody {r : Request} {request : Specimen.Request} (h : readBody r = .ok request) :
    ∃ text, Specimen.Request.format.read text = .ok request := by
  rw [readBody] at h
  split at h
  · cases h
  · split at h
    · cases h
    · split at h
      · cases h
      · split at h
        · cases h
        · rename_i text _
          split at h
          · rename_i hr
            cases h
            exact ⟨text, hr⟩
          · cases h
          · cases h

lemma plain_of_generate {s : Service σ m} {chance : Chance σ} {r : Request} {records : Dataset}
    (h : s.generate chance r = .ok records) : ∀ v ∈ records, v.Plain ∧ v.nesting ≤ 126 := by
  rw [generate] at h
  split at h
  · cases h
  · rename_i request hbody
    split at h
    · cases h
    · rename_i valid hvalid
      split at h
      · cases h
      · obtain ⟨text, htext⟩ := exists_text_of_readBody hbody
        obtain ⟨json, hj, hwire⟩ := Specimen.Request.nesting_of_validate hvalid
        intro v hv
        cases ho : (s.engine.run valid.schema valid.count (some false) "" chance.source).outcome with
        | error e =>
          rw [ho] at h
          cases h
        | ok l =>
          rw [ho] at h
          cases h
          obtain ⟨hplain, hdeep, -⟩ := s.engine.plain_of_run _ _ _ _ _ ho v hv
          have hread : json.nesting ≤ 126 := Specimen.Request.nesting_of_read htext json hj
          exact ⟨hplain, Nat.le_trans hdeep (Nat.le_trans hwire hread)⟩

end

section

variable {σ : Type} {m : Type → Type} [WordSource σ] [Monad m]

def respond (s : Service σ m) : List (Chance σ × Request) → m (List Response)
  | [] => pure []
  | (chance, r) :: rest => do
    let a ← s.handle chance r
    let l ← respond s rest
    return a :: l

def overDirectory (engine : Engine σ) (config : Config) (dir : Path) : Service σ (StateM Disk) :=
  ⟨engine, directory dir, config⟩

end

section

variable {σ : Type}

/-- A dataset can be read from the disk, and it is answered with whatever other datasets are made and deleted. -/
structure Serves [WordSource σ] (s : Service σ (StateM Disk)) (dir : Path) (key : String)
    (records : Dataset) (d : Disk) : Prop where
  document : ∃ content, (Call.read (dir ++ [documentName key])).run d = (.ok content, d) ∧
    readDocument content = .ok records
  answer : ∀ later : List (Chance σ × Request), (∀ e ∈ later, e.1.key ≠ key ∧ ¬ e.2.Deletes key) →
    ∀ get : Request, get.Asks key → ∀ chance,
      (s.handle chance get).run ((s.respond later).run d).2 =
        (.json 200 records.toJson, ((s.respond later).run d).2)

variable [WordSource σ] {engine : Engine σ} {config : Config} {dir : Path} {d : Disk} {key : String}
    {records : Dataset}

lemma holds_of_handle (h : Holds d dir key records) {chance : Chance σ} {r : Request} (hne : chance.key ≠ key)
    (hd : ¬ r.Deletes key) :
    Holds (((overDirectory engine config dir).handle chance r).run d).2 dir key records := by
  -- the document could be lost only to a dataset with its key or to its own deletion
  refine state_of_handle (Holds · dir key records) h (fun l => h.put hne l)
    (fun other => ?_) ?_ fun other hother => ?_
  · change Holds (((directory dir : Store (StateM Disk)).get other).run d).2 dir key records
    rwa [(readOnly_get dir other).run_snd]
  · change Holds ((directory dir : Store (StateM Disk)).list.run d).2 dir key records
    rwa [(readOnly_list dir).run_snd]
  · refine h.delete fun he => hd ?_
    rwa [← he]

lemma holds_of_respond (h : Holds d dir key records) {l : List (Chance σ × Request)}
    (hl : ∀ e ∈ l, e.1.key ≠ key ∧ ¬ e.2.Deletes key) :
    Holds (((overDirectory engine config dir).respond l).run d).2 dir key records := by
  induction l generalizing d with
  | nil => exact h
  | cons e rest ih =>
    obtain ⟨hne, hd⟩ := hl e List.mem_cons_self
    exact ih (holds_of_handle h hne hd) fun e he => hl e (List.mem_cons_of_mem _ he)

/-- What has been answered to a request for records can be read until it is deleted. -/
theorem serves_of_generateData {chance : Chance σ} {r : Request} {d' : Disk} {response : Response}
    (hkey : Key.isValid chance.key) (hm : r.method = .post)
    (hp : Resource.ofPath? r.path = some .generateData)
    (h : ((overDirectory engine config dir).handle chance r).run d = (response, d'))
    (hok : response.status = 200) :
    ∃ records : Dataset, response = .json 200 (StoredDataset.format.toJson ⟨chance.key, records⟩) ∧
      (∀ v ∈ records, v.nesting ≤ 126) ∧
        Serves (overDirectory engine config dir) dir chance.key records d' := by
  obtain ⟨records, key, hg, hput, rfl⟩ := stored_of_handle hm hp h hok
  obtain ⟨rfl, hholds⟩ := holds_of_run_put hput
  have hplain := plain_of_generate hg
  refine ⟨records, rfl, fun v hv => (hplain v hv).2, ⟨_, hholds.run_read, readDocument_pretty hplain⟩, ?_⟩
  · intro later hlater get hget other
    have hstill : Holds (((overDirectory engine config dir).respond later).run d').2 dir chance.key records :=
      holds_of_respond hholds hlater
    exact run_handle_of_asks hget (hstill.run_get_of_plain hkey hplain)

section

def sampleService : Service WordCycle (StateM Disk) := overDirectory Engine.plainEngine {} ["d"]

def sampleChance : Chance WordCycle := ⟨⟨#[0], 0⟩, "k", false⟩

def samplePost : Request where
  method := .post
  target := "/generate-data"
  headers := [("content-type", "application/json")]
  body := "\x7b\"schema\":\x7b\"a\":\"x\"\x7d,\"count\":1\x7d".toUTF8

def sampleGet (key : String) : Request := { samplePost with method := .get, target := "/get-data/" ++ key }

def sampleAnswer : Response × Disk := (sampleService.handle sampleChance samplePost).run .empty

theorem serves_of_generateData_sample :
    sampleAnswer.1.status = 200 ∧ ∃ records : Dataset,
      sampleAnswer.1 = .json 200 (StoredDataset.format.toJson ⟨sampleChance.key, records⟩) ∧
        (∀ v ∈ records, v.nesting ≤ 126) ∧
          Serves sampleService ["d"] sampleChance.key records sampleAnswer.2 := by
  have hok : sampleAnswer.1.status = 200 := by decide +kernel
  have hkey : Key.isValid sampleChance.key := by decide
  have hpath : Resource.ofPath? samplePost.path = some .generateData := by decide
  have hrun : (sampleService.handle sampleChance samplePost).run .empty = (sampleAnswer.1, sampleAnswer.2) :=
    (Prod.eta sampleAnswer).symm
  have hserves := serves_of_generateData hkey rfl hpath hrun hok
  exact ⟨hok, hserves⟩

end

end

end Service

end Http

end Specimen
