import Specimen.Proofs.Http.Readable
import Specimen.Proofs.Store.Atomicity

namespace Specimen.Http.Service

open Store Files

variable {σ : Type} [WordSource σ] {s : Service σ (StateM FailingDisk)} {chance : Chance σ} {r : Request}
    {w : FailingDisk} {dir place : Path}

lemma leads_generateData_showsSame (hw : w.disk.Walk [] dir place)
    (hsync : ReachesRename w dir → ∀ fault, ¬ SyncFails w dir fault) (hs : s.store = directory dir) :
    Leads (· = w) (s.generateData chance r) (fun _ _ => True) (fun _ w' => ShowsSame dir w.disk w'.disk) := by
  rw [generateData, hs]
  cases s.generate chance r with
  | error e =>
    refine .throw ?_
    rintro w' rfl
    exact ⟨rfl, fun _ => rfl⟩
  | ok records => exact ((leads_put_showsSame hw hsync).adapt fun _ _ h => h).bind fun _ => .pure fun _ _ => trivial

/-- Storing a dataset that fails has stored nothing, and neither has a request that is answered with 500, unless what
fails is to make the directory durable in the end. -/
theorem failed_put_shows_same (hdir : w.disk.locate dir = .ok (place, .directory))
    (hsync : ReachesRename w dir → ∀ fault, ¬ SyncFails w dir fault) :
    (∀ key records e w', ((directory dir : Store (StateM FailingDisk)).put key records).run w = (.error e, w') →
      ShowsSame dir w.disk w'.disk) ∧
    ∀ {σ : Type} [WordSource σ] (s : Service σ (StateM FailingDisk)) (chance : Chance σ) (r : Request)
      (response : Response) (w' : FailingDisk), s.store = directory dir → r.method = .post →
      Resource.ofPath? r.path = some .generateData → (s.handle chance r).run w = (response, w') →
      response.status = 500 → ShowsSame dir w.disk w'.disk := by
  have hw : w.disk.Walk [] dir place := Disk.walk_iff_locate.2 hdir
  refine ⟨fun key records e w' hput => (leads_put_showsSame hw hsync).error w e w' rfl hput, ?_⟩
  intro σ _ s chance r response w' hs hm hp h hfailed
  rw [run_handle_generate hm hp] at h
  cases hg : (s.generateData chance r).run w with
  | mk result u =>
    rw [hg] at h
    cases h
    cases result with
    | ok stored => cases hfailed
    | error e => exact (leads_generateData_showsSame hw hsync hs).error w e u rfl hg

section samples

/-- The file is not renamed, and then its temporary file is not removed. -/
def renameFailure : FailingDisk := .stopping sampleDisk 4 ⟨.other, 0⟩

theorem failed_put_shows_same_rename :
    sampleDisk.locate ["d"] = .ok (["d"], .directory) ∧ ¬ ReachesRename renameFailure ["d"] ∧
      (samplePut renameFailure).1 = .error (.ofFault .other) ∧
      ShowsSame ["d"] sampleDisk (samplePut renameFailure).2.disk := by
  have hdir : sampleDisk.locate ["d"] = .ok (["d"], .directory) := by rfl
  have hrename : ¬ ReachesRename renameFailure ["d"] := by
    intro h
    cases (h 4 (by decide) : renameFailure.failure? 4 = none)
  have hfailed : (samplePut renameFailure).1 = .error (.ofFault .other) := by rfl
  exact ⟨hdir, hrename, hfailed,
    (failed_put_shows_same (w := renameFailure) hdir fun h => absurd h hrename).1 _ _ _ _ (Prod.ext hfailed rfl)⟩

def syncFailure : FailingDisk := .failingOnce sampleDisk 5 ⟨.other, 0⟩

theorem failed_put_shows_new :
    (samplePut syncFailure).1 = .error (.ofFault .other) ∧
      ShowsNew ["d"] (Key.ofWords 1 2) sampleRecords sampleDisk (samplePut syncFailure).2.disk ∧
      ¬ ShowsSame ["d"] sampleDisk (samplePut syncFailure).2.disk := by
  have hw : syncFailure.disk.Walk [] ["d"] ["d"] := Disk.walk_iff_locate.2 rfl
  have hfailed : (samplePut syncFailure).1 = .error (.ofFault .other) := by rfl
  have hput : ((directory ["d"] : Store (StateM FailingDisk)).put (Key.ofWords 1 2) sampleRecords).run syncFailure =
      (.error (.ofFault .other), (samplePut syncFailure).2) := Prod.ext hfailed rfl
  have hstored : ((samplePut syncFailure).2.disk.find? (["d"] ++ [documentName (Key.ofWords 1 2)])).isSome := by
    decide +kernel
  have hnone := sampleDisk_document (Key.ofWords 1 2)
  have hnew : ShowsNew ["d"] (Key.ofWords 1 2) sampleRecords sampleDisk (samplePut syncFailure).2.disk := by
    rcases (leads_put _ _ hw).error _ _ _ rfl hput with h | ⟨-, -, -, h⟩
    · have hsame : (samplePut syncFailure).2.disk.find? (["d"] ++ [documentName (Key.ofWords 1 2)]) = none :=
        (h.same _ (by simpa using (temporary_ne_documentName _ _).symm)).trans hnone
      rw [hsame] at hstored
      cases hstored
    · have hfresh (content : ByteArray) :
          syncFailure.disk.find? (["d"] ++ [documentName (Key.ofWords 1 2)]) ≠ some (.file content) := by
        rw [show syncFailure.disk.find? _ = none from hnone]
        simp
      exact showsNew_of_replaced hw (Key.isValid_ofWords 1 2) hfresh sampleRecords_plain h
  refine ⟨hfailed, hnew, fun hsame => ?_⟩
  obtain ⟨old, new, hold, hnew', hkey, -, hmem⟩ := hnew.keys
  cases hold.symm.trans (hsame.keys.symm.trans hnew')
  exact hkey ((hmem _).2 (.inl rfl))

end samples

end Specimen.Http.Service
