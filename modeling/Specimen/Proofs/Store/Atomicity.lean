import Specimen.Proofs.Files.Interruption
import Specimen.Proofs.Store.Equivalence

namespace Specimen.Store

open Files

section shown

def shownKeys (dir : Path) (d : Disk) : Except StoreError (List String) :=
  ((directory dir : Store (StateM Disk)).list.run d).1

def shownDataset (dir : Path) (d : Disk) (key : String) : Except StoreError Dataset :=
  (((directory dir : Store (StateM Disk)).get key).run d).1

structure ShowsSame (dir : Path) (d d' : Disk) : Prop where
  keys : shownKeys dir d' = shownKeys dir d
  datasets : ∀ key, shownDataset dir d' key = shownDataset dir d key

structure ShowsNew (dir : Path) (key : String) (records : Dataset) (d d' : Disk) : Prop where
  keys : ∃ old new, shownKeys dir d = .ok old ∧ shownKeys dir d' = .ok new ∧ key ∉ old ∧ new.Pairwise (· < ·) ∧
    ∀ k, k ∈ new ↔ k = key ∨ k ∈ old
  dataset : shownDataset dir d' key = .ok records
  others : ∀ k, k ≠ key → shownDataset dir d' k = shownDataset dir d k

variable {d d' : Disk} {dir place : Path} {key : String} {records : Dataset}

lemma shownDataset_congr (hw : d.Walk [] dir place) (hw' : d'.Walk [] dir place)
    (h : d'.find? (place ++ [documentName key]) = d.find? (place ++ [documentName key])) :
    shownDataset dir d' key = shownDataset dir d key := by
  rw [shownDataset, shownDataset]
  by_cases hv : Key.isValid key
  · by_cases hn : IsName (documentName key)
    · rw [run_get hw hv hn, run_get hw' hv hn, h]
    · rw [run_get_of_long hw hv hn, run_get_of_long hw' hv hn]
  · rw [run_get_of_not_isValid hv, run_get_of_not_isValid hv]

lemma exists_shownKeys (hw : d.Walk [] dir place) : ∃ keys, shownKeys dir d = .ok keys ∧ keys.Pairwise (· < ·) ∧
    ∀ key, key ∈ keys ↔
      Key.isValid key ∧ ∃ content, d.find? (place ++ [documentName key]) = some (.file content) := by
  obtain ⟨keys, hrun, hkeys⟩ := run_list hw
  exact ⟨keys, congrArg Prod.fst hrun, hkeys⟩

lemma showsSame_of_documents (hw : d.Walk [] dir place) (hw' : d'.Walk [] dir place)
    (h : ∀ key, d'.find? (place ++ [documentName key]) = d.find? (place ++ [documentName key])) :
    ShowsSame dir d d' where
  keys := by
    obtain ⟨old, hold, hsorted, hmem⟩ := exists_shownKeys hw
    obtain ⟨new, hnew, hsorted', hmem'⟩ := exists_shownKeys hw'
    have heq : new = old := Contents.keys_unique hsorted' hsorted fun key => by rw [hmem, hmem', h]
    rw [hold, hnew, heq]
  datasets key := shownDataset_congr hw hw' (h key)

lemma showsNew_of_documents (hw : d.Walk [] dir place) (hw' : d'.Walk [] dir place) (hv : Key.isValid key)
    (hn : IsName (documentName key)) (hrecords : ∀ v ∈ records, v.Plain ∧ v.nesting ≤ 126)
    (hfresh : ∀ content, d.find? (place ++ [documentName key]) ≠ some (.file content))
    (hfound : d'.find? (place ++ [documentName key]) = some (.file records.toJson.pretty.toUTF8))
    (h : ∀ k, k ≠ key → d'.find? (place ++ [documentName k]) = d.find? (place ++ [documentName k])) :
    ShowsNew dir key records d d' where
  keys := by
    obtain ⟨old, hold, -, hmem⟩ := exists_shownKeys hw
    obtain ⟨new, hnew, hsorted, hmem'⟩ := exists_shownKeys hw'
    refine ⟨old, new, hold, hnew, fun hkey => ?_, hsorted, fun k => ?_⟩
    · obtain ⟨-, content, hc⟩ := (hmem key).1 hkey
      exact hfresh content hc
    · rw [hmem, hmem']
      by_cases hk : k = key
      · subst hk
        exact iff_of_true ⟨hv, _, hfound⟩ (.inl rfl)
      · rw [h k hk, or_iff_right hk]
  dataset := congrArg Prod.fst (Holds.run_get_of_plain ⟨place, hw', hn, hfound⟩ hv hrecords)
  others k hk := shownDataset_congr hw hw' (h k hk)

end shown

section put

variable {w w' : FailingDisk} {dir place : Path} {key : String} {records : Dataset} {r : Except StoreError String}

lemma showsSame_of_spared {d d' : Disk} (hw : d.Walk [] dir place)
    (h : d.Spared (place ++ [documentName key ++ temporarySuffix]) d') : ShowsSame dir d d' :=
  showsSame_of_documents hw (hw.mono h.keeps) fun k =>
    h.same _ (by simpa using (temporary_ne_documentName (documentName key) k).symm)

lemma showsNew_of_replaced (hw : w.disk.Walk [] dir place) (hkey : Key.isValid key)
    (hfresh : ∀ content, w.disk.find? (place ++ [documentName key]) ≠ some (.file content))
    (hrecords : ∀ v ∈ records, v.Plain ∧ v.nesting ≤ 126)
    (h : Replaced w dir place (documentName key) records.toJson.pretty.toUTF8 w'.disk) :
    ShowsNew dir key records w.disk w'.disk :=
  showsNew_of_documents hw (hw.mono h.keeps) hkey h.isName hrecords hfresh h.found fun k hk =>
    h.same _ (by simpa using hk) (by simpa using (temporary_ne_documentName (documentName key) k).symm)

variable (key records) in
lemma leads_put (hw : w.disk.Walk [] dir place) :
    Leads (· = w) ((directory dir : Store (StateM FailingDisk)).put key records)
      (fun k w' => k = key ∧ Replaced w dir place (documentName key) records.toJson.pretty.toUTF8 w'.disk)
      (fun e w' => w.disk.Spared (place ++ [documentName key ++ temporarySuffix]) w'.disk ∨
        ∃ fault, e = .ofFault fault ∧ SyncFails w dir fault ∧
          Replaced w dir place (documentName key) records.toJson.pretty.toUTF8 w'.disk) := by
  have hreplace := leads_replace hw records.toJson.pretty.toUTF8
    (documentName_ne_of_short (by decide) key) (documentName_ne_of_short (by decide) key)
  refine (hreplace.adapt ?_).bind fun _ => .pure fun _ h => ⟨rfl, h⟩
  rintro fault w' (h | ⟨hf, h⟩)
  · exact .inl h
  · exact .inr ⟨fault, rfl, hf, h⟩

/-- Wherever storing a dataset stops, readers are shown what they were shown before, or that and the whole dataset
under its key; and nothing on the disk is touched but the document and its temporary file, which no reader takes for
a document. -/
theorem put_interrupted (hdir : w.disk.locate dir = .ok (place, .directory)) (hkey : Key.isValid key)
    (hfresh : ∀ content, w.disk.find? (place ++ [documentName key]) ≠ some (.file content))
    (hrecords : ∀ v ∈ records, v.Plain ∧ v.nesting ≤ 126)
    (hput : ((directory dir : Store (StateM FailingDisk)).put key records).run w = (r, w')) :
    (ShowsSame dir w.disk w'.disk ∧ (∀ k, r ≠ .ok k) ∨
      ShowsNew dir key records w.disk w'.disk ∧ ReachesRename w dir ∧
        (r = .ok key ∨ ∃ fault, r = .error (.ofFault fault) ∧ SyncFails w dir fault)) ∧
    (∀ q, q ≠ place ++ [documentName key] → q ≠ place ++ [documentName key ++ temporarySuffix] →
      w'.disk.find? q = w.disk.find? q) ∧
    keyOf? (documentName key ++ temporarySuffix) = none := by
  have hw : w.disk.Walk [] dir place := Disk.walk_iff_locate.2 hdir
  have htemporary : keyOf? (documentName key ++ temporarySuffix) = none := by
    cases hk : keyOf? (documentName key ++ temporarySuffix) with
    | none => rfl
    | some k => exact absurd (keyOf?_eq_some_iff.1 hk).1 (temporary_ne_documentName _ _)
  have hlead := leads_put key records hw
  cases r with
  | ok k =>
    obtain ⟨rfl, h⟩ := hlead.ok w k w' rfl hput
    exact ⟨.inr ⟨showsNew_of_replaced hw hkey hfresh hrecords h, h.reaches, .inl rfl⟩, h.same, htemporary⟩
  | error e =>
    rcases hlead.error w e w' rfl hput with h | ⟨fault, rfl, hf, h⟩
    · exact ⟨.inl ⟨showsSame_of_spared hw h, by simp⟩, fun q _ hq => h.same q hq, htemporary⟩
    · exact ⟨.inr ⟨showsNew_of_replaced hw hkey hfresh hrecords h, h.reaches, .inr ⟨fault, rfl, hf⟩⟩, h.same,
        htemporary⟩

lemma leads_put_showsSame (hw : w.disk.Walk [] dir place)
    (hsync : ReachesRename w dir → ∀ fault, ¬ SyncFails w dir fault) :
    Leads (· = w) ((directory dir : Store (StateM FailingDisk)).put key records) (fun _ _ => True)
      (fun _ w' => ShowsSame dir w.disk w'.disk) := by
  refine (leads_put key records hw).imp (fun _ h => h) (fun _ _ _ => trivial) ?_
  rintro e w' (h | ⟨fault, -, hf, hreplaced⟩)
  · exact showsSame_of_spared hw h
  · exact absurd hf (hsync hreplaced.reaches fault)

section samples

def sampleRecords : Dataset := [.obj [("a", .str "b")]]

lemma sampleRecords_plain : ∀ v ∈ sampleRecords, v.Plain ∧ v.nesting ≤ 126 := by
  intro v hv
  cases List.mem_singleton.1 hv
  exact ⟨.obj (by decide) (by simpa using Json.Plain.str "b"), by decide⟩

lemma sampleDisk_document (key : String) : sampleDisk.find? (["d"] ++ [documentName key]) = none := by
  rw [sampleDisk, Disk.find?_put (by simp), if_neg (by simp)]
  rfl

def samplePut (w : FailingDisk) : Except StoreError String × FailingDisk :=
  ((directory ["d"] : Store (StateM FailingDisk)).put (Key.ofWords 1 2) sampleRecords).run w

def sampleStop : FailingDisk := .stopping sampleDisk 2 ⟨.other, 5⟩

theorem put_interrupted_sample :
    sampleDisk.locate ["d"] = .ok (["d"], .directory) ∧ Key.isValid (Key.ofWords 1 2) ∧
      (∀ content, sampleDisk.find? (["d"] ++ [documentName (Key.ofWords 1 2)]) ≠ some (.file content)) ∧
      (∀ v ∈ sampleRecords, v.Plain ∧ v.nesting ≤ 126) ∧
      ShowsSame ["d"] sampleDisk (samplePut sampleStop).2.disk := by
  have hdir : sampleDisk.locate ["d"] = .ok (["d"], .directory) := by rfl
  have hkey := Key.isValid_ofWords 1 2
  have hfresh (content : ByteArray) :
      sampleDisk.find? (["d"] ++ [documentName (Key.ofWords 1 2)]) ≠ some (.file content) := by
    rw [sampleDisk_document]
    simp
  have hput : ((directory ["d"] : Store (StateM FailingDisk)).put (Key.ofWords 1 2) sampleRecords).run sampleStop =
      ((samplePut sampleStop).1, (samplePut sampleStop).2) := rfl
  refine ⟨hdir, hkey, hfresh, sampleRecords_plain, ?_⟩
  obtain ⟨⟨h, -⟩ | ⟨-, hrename, -⟩, -⟩ := put_interrupted hdir hkey hfresh sampleRecords_plain hput
  · exact h
  · have hnone : sampleStop.failure? 2 = none := hrename 2 (by decide)
    cases hnone

end samples

end put

end Specimen.Store
