import Specimen.Proofs.Files.Replace
import Specimen.Proofs.Json.Records
import Specimen.Store.Directory

namespace Specimen.Store

open Files

lemma documentName_injective {key key' : String} (h : documentName key = documentName key') : key = key' := by
  have hl := congrArg String.toList h
  rw [documentName, documentName, String.toList_append, String.toList_append] at hl
  exact String.toList_inj.1 (List.append_cancel_right hl)

@[simp] lemma documentName_inj {key key' : String} : documentName key = documentName key' ↔ key = key' :=
  ⟨documentName_injective, congrArg documentName⟩

lemma temporary_ne_documentName (name key : String) : name ++ temporarySuffix ≠ documentName key := by
  intro h
  have hl := congrArg (fun s => s.toList.getLast?) h
  simp [documentName, documentSuffix, temporarySuffix] at hl

lemma documentName_ne_of_short {name : String} (h : name.length < documentSuffix.length) (key : String) :
    documentName key ≠ name :=
  append_ne_of_short h key

lemma isName_documentName_iff {key : String} :
    IsName (documentName key) ↔ (documentName key).utf8ByteSize ≤ Disk.maxName :=
  ⟨fun h => h.2.2,
    fun h => ⟨documentName_ne_of_short (by decide) key, documentName_ne_of_short (by decide) key, h⟩⟩

lemma readDocument_toUTF8 (text : String) : readDocument text.toUTF8 = Dataset.read text := by
  rw [readDocument, fromUTF8?_toUTF8]

lemma readDocument_pretty {records : Dataset} (h : ∀ v ∈ records, v.Plain ∧ v.nesting ≤ 126) :
    readDocument records.toJson.pretty.toUTF8 = .ok records := by
  rw [readDocument_toUTF8]
  exact (Dataset.read_pretty_eq_ok_iff fun v hv => (h v hv).1).2 ⟨rfl, fun v hv => (h v hv).2⟩

section

variable {d d' : Disk} {dir place : Path} {key : String} {records : Dataset}

lemma run_get_of_not_isValid (h : ¬ Key.isValid key) (d : Disk) :
    ((directory dir : Store (StateM Disk)).get key).run d = (.error (.notFound key), d) := by
  simp only [directory, h]
  rfl

lemma run_delete_of_not_isValid (h : ¬ Key.isValid key) (d : Disk) :
    ((directory dir : Store (StateM Disk)).delete key).run d = (.error (.notFound key), d) := by
  simp only [directory, h]
  rfl

lemma run_askDocument_read (hw : d.Walk [] dir place) (hn : IsName (documentName key)) :
    (askDocument key (ask (.read (dir ++ [documentName key]))) :
        ExceptT StoreError (StateM Disk) ByteArray).run d =
      (match d.find? (place ++ [documentName key]) with
        | none => .error (.notFound key)
        | some .directory => .error (.ofFault .isADirectory)
        | some (.file content) => .ok content, d) := by
  rw [askDocument, run_adapt, run_ask, Call.run, hw.locate_concat hn]
  rcases d.find? (place ++ [documentName key]) with _ | (content | _) <;> rfl

lemma get_eq (hv : Key.isValid key) :
    (directory dir : Store (StateM Disk)).get key = (do
      let content ← askDocument key (ask (.read (dir ++ [documentName key])))
      match readDocument content with
      | .ok records => return records
      | .error fault => throw (.ofJson fault)) := by
  simp only [directory, hv]
  rfl

lemma run_get (hw : d.Walk [] dir place) (hv : Key.isValid key) (hn : IsName (documentName key)) :
    ((directory dir : Store (StateM Disk)).get key).run d =
      (match d.find? (place ++ [documentName key]) with
        | none => .error (.notFound key)
        | some .directory => .error (.ofFault .isADirectory)
        | some (.file content) => (readDocument content).mapError .ofJson, d) := by
  have hread := run_askDocument_read hw hn
  rw [get_eq hv]
  rcases hf : d.find? (place ++ [documentName key]) with _ | (content | _) <;> rw [hf] at hread
  · rw [run_bind_of_error hread]
  · rw [run_bind_of_ok hread]
    dsimp only
    cases readDocument content <;> rfl
  · rw [run_bind_of_error hread]

lemma locate_documentName_of_long (hw : d.Walk [] dir place) (hn : ¬ IsName (documentName key)) :
    d.locate (dir ++ [documentName key]) = .error .invalidFilename := by
  have hlong : Disk.maxName < (documentName key).utf8ByteSize :=
    Nat.not_le.1 (mt isName_documentName_iff.2 hn)
  rw [Disk.locate, hw.resolve_concat_of_long hlong]

lemma run_get_of_long (hw : d.Walk [] dir place) (hv : Key.isValid key) (hn : ¬ IsName (documentName key)) :
    ((directory dir : Store (StateM Disk)).get key).run d = (.error (.ofFault .invalidFilename), d) := by
  have hread : (askDocument key (ask (.read (dir ++ [documentName key]))) :
      ExceptT StoreError (StateM Disk) ByteArray).run d = (.error (.ofFault .invalidFilename), d) := by
    rw [askDocument, run_adapt, run_ask, Call.run, locate_documentName_of_long hw hn]
    rfl
  rw [get_eq hv, run_bind_of_error hread]

lemma delete_eq (hv : Key.isValid key) (dir : Path) : (directory dir : Store (StateM Disk)).delete key =
    askDocument key (ask (.remove (dir ++ [documentName key]))) := by
  simp only [directory, hv]
  rfl

lemma run_delete_of_long (hw : d.Walk [] dir place) (hv : Key.isValid key)
    (hn : ¬ IsName (documentName key)) :
    ((directory dir : Store (StateM Disk)).delete key).run d = (.error (.ofFault .invalidFilename), d) := by
  rw [delete_eq hv, askDocument, run_adapt, run_ask, Call.run, locate_documentName_of_long hw hn]
  rfl

lemma run_delete (hw : d.Walk [] dir place) (hv : Key.isValid key) (hn : IsName (documentName key)) :
    ((directory dir : Store (StateM Disk)).delete key).run d =
      match d.find? (place ++ [documentName key]) with
      | none => (.error (.notFound key), d)
      | some .directory => (.error (.ofFault .isADirectory), d)
      | some (.file _) => (.ok (), d.remove (place ++ [documentName key])) := by
  rw [delete_eq hv, askDocument, run_adapt, run_ask, Call.run, hw.locate_concat hn]
  rcases d.find? (place ++ [documentName key]) with _ | (content | _) <;> rfl

lemma run_list (hw : d.Walk [] dir place) :
    ∃ keys, (directory dir : Store (StateM Disk)).list.run d = (.ok keys, d) ∧ keys.Pairwise (· < ·) ∧
      ∀ key, key ∈ keys ↔
        Key.isValid key ∧ ∃ content, d.find? (place ++ [documentName key]) = some (.file content) := by
  let found := (d.children place).filterMap fun e => if e.2 = .file then keyOf? e.1 else none
  have hfound (e : String × Kind) (key : String) : (if e.2 = .file then keyOf? e.1 else none) = some key ↔
      e.2 = .file ∧ e.1 = documentName key ∧ Key.isValid key := by
    split <;> simp [keyOf?_eq_some_iff, *]
  have hrun : (askFiles (ask (.list dir)) : ExceptT StoreError (StateM Disk) (List (String × Kind))).run d =
      (.ok (d.children place), d) := by
    rw [askFiles, run_adapt, run_ask, Call.run, hw.locate]
    rfl
  have hdistinct : found.Pairwise (· ≠ ·) := by
    refine List.pairwise_filterMap.2 ((d.children_pairwise place).imp fun {a b} hab x hx y hy hxy => hab ?_)
    rw [((hfound a x).1 hx).2.1, ((hfound b y).1 hy).2.1, hxy]
  refine ⟨found.mergeSort fun a b => a ≤ b, ?_, ?_, fun key => ?_⟩
  · simp only [directory]
    rw [run_bind_of_ok hrun]
    rfl
  · have hle : (found.mergeSort fun a b => a ≤ b).Pairwise fun a b => decide (a ≤ b) = true :=
      List.pairwise_mergeSort (by simpa using fun a b c => String.le_trans)
        (by simpa using String.le_total) found
    have hne : (found.mergeSort fun a b => a ≤ b).Pairwise (· ≠ ·) :=
      (List.mergeSort_perm found _).symm.pairwise hdistinct Ne.symm
    refine (hle.and hne).imp fun {a b} h => ?_
    exact Decidable.byContradiction fun hn => h.2 (String.le_antisymm (of_decide_eq_true h.1) hn)
  · rw [List.mem_mergeSort, List.mem_filterMap]
    simp only [hfound]
    constructor
    · rintro ⟨⟨_, _⟩, hm, rfl, rfl, hv⟩
      obtain ⟨e, he, hk⟩ := (d.mem_children_iff place).1 hm
      cases e with
      | file content => exact ⟨hv, content, he⟩
      | directory => cases hk
    · rintro ⟨hv, content, hf⟩
      exact ⟨(documentName key, .file), (d.mem_children_iff place).2 ⟨_, hf, rfl⟩, rfl, rfl, hv⟩

lemma run_put (hw : d.Walk [] dir place)
    (hsize : (documentName key).utf8ByteSize + temporarySuffix.utf8ByteSize ≤ Disk.maxName)
    (hdoc : d.find? (place ++ [documentName key]) ≠ some .directory)
    (htmp : d.find? (place ++ [documentName key ++ temporarySuffix]) ≠ some .directory) :
    ((directory dir : Store (StateM Disk)).put key records).run d =
      (.ok key, d.replaced place (documentName key) records.toJson.pretty.toUTF8) := by
  have hn : IsName (documentName key) := isName_documentName_iff.2 (Nat.le_trans (Nat.le_add_right _ _) hsize)
  have hreplace : (askFiles (replace (dir ++ [documentName key]) records.toJson.pretty.toUTF8) :
      ExceptT StoreError (StateM Disk) Unit).run d =
        (.ok (), d.replaced place (documentName key) records.toJson.pretty.toUTF8) := by
    apply run_adapt_eq_ok_iff.2
    rw [run_replace hw, run_install hw hn (isName_temporary hsize) htmp hdoc]
  simp only [directory]
  rw [run_bind_of_ok hreplace]
  rfl

def Holds (d : Disk) (dir : Path) (key : String) (records : Dataset) : Prop :=
  ∃ place, d.Walk [] dir place ∧ IsName (documentName key) ∧
    d.find? (place ++ [documentName key]) = some (.file records.toJson.pretty.toUTF8)

lemma holds_of_run_put {key' : String}
    (h : ((directory dir : Store (StateM Disk)).put key records).run d = (.ok key', d')) :
    key' = key ∧ Holds d' dir key records := by
  simp only [directory] at h
  obtain ⟨_, _, hr, hk⟩ := run_bind_eq_ok_iff.1 h
  obtain ⟨rfl, rfl⟩ := run_pure_eq_ok_iff.1 hk
  obtain ⟨d₀, place, -, hw, hn, hdoc, htmp, rfl⟩ :=
    replaced_of_run_replace (documentName_ne_of_short (by decide) key)
    (documentName_ne_of_short (by decide) key) (run_adapt_eq_ok_iff.1 hr)
  refine ⟨rfl, place, hw.mono (Disk.keepsDirectories_replaced hdoc htmp), hn, ?_⟩
  rw [Disk.find?_replaced, if_pos rfl]

lemma Holds.run_get (h : Holds d dir key records) (hv : Key.isValid key) :
    ((directory dir : Store (StateM Disk)).get key).run d =
      ((readDocument records.toJson.pretty.toUTF8).mapError .ofJson, d) := by
  obtain ⟨place, hw, hn, hf⟩ := h
  rw [Store.run_get hw hv hn, hf]

lemma Holds.run_get_of_plain (h : Holds d dir key records) (hv : Key.isValid key)
    (hp : ∀ v ∈ records, v.Plain ∧ v.nesting ≤ 126) :
    ((directory dir : Store (StateM Disk)).get key).run d = (.ok records, d) := by
  rw [h.run_get hv, readDocument_pretty hp]
  rfl

lemma Holds.get_eq_ok_iff (h : Holds d dir key records) (hv : Key.isValid key)
    (hp : ∀ v ∈ records, v.Plain) {l : Dataset} :
    (((directory dir : Store (StateM Disk)).get key).run d).1 = .ok l ↔
      l = records ∧ ∀ v ∈ records, v.nesting ≤ 126 := by
  rw [h.run_get hv, readDocument_toUTF8, ← Dataset.read_pretty_eq_ok_iff hp]
  cases Dataset.read records.toJson.pretty with
  | error e => constructor <;> intro he <;> cases he
  | ok r => constructor <;> intro he <;> cases he <;> rfl

lemma Holds.run_read (h : Holds d dir key records) :
    (Call.read (dir ++ [documentName key])).run d = (.ok records.toJson.pretty.toUTF8, d) := by
  obtain ⟨place, hw, hn, hf⟩ := h
  simp only [Call.run, hw.locate_concat hn, hf]

lemma readOnly_get (dir : Path) (key : String) :
    ReadOnly ((directory dir : Store (StateM Disk)).get key) := by
  have hread : ReadOnly (askDocument key (ask (.read (dir ++ [documentName key]))) :
      ExceptT StoreError (StateM Disk) ByteArray) :=
    .adapt (readOnly_ask_read _) _
  intro d
  by_cases hv : Key.isValid key
  · simp only [directory, hv]
    refine hread.bind (fun content => ?_) d
    cases readDocument content with
    | ok records => exact .pure records
    | error fault => exact .throw _
  · rw [run_get_of_not_isValid hv]

lemma readOnly_list (dir : Path) : ReadOnly (directory dir : Store (StateM Disk)).list := by
  have hlist :
      ReadOnly (askFiles (ask (.list dir)) : ExceptT StoreError (StateM Disk) (List (String × Kind))) :=
    .adapt (readOnly_ask_list dir) _
  exact hlist.bind fun entries => .pure _

namespace Holds

variable (h : Holds d dir key records) {other : String}

include h

lemma put (hne : other ≠ key) (l : Dataset) :
    Holds ((directory dir : Store (StateM Disk)).put other l |>.run d).2 dir key records := by
  obtain ⟨place, hw, hn, hf⟩ := h
  have hput : ((directory dir : Store (StateM Disk)).put other l |>.run d).2 =
      ((replace (dir ++ [documentName other]) l.toJson.pretty.toUTF8 :
        ExceptT Fault (StateM Disk) Unit).run d).2 :=
    ReadOnly.run_bind_snd fun _ => .pure other
  obtain ⟨hk, hframe⟩ := frame_of_replace hw (documentName_ne_of_short (by decide) other)
    (documentName_ne_of_short (by decide) other) l.toJson.pretty.toUTF8
  rw [hput]
  refine ⟨place, hw.mono hk, hn, ?_⟩
  rw [hframe _ (by simpa using Ne.symm hne) (by simpa using (temporary_ne_documentName _ _).symm), hf]

lemma delete (hne : other ≠ key) :
    Holds ((directory dir : Store (StateM Disk)).delete other |>.run d).2 dir key records := by
  by_cases hv : Key.isValid other
  · obtain ⟨place, hw, hn, hf⟩ := h
    by_cases hname : IsName (documentName other)
    · rw [run_delete hw hv hname]
      rcases hother : d.find? (place ++ [documentName other]) with _ | (content | _)
      · exact ⟨place, hw, hn, hf⟩
      · have hfree : d.find? (place ++ [documentName other]) ≠ some .directory := by simp [hother]
        refine ⟨place, hw.mono (Disk.keepsDirectories_remove hfree), hn, ?_⟩
        rw [Disk.find?_remove (by simp), if_neg (by simpa using Ne.symm hne), hf]
      · exact ⟨place, hw, hn, hf⟩
    · rw [run_delete_of_long hw hv hname]
      exact ⟨place, hw, hn, hf⟩
  · rw [run_delete_of_not_isValid hv]
    exact h

end Holds

end

end Specimen.Store
