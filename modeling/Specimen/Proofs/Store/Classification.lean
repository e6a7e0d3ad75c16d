import Specimen.Proofs.Store.Equivalence
import Specimen.Proofs.Text.ByteOrder

namespace Specimen

namespace Dataset

lemma read_eq_ok_iff {text : String} {records : Dataset} :
    read text = .ok records ↔ Json.parse text = .ok (.arr records) := by
  rw [read, Json.parse, Json.document_eq_ok_iff, Json.document_eq_ok_iff]
  refine exists_congr fun rest => and_congr_left' ?_
  refine Json.Shape.gives_read_list_iff.trans (Iff.trans ?_ Json.gives_value_succ_iff.symm)
  constructor
  · rintro ⟨r, hr, hl⟩
    exact ⟨'[', r, hr, records, hl, rfl⟩
  · rintro ⟨c, r, hr, hv⟩
    split at hv
    · rename_i hc
      obtain ⟨l, hl, he⟩ := hv
      cases he
      exact ⟨r, hc ▸ hr, hl⟩
    · split at hv
      · obtain ⟨_, -, he⟩ := hv
        cases he
      · obtain ⟨_, _, -, hleaf⟩ := Json.gives_leaf_iff.1 hv
        split at hleaf
        · obtain ⟨_, -, he⟩ := hleaf
          cases he
        · split at hleaf
          · obtain ⟨_, -, he⟩ := hleaf
            cases he
          · rcases hleaf with ⟨-, -, he⟩ | ⟨-, -, he⟩ | ⟨-, -, he⟩ <;> cases he

end Dataset

def Key.Proper (key : String) : Prop :=
  key ≠ "" ∧ ∀ c ∈ key.toList,
    'a' ≤ c ∧ c ≤ 'z' ∨ 'A' ≤ c ∧ c ≤ 'Z' ∨ '0' ≤ c ∧ c ≤ '9' ∨ c = '-' ∨ c = '_'

lemma Key.isValid_iff {key : String} : Key.isValid key ↔ Key.Proper key := by
  have hchar (c : Char) : Key.isKeyChar c ↔
      'a' ≤ c ∧ c ≤ 'z' ∨ 'A' ≤ c ∧ c ≤ 'Z' ∨ '0' ≤ c ∧ c ≤ '9' ∨ c = '-' ∨ c = '_' := by
    have hupper : c.isUpper = decide ('A' ≤ c ∧ c ≤ 'Z') := rfl
    have hlower : c.isLower = (decide ('a' ≤ c) && decide (c ≤ 'z')) := rfl
    have hdigit : c.isDigit = (decide ('0' ≤ c) && decide (c ≤ '9')) := rfl
    have hkeyChar : Key.isKeyChar c = (c.isUpper || c.isLower || c.isDigit || c == '-' || c == '_') := rfl
    simp only [hkeyChar, hupper, hlower, hdigit, Bool.or_eq_true, Bool.and_eq_true, decide_eq_true_eq, beq_iff_eq]
    tauto
  rw [Key.isValid, Key.Proper, Bool.and_eq_true, bne_iff_ne, List.all_eq_true]
  simp only [hchar]

namespace Store

open Files

section definitions

def Listed (d : Disk) (place : Path) (key : String) : Prop :=
  Key.Proper key ∧ ∃ content, d.find? (place ++ [documentName key]) = some (.file content)

def Unused (d : Disk) (place : Path) (key : String) : Prop :=
  d.find? (place ++ [documentName key]) = none ∧ d.find? (place ++ [documentName key ++ temporarySuffix]) = none

def Shows (dir : Path) (d : Disk) (P : String → Prop) : Prop :=
  ∃ keys, (directory dir : Store (StateM Disk)).list.run d = (.ok keys, d) ∧
    keys.Pairwise (fun key key' => Text.bytes key < Text.bytes key') ∧ ∀ key, key ∈ keys ↔ P key

inductive Finds (key : String) : Option Entry → Except StoreError Dataset → Prop
  | improper {entry} : ¬ Key.Proper key → Finds key entry (.error (.notFound key))
  | absent : Finds key none (.error (.notFound key))
  | directory : Key.Proper key → Finds key (some .directory) (.error (.ofFault .isADirectory))
  | unreadable {content fault} : Key.Proper key → readDocument content = .error fault →
      Finds key (some (.file content)) (.error (.ofJson fault))
  | dataset {content text records} : Key.Proper key → String.fromUTF8? content = some text →
      Json.parse text = .ok (.arr records) → Finds key (some (.file content)) (.ok records)

def Op.Concerns (place : Path) : Op → Path → Prop
  | .put high low _, q => q = place ++ [documentName (Key.ofWords high low)] ∨
      q = place ++ [documentName (Key.ofWords high low) ++ temporarySuffix]
  | .get key, q | .delete key, q => Key.Proper key ∧ q = place ++ [documentName key]
  | .list, q => ∃ name, q = place ++ [name]
  | .reopen, _ => False

def Op.runOn (dir : Path) (op : Op) (d : Disk) : Answer × Disk :=
  (op.run (directory dir : Store (StateM Disk)) (openDirectory dir)).run d

/-- Nothing is changed but entries that the operation has to do with, and how these come out does not depend on any
others, nor does the answer. -/
structure Op.Local (dir place : Path) (op : Op) (d : Disk) : Prop where
  frame : ∀ q, ¬ op.Concerns place q → (op.runOn dir d).2.find? q = d.find? q
  same : ∀ d', d'.locate dir = .ok (place, .directory) → (∀ q, op.Concerns place q → d'.find? q = d.find? q) →
    (op.runOn dir d').1 = (op.runOn dir d).1 ∧
      ∀ q, op.Concerns place q → (op.runOn dir d').2.find? q = (op.runOn dir d).2.find? q

end definitions

section

variable {d d' : Disk} {dir place : Path} {key : String}

lemma shows_listed (hw : d.Walk [] dir place) : Shows dir d (Listed d place) := by
  obtain ⟨keys, hrun, hsorted, hmem⟩ := run_list hw
  refine ⟨keys, hrun, hsorted.imp Text.bytes_lt_iff.2, fun key => ?_⟩
  rw [hmem, Listed, Key.isValid_iff]

lemma finds_run_get (hw : d.Walk [] dir place) (hn : IsName (documentName key)) :
    ∃ r, ((directory dir : Store (StateM Disk)).get key).run d = (r, d) ∧
      Finds key (d.find? (place ++ [documentName key])) r := by
  by_cases hv : Key.isValid key
  · have hkey := Key.isValid_iff.1 hv
    refine ⟨_, run_get hw hv hn, ?_⟩
    rcases d.find? (place ++ [documentName key]) with _ | (content | _)
    · exact .absent
    · change Finds key _ ((readDocument content).mapError .ofJson)
      cases hr : readDocument content with
      | error fault => exact .unreadable hkey hr
      | ok records =>
        rw [readDocument] at hr
        split at hr
        · rename_i text htext
          exact .dataset hkey htext (Dataset.read_eq_ok_iff.1 hr)
        · cases hr
    · exact .directory hkey
  · exact ⟨_, run_get_of_not_isValid hv d, .improper (mt Key.isValid_iff.2 hv)⟩

variable {entry : Option Entry} {r : Except StoreError Dataset}

lemma Finds.eq_notFound_iff (h : Finds key entry r) :
    r = .error (.notFound key) ↔ ¬ Key.Proper key ∨ entry = none := by
  cases h with
  | improper hkey => exact iff_of_true rfl (.inl hkey)
  | absent => exact iff_of_true rfl (.inr rfl)
  | directory hkey | unreadable hkey _ | dataset hkey _ _ => exact iff_of_false (by simp) (by simp [hkey])

lemma Finds.eq_ok_iff (h : Finds key entry r) {records : Dataset} :
    r = .ok records ↔ Key.Proper key ∧ ∃ content text, entry = some (.file content) ∧
      String.fromUTF8? content = some text ∧ Json.parse text = .ok (.arr records) := by
  cases h with
  | improper hkey => exact iff_of_false (by simp) fun h => hkey h.1
  | absent | directory => exact iff_of_false (by simp) (by simp)
  | unreadable hkey hr =>
    refine iff_of_false (by simp) ?_
    rintro ⟨-, content, text, he, htext, hparse⟩
    cases he
    simp [readDocument, htext, Dataset.read_eq_ok_iff.2 hparse] at hr
  | @dataset content text records' hkey htext hparse =>
    constructor
    · rintro he
      cases he
      exact ⟨hkey, content, text, rfl, htext, hparse⟩
    · rintro ⟨-, content', text', he, htext', hparse'⟩
      cases he
      cases htext.symm.trans htext'
      cases hparse.symm.trans hparse'
      rfl

lemma Finds.error_cases (h : Finds key entry r) {e : StoreError} (he : r = .error e) :
    e = .notFound key ∨ e = .ofFault .isADirectory ∨ ∃ fault, e = .ofJson fault := by
  cases h with
  | improper | absent => cases he; exact .inl rfl
  | directory => cases he; exact .inr (.inl rfl)
  | unreadable => cases he; exact .inr (.inr ⟨_, rfl⟩)
  | dataset => cases he

lemma Finds.ne_notFound (h : Finds key entry r) (hkey : Key.Proper key) (hentry : entry ≠ none) (other : String) :
    r ≠ .error (.notFound other) := by
  cases h with
  | improper hn => exact absurd hkey hn
  | absent => exact absurd rfl hentry
  | directory | unreadable | dataset => simp

lemma run_delete_of_listed (hw : d.Walk [] dir place) (hn : IsName (documentName key)) (h : Listed d place key) :
    ((directory dir : Store (StateM Disk)).delete key).run d = (.ok (), d.remove (place ++ [documentName key])) := by
  obtain ⟨hkey, content, hf⟩ := h
  rw [run_delete hw (Key.isValid_iff.2 hkey) hn, hf]

lemma run_delete_of_not_listed (hw : d.Walk [] dir place) (hn : IsName (documentName key))
    (h : ¬ Listed d place key) : ∃ e, ((directory dir : Store (StateM Disk)).delete key).run d = (.error e, d) := by
  by_cases hv : Key.isValid key
  · rw [run_delete hw hv hn]
    rcases hf : d.find? (place ++ [documentName key]) with _ | (content | _)
    · exact ⟨_, rfl⟩
    · exact absurd ⟨Key.isValid_iff.1 hv, content, hf⟩ h
    · exact ⟨_, rfl⟩
  · exact ⟨_, run_delete_of_not_isValid hv d⟩

section put

variable {records : Dataset}

lemma run_put_of_install {r : Except Fault Unit} (hw : d.Walk [] dir place)
    (h : (install dir (documentName key) records.toJson.pretty.toUTF8 : ExceptT Fault (StateM Disk) Unit).run d =
      (r, d')) :
    ((directory dir : Store (StateM Disk)).put key records).run d = ((r.mapError .ofFault).map fun _ => key, d') := by
  have hrun : (askFiles (replace (dir ++ [documentName key]) records.toJson.pretty.toUTF8) :
      ExceptT StoreError (StateM Disk) Unit).run d = (r.mapError .ofFault, d') := by
    rw [askFiles, run_adapt, run_replace hw, h]
  simp only [directory]
  cases r with
  | error e => rw [run_bind_of_error hrun]; rfl
  | ok => rw [run_bind_of_ok hrun]; rfl

lemma install_same {name : String} (content : ByteArray) (hw : d.Walk [] dir place) (hw' : d'.Walk [] dir place)
    (hn : IsName name) (ht : IsName (name ++ temporarySuffix))
    (hdoc : d'.find? (place ++ [name]) = d.find? (place ++ [name]))
    (htmp : d'.find? (place ++ [name ++ temporarySuffix]) = d.find? (place ++ [name ++ temporarySuffix])) :
    ((install dir name content : ExceptT Fault (StateM Disk) Unit).run d').1 =
      ((install dir name content : ExceptT Fault (StateM Disk) Unit).run d).1 ∧
    ∀ q, q = place ++ [name] ∨ q = place ++ [name ++ temporarySuffix] →
      ((install dir name content : ExceptT Fault (StateM Disk) Unit).run d').2.find? q =
        ((install dir name content : ExceptT Fault (StateM Disk) Unit).run d).2.find? q := by
  have hsame : ∀ q, q = place ++ [name] ∨ q = place ++ [name ++ temporarySuffix] → d'.find? q = d.find? q := by
    rintro q (rfl | rfl)
    · exact hdoc
    · exact htmp
  by_cases hfree : d.find? (place ++ [name ++ temporarySuffix]) = some .directory
  · rw [run_install_of_directory hw ht hfree, run_install_of_directory hw' ht (htmp.trans hfree)]
    exact ⟨rfl, hsame⟩
  have hfree' : d'.find? (place ++ [name ++ temporarySuffix]) ≠ some .directory := htmp ▸ hfree
  by_cases hd : d.find? (place ++ [name]) = some .directory
  · rw [run_install_of_target_directory hw hn ht hfree hd,
      run_install_of_target_directory hw' hn ht hfree' (hdoc.trans hd)]
    refine ⟨rfl, fun q hq => ?_⟩
    have hne : place ++ [name ++ temporarySuffix] ≠ [] := Disk.ne_root_of_find? hfree
    simp only [Disk.find?_remove hne, Disk.find?_written hne, hsame q hq]
  · rw [run_install hw hn ht hfree hd, run_install hw' hn ht hfree' (hdoc ▸ hd)]
    exact ⟨rfl, fun q hq => by simp only [Disk.find?_replaced, hsame q hq]⟩

lemma replaced_of_run_put {key' : String} (hw : d.Walk [] dir place)
    (h : ((directory dir : Store (StateM Disk)).put key records).run d = (.ok key', d')) :
    key' = key ∧ d'.Walk [] dir place ∧ d' = d.replaced place (documentName key) records.toJson.pretty.toUTF8 := by
  obtain ⟨e, he⟩ | ⟨-, -, htmp, ⟨-, he⟩ | ⟨hdoc, hok⟩⟩ :=
    install_cases hw (documentName_ne_of_short (by decide) key) (documentName_ne_of_short (by decide) key)
      records.toJson.pretty.toUTF8
  · cases h.symm.trans (run_put_of_install hw he)
  · cases h.symm.trans (run_put_of_install hw he)
  · cases h.symm.trans (run_put_of_install hw hok)
    exact ⟨rfl, hw.mono (Disk.keepsDirectories_replaced hdoc htmp), rfl⟩

lemma run_put_of_unused (hw : d.Walk [] dir place) {high low : UInt64}
    (h : Unused d place (Key.ofWords high low)) (records : Dataset) :
    ∃ d', ((directory dir : Store (StateM Disk)).put (Key.ofWords high low) records).run d =
        (.ok (Key.ofWords high low), d') ∧
      ∀ q, d'.find? q = if q = place ++ [documentName (Key.ofWords high low)] then
        some (.file records.toJson.pretty.toUTF8) else d.find? q := by
  refine ⟨_, run_put hw (size_ofWords high low) (by simp [h.1]) (by simp [h.2]), fun q => ?_⟩
  rw [Disk.find?_replaced]
  split
  · rfl
  · split
    · rename_i hq
      rw [hq, h.2]
    · rfl

lemma listed_replaced_iff {content : ByteArray} (hkey : Key.Proper key) (other : String) :
    Listed (d.replaced place (documentName key) content) place other ↔ other = key ∨ Listed d place other := by
  rw [Listed, Listed, Disk.find?_replaced]
  by_cases hother : other = key
  · simp [hother, hkey]
  · have htmp : place ++ [documentName other] ≠ place ++ [documentName key ++ temporarySuffix] := by
      simpa using (temporary_ne_documentName (documentName key) other).symm
    rw [if_neg (by simpa [documentName_inj] using hother), if_neg htmp, or_iff_right hother]

end put

section locality

lemma local_put (hw : d.Walk [] dir place) (high low : UInt64) (records : Dataset) :
    Op.Local dir place (.put high low records) d := by
  have hn : IsName (documentName (Key.ofWords high low)) :=
    isName_documentName_iff.2 (Nat.le_trans (Nat.le_add_right _ _) (size_ofWords high low))
  have hrun {d₁ d₂ : Disk} {r : Except Fault Unit} (hw : d₁.Walk [] dir place)
      (h : (install dir (documentName (Key.ofWords high low)) records.toJson.pretty.toUTF8 :
        ExceptT Fault (StateM Disk) Unit).run d₁ = (r, d₂)) :
      Op.runOn dir (.put high low records) d₁ =
        (.stored ((r.mapError .ofFault).map fun _ => Key.ofWords high low), d₂) := by
    rw [Op.runOn, Op.run]
    exact congrArg (Prod.map Answer.stored id) (run_put_of_install hw h)
  rcases hi : (install dir (documentName (Key.ofWords high low)) records.toJson.pretty.toUTF8 :
    ExceptT Fault (StateM Disk) Unit).run d with ⟨r, after⟩
  constructor
  · intro q hq
    rw [Op.Concerns, not_or] at hq
    have hframe := (frame_of_replace hw hn.1 hn.2.1 records.toJson.pretty.toUTF8).2 q hq.1 hq.2
    rw [run_replace hw, hi] at hframe
    rw [hrun hw hi]
    exact hframe
  · intro d' hdir hsame
    have hw' := Disk.walk_iff_locate.2 hdir
    obtain ⟨hanswer, hentries⟩ := install_same records.toJson.pretty.toUTF8 hw hw' hn
      (isName_temporary (size_ofWords high low)) (hsame _ (.inl rfl)) (hsame _ (.inr rfl))
    rcases hi' : (install dir (documentName (Key.ofWords high low)) records.toJson.pretty.toUTF8 :
      ExceptT Fault (StateM Disk) Unit).run d' with ⟨r', after'⟩
    rw [hi, hi'] at hanswer hentries
    rw [hrun hw hi, hrun hw' hi']
    exact ⟨congrArg (fun r => Answer.stored ((r.mapError .ofFault).map fun _ => Key.ofWords high low)) hanswer,
      hentries⟩

lemma local_get (hw : d.Walk [] dir place) (key : String) : Op.Local dir place (.get key) d := by
  have hafter (d : Disk) : (Op.runOn dir (.get key) d).2 = d := (readOnly_get dir key).run_snd d
  have hanswer (d : Disk) : (Op.runOn dir (.get key) d).1 =
      .found (((directory dir : Store (StateM Disk)).get key).run d).1 := rfl
  refine ⟨fun q _ => by rw [hafter], fun d' hdir hsame => ⟨?_, fun q hq => by rw [hafter, hafter, hsame q hq]⟩⟩
  rw [hanswer, hanswer]
  by_cases hv : Key.isValid key
  · have hw' := Disk.walk_iff_locate.2 hdir
    by_cases hn : IsName (documentName key)
    · rw [run_get hw hv hn, run_get hw' hv hn, hsame _ ⟨Key.isValid_iff.1 hv, rfl⟩]
    · rw [run_get_of_long hw hv hn, run_get_of_long hw' hv hn]
  · rw [run_get_of_not_isValid hv, run_get_of_not_isValid hv]

lemma local_delete (hw : d.Walk [] dir place) (key : String) : Op.Local dir place (.delete key) d := by
  have hrun (d : Disk) : Op.runOn dir (.delete key) d =
      (.done (((directory dir : Store (StateM Disk)).delete key).run d).1,
        (((directory dir : Store (StateM Disk)).delete key).run d).2) := rfl
  by_cases hv : Key.isValid key
  · have hkey := Key.isValid_iff.1 hv
    by_cases hn : IsName (documentName key)
    · have hne : place ++ [documentName key] ≠ [] := by simp
      constructor
      · intro q hq
        have hother : q ≠ place ++ [documentName key] := fun he => hq ⟨hkey, he⟩
        rw [hrun, run_delete hw hv hn]
        rcases d.find? (place ++ [documentName key]) with _ | (content | _)
        · rfl
        · exact (Disk.find?_remove hne).trans (if_neg hother)
        · rfl
      · intro d' hdir hsame
        rw [hrun, hrun, run_delete hw hv hn, run_delete (Disk.walk_iff_locate.2 hdir) hv hn, hsame _ ⟨hkey, rfl⟩]
        rcases d.find? (place ++ [documentName key]) with _ | (content | _)
        · exact ⟨rfl, hsame⟩
        · refine ⟨rfl, fun q hq => ?_⟩
          simp only [Disk.find?_remove hne, hsame q hq]
        · exact ⟨rfl, hsame⟩
    · refine ⟨fun q _ => by rw [hrun, run_delete_of_long hw hv hn], fun d' hdir hsame => ?_⟩
      rw [hrun, hrun, run_delete_of_long hw hv hn, run_delete_of_long (Disk.walk_iff_locate.2 hdir) hv hn]
      exact ⟨rfl, hsame⟩
  · refine ⟨fun q _ => by rw [hrun, run_delete_of_not_isValid hv], fun d' _ hsame => ?_⟩
    rw [hrun, hrun, run_delete_of_not_isValid hv, run_delete_of_not_isValid hv]
    exact ⟨rfl, hsame⟩

lemma local_list (hw : d.Walk [] dir place) : Op.Local dir place .list d := by
  have hrun (d : Disk) : Op.runOn dir .list d =
      (.listed ((directory dir : Store (StateM Disk)).list.run d).1,
        ((directory dir : Store (StateM Disk)).list.run d).2) := rfl
  obtain ⟨keys, hkeys, hsorted, hmem⟩ := run_list hw
  refine ⟨fun q _ => by rw [hrun, hkeys], fun d' hdir hsame => ?_⟩
  obtain ⟨keys', hkeys', hsorted', hmem'⟩ := run_list (Disk.walk_iff_locate.2 hdir)
  have hlists : keys' = keys := Contents.keys_unique hsorted' hsorted fun key => by
    rw [hmem', hmem, hsame _ ⟨documentName key, rfl⟩]
  rw [hrun, hrun, hkeys, hkeys', hlists]
  exact ⟨rfl, hsame⟩

lemma local_reopen (hw : d.Walk [] dir place) : Op.Local dir place .reopen d := by
  have hrun {d : Disk} (hw : d.Walk [] dir place) : Op.runOn dir .reopen d = (.done (.ok ()), d) := by
    have hopen : (openDirectory dir : ExceptT StoreError (StateM Disk) Unit).run d = (.ok (), d) :=
      run_adapt_eq_ok_iff.2 hw.makeDirectories
    exact congrArg (Prod.map Answer.done id) hopen
  refine ⟨fun q _ => by rw [hrun hw], fun d' hdir hsame => ?_⟩
  rw [hrun hw, hrun (Disk.walk_iff_locate.2 hdir)]
  exact ⟨rfl, hsame⟩

lemma local_op (hw : d.Walk [] dir place) : (op : Op) → Op.Local dir place op d
  | .put high low records => local_put hw high low records
  | .get key => local_get hw key
  | .list => local_list hw
  | .delete key => local_delete hw key
  | .reopen => local_reopen hw

end locality

/-- The keys that are listed are those of the datasets that are found, as what cannot be read is not taken to be
absent, and only they are deleted. -/
theorem directory_classifies (hdir : d.locate dir = .ok (place, .directory)) :
    Shows dir d (Listed d place) ∧
    (∀ key, (documentName key).utf8ByteSize ≤ Disk.maxName →
      (∃ r, ((directory dir : Store (StateM Disk)).get key).run d = (r, d) ∧
        (r = .error (.notFound key) ↔ ¬ Key.Proper key ∨ d.find? (place ++ [documentName key]) = none) ∧
        (∀ records, r = .ok records ↔ Key.Proper key ∧ ∃ content text,
          d.find? (place ++ [documentName key]) = some (.file content) ∧
            String.fromUTF8? content = some text ∧ Json.parse text = .ok (.arr records)) ∧
        (∀ e, r = .error e → e = .notFound key ∨ (∃ fault, e = .ofFault fault) ∨ ∃ fault, e = .ofJson fault) ∧
        (Listed d place key → ∀ other, r ≠ .error (.notFound other))) ∧
      (Listed d place key → ∃ d', ((directory dir : Store (StateM Disk)).delete key).run d = (.ok (), d') ∧
        ∀ q, d'.find? q = if q = place ++ [documentName key] then none else d.find? q) ∧
      (¬ Listed d place key → ∃ e, ((directory dir : Store (StateM Disk)).delete key).run d = (.error e, d))) ∧
    (∀ high low records,
      (Unused d place (Key.ofWords high low) →
        ∃ d', ((directory dir : Store (StateM Disk)).put (Key.ofWords high low) records).run d =
            (.ok (Key.ofWords high low), d') ∧
          ∀ q, d'.find? q = if q = place ++ [documentName (Key.ofWords high low)] then
            some (.file records.toJson.pretty.toUTF8) else d.find? q) ∧
      ∀ key d', ((directory dir : Store (StateM Disk)).put (Key.ofWords high low) records).run d = (.ok key, d') →
        key = Key.ofWords high low ∧
        (∀ q, d'.find? q = if q = place ++ [documentName key] then some (.file records.toJson.pretty.toUTF8)
          else if q = place ++ [documentName key ++ temporarySuffix] then none else d.find? q) ∧
        Shows dir d' fun other => other = key ∨ Listed d place other) ∧
    ∀ op, Op.Local dir place op d := by
  have hw := Disk.walk_iff_locate.2 hdir
  refine ⟨shows_listed hw, fun key hsize => ⟨?_, fun h => ?_, fun h => ?_⟩, fun high low records =>
    ⟨fun h => run_put_of_unused hw h records, fun key d' h => ?_⟩, local_op hw⟩
  · obtain ⟨r, hrun, h⟩ := finds_run_get hw (isName_documentName_iff.2 hsize)
    refine ⟨r, hrun, h.eq_notFound_iff, fun _ => h.eq_ok_iff, fun e he => ?_, fun hlisted => ?_⟩
    · exact (h.error_cases he).imp_right (Or.imp_left fun hfiles => ⟨_, hfiles⟩)
    · obtain ⟨hkey, content, hf⟩ := hlisted
      exact h.ne_notFound hkey (by simp [hf])
  · exact ⟨_, run_delete_of_listed hw (isName_documentName_iff.2 hsize) h, fun q => Disk.find?_remove (by simp)⟩
  · exact run_delete_of_not_listed hw (isName_documentName_iff.2 hsize) h
  · obtain ⟨rfl, hw', rfl⟩ := replaced_of_run_put hw h
    refine ⟨rfl, fun q => Disk.find?_replaced, ?_⟩
    obtain ⟨keys, hrun, hsorted, hmem⟩ := shows_listed hw'
    have hkey := Key.isValid_iff.1 (Key.isValid_ofWords high low)
    exact ⟨keys, hrun, hsorted, fun other => (hmem other).trans (listed_replaced_iff hkey other)⟩

section

def mixedDisk : Disk :=
  ((((sampleDisk.put ["d", "a.json"] (.file "[]".toUTF8)).put ["d", "b.json"] .directory).put
    ["d", "c.json"] (.file ⟨#[0xff]⟩)).put ["d", "a.json.json"] (.file "[]".toUTF8)).put
      ["d", "a.json.tmp"] (.file "[".toUTF8)

def mixedStore : Store (StateM Disk) := directory ["d"]

theorem directory_classifies_mixed :
    mixedDisk.locate ["d"] = .ok (["d"], .directory) ∧
    (∃ keys, mixedStore.list.run mixedDisk = (.ok keys, mixedDisk) ∧
      "a" ∈ keys ∧ "b" ∉ keys ∧ "c" ∈ keys ∧ "a.json" ∉ keys) ∧
    (∃ e, (mixedStore.get "c").run mixedDisk = (.error e, mixedDisk) ∧ e ≠ .notFound "c") ∧
    (mixedStore.get "a.json").run mixedDisk = (.error (.notFound "a.json"), mixedDisk) ∧
    (∃ d', (mixedStore.delete "c").run mixedDisk = (.ok (), d') ∧ d'.find? ["d", "c.json"] = none) ∧
    (∃ e, (mixedStore.delete "b").run mixedDisk = (.error e, mixedDisk)) ∧
    ∃ d', (mixedStore.put (Key.ofWords 1 2) []).run mixedDisk = (.ok (Key.ofWords 1 2), d') ∧
      d'.find? ["d", "b.json"] = some .directory := by
  have hdir : mixedDisk.locate ["d"] = .ok (["d"], .directory) := by rfl
  have ha : Listed mixedDisk ["d"] "a" := ⟨Key.isValid_iff.1 (by decide), "[]".toUTF8, by rfl⟩
  have hdirectory : mixedDisk.find? (["d"] ++ [documentName "b"]) = some .directory := by rfl
  have hb : ¬ Listed mixedDisk ["d"] "b" := by
    rintro ⟨-, content, hfile⟩
    cases hdirectory.symm.trans hfile
  have hbroken : mixedDisk.find? (["d"] ++ [documentName "c"]) = some (.file ⟨#[0xff]⟩) := by rfl
  have hc : Listed mixedDisk ["d"] "c" := ⟨Key.isValid_iff.1 (by decide), ⟨#[0xff]⟩, hbroken⟩
  have hsuffix : ¬ Key.Proper "a.json" := mt Key.isValid_iff.2 (by decide)
  have hunused : Unused mixedDisk ["d"] (Key.ofWords 1 2) := by
    constructor <;> decide +kernel
  obtain ⟨⟨keys, hlist, -, hkeys⟩, hkey, hput, -⟩ := directory_classifies hdir
  refine ⟨hdir, ⟨keys, hlist, (hkeys _).2 ha, mt (hkeys _).1 hb, (hkeys _).2 hc, fun h => hsuffix ((hkeys _).1 h).1⟩,
    ?_, ?_, ?_, (hkey "b" (by decide)).2.2 hb, ?_⟩
  · obtain ⟨⟨r, hrun, -, hok, -, hfound⟩, -⟩ := hkey "c" (by decide)
    cases r with
    | error e => exact ⟨e, hrun, fun he => hfound hc "c" (congrArg _ he)⟩
    | ok records =>
      obtain ⟨-, content, text, hfile, htext, -⟩ := (hok records).1 rfl
      cases hbroken.symm.trans hfile
      have hnotText : String.fromUTF8? ⟨#[0xff]⟩ = none := by decide +kernel
      cases htext.symm.trans hnotText
  · obtain ⟨⟨r, hrun, hnotFound, -⟩, -⟩ := hkey "a.json" (by decide)
    exact hnotFound.2 (.inl hsuffix) ▸ hrun
  · obtain ⟨d', hrun, hfind⟩ := (hkey "c" (by decide)).2.1 hc
    exact ⟨d', hrun, (hfind _).trans (if_pos rfl)⟩
  · obtain ⟨d', hrun, hfind⟩ := (hput 1 2 []).1 hunused
    have hne : ["d", "b.json"] ≠ ["d"] ++ [documentName (Key.ofWords 1 2)] := by decide +kernel
    exact ⟨d', hrun, (hfind _).trans (if_neg hne)⟩

end

end

end Store

end Specimen
