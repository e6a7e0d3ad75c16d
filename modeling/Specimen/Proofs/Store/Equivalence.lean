import Specimen.Proofs.Json.Records
import Specimen.Proofs.Store.Directory
import Specimen.Proofs.Store.Key
import Specimen.Store.Memory

namespace Specimen.Store

open Files

inductive Op where
  | put (high low : UInt64) (records : Dataset)
  | get (key : String)
  | list
  | delete (key : String)
  | reopen

inductive Answer where
  | stored (r : Except StoreError String)
  | found (r : Except StoreError Dataset)
  | listed (r : Except StoreError (List String))
  | done (r : Except StoreError Unit)

section

variable {m : Type → Type} [Monad m] (s : Store m) (reopen : ExceptT StoreError m Unit)

def Op.run : Op → m Answer
  | .put high low records => .stored <$> (s.put (Key.ofWords high low) records).run
  | .get key => .found <$> (s.get key).run
  | .list => .listed <$> s.list.run
  | .delete key => .done <$> (s.delete key).run
  | .reopen => .done <$> reopen.run

def answers : List Op → m (List Answer)
  | [] => pure []
  | op :: rest => do
    let a ← op.run s reopen
    let l ← answers rest
    return a :: l

end

def Op.Representable : Op → Prop
  | .put _ _ records => ∀ v ∈ records, v.Plain ∧ v.nesting ≤ 126
  | .get key | .delete key => (documentName key).utf8ByteSize ≤ Disk.maxName
  | .list | .reopen => True

abbrev Contents := String → Option Dataset

namespace Contents

def after (c : Contents) : Op → Contents
  | .put high low records => fun key => if key = Key.ofWords high low then some records else c key
  | .delete gone => fun key => if key = gone then none else c key
  | .get _ | .list | .reopen => c

lemma after_put (c : Contents) (high low : UInt64) (records : Dataset) (key : String) :
    c.after (.put high low records) key = if key = Key.ofWords high low then some records else c key := rfl

lemma after_delete (c : Contents) (gone key : String) :
    c.after (.delete gone) key = if key = gone then none else c key := rfl

def Gives (c : Contents) : Op → Answer → Prop
  | .put high low _, a => a = .stored (.ok (Key.ofWords high low))
  | .get key, a => a = .found (match c key with
      | some records => .ok records
      | none => .error (.notFound key))
  | .list, a => ∃ keys, a = .listed (.ok keys) ∧ keys.Pairwise (· < ·) ∧ ∀ key, key ∈ keys ↔ (c key).isSome
  | .delete key, a => a = .done (match c key with
      | some _ => .ok ()
      | none => .error (.notFound key))
  | .reopen, a => a = .done (.ok ())

inductive Answered : Contents → List Op → List Answer → Prop
  | nil {c} : Answered c [] []
  | cons {c op a ops l} : c.Gives op a → Answered (c.after op) ops l → Answered c (op :: ops) (a :: l)

lemma keys_unique {l l' : List String} (h : l.Pairwise (· < ·)) (h' : l'.Pairwise (· < ·))
    (hm : ∀ key, key ∈ l ↔ key ∈ l') :
    l = l' := by
  have hp : l.Perm l' :=
    (List.perm_ext_iff_of_nodup (SortedMap.nodup_of_sorted h) (SortedMap.nodup_of_sorted h')).2 hm
  exact hp.eq_of_pairwise (fun a b _ _ hab hba => absurd (String.lt_trans hab hba) (String.lt_irrefl _)) h h'

lemma Gives.unique {c : Contents} {op : Op} {a b : Answer} (ha : c.Gives op a) (hb : c.Gives op b) :
    a = b := by
  cases op with
  | list =>
    obtain ⟨keys, rfl, hs, hm⟩ := ha
    obtain ⟨keys', rfl, hs', hm'⟩ := hb
    rw [keys_unique hs hs' fun key => (hm key).trans (hm' key).symm]
  | put | get | delete | reopen => exact Eq.trans ha (Eq.symm hb)

lemma Answered.unique {c : Contents} {ops : List Op} {l l' : List Answer}
    (h : Answered c ops l) (h' : Answered c ops l') :
    l = l' := by
  induction h generalizing l' with
  | nil => cases h' with
    | nil => rfl
  | cons ha _ ih => cases h' with
    | cons hb hr => rw [ha.unique hb, ih hr]

end Contents

section simulation

variable {σ : Type} {s : Store (StateM σ)} {reopen : ExceptT StoreError (StateM σ) Unit}

def Simulates (s : Store (StateM σ)) (reopen : ExceptT StoreError (StateM σ) Unit)
    (I : Contents → σ → Prop) : Prop :=
  ∀ c w op, op.Representable → I c w →
    c.Gives op ((op.run s reopen).run w).1 ∧ I (c.after op) ((op.run s reopen).run w).2

lemma Simulates.answered {I : Contents → σ → Prop} (h : Simulates s reopen I) {ops : List Op}
    {c : Contents} {w : σ}
    (hops : ∀ op ∈ ops, op.Representable) (hi : I c w) : c.Answered ops ((answers s reopen ops).run w).1 := by
  induction ops generalizing c w with
  | nil => exact .nil
  | cons op rest ih =>
    obtain ⟨hg, hi'⟩ := h c w op (hops op List.mem_cons_self) hi
    exact .cons hg (ih (fun op hop => hops op (List.mem_cons_of_mem _ hop)) hi')

lemma step_of_run {α : Type} {x : ExceptT StoreError (StateM σ) α} {f : Except StoreError α → Answer}
    {I : Contents → σ → Prop} {c : Contents} {op : Op} {w w' : σ} {r : Except StoreError α}
    (h : x.run w = (r, w')) (hg : c.Gives op (f r)) (hi : I (c.after op) w') :
    c.Gives op ((f <$> x.run : StateM σ Answer).run w).1 ∧
      I (c.after op) ((f <$> x.run : StateM σ Answer).run w).2 := by
  have hrun : (f <$> x.run : StateM σ Answer).run w = (f r, w') := by
    change (f (x.run w).1, (x.run w).2) = _
    rw [h]
  rw [hrun]
  exact ⟨hg, hi⟩

end simulation

section memory

def Remembers (c : Contents) (m : Datasets) : Prop := ∀ key, m.find? key = c key

lemma simulates_memory : Simulates memory (pure ()) Remembers := by
  intro c m op _ hi
  cases op with
  | put high low records =>
    refine step_of_run rfl rfl fun key => ?_
    rw [SortedMap.find?_insert, hi]
    rfl
  | get key =>
    have hc := hi key
    cases hf : m.find? key with
    | some records => exact step_of_run (run_get_of_find? hf) (by simp only [Contents.Gives, ← hc, hf]) hi
    | none => exact step_of_run (run_get_of_find?_eq_none hf) (by simp only [Contents.Gives, ← hc, hf]) hi
  | list =>
    refine step_of_run rfl ⟨_, rfl, m.keys_sorted, fun key => ?_⟩ hi
    rw [← hi, Option.isSome_iff_ne_none, SortedMap.mem_keys_iff]
  | delete key =>
    have hc := hi key
    cases hf : m.find? key with
    | some records =>
      apply step_of_run (run_delete_of_find? hf) (by simp only [Contents.Gives, ← hc, hf])
      intro k
      rw [SortedMap.find?_erase, hi]
      rfl
    | none =>
      apply step_of_run (run_delete_of_find?_eq_none hf) (by simp only [Contents.Gives, ← hc, hf])
      intro k
      rw [Contents.after_delete]
      split
      · rename_i hk
        rw [hk, hf]
      · exact hi k
  | reopen => exact step_of_run rfl rfl hi

end memory

section directory

variable {dir place : Path}

structure Mirrors (dir place : Path) (c : Contents) (d : Disk) : Prop where
  walk : d.Walk [] dir place
  document : ∀ key, d.find? (place ++ [documentName key]) = (c key).map fun records =>
    .file records.toJson.pretty.toUTF8
  temporary : ∀ key, d.find? (place ++ [documentName key ++ temporarySuffix]) ≠ some .directory
  valid : ∀ key records, c key = some records → Key.isValid key ∧ ∀ v ∈ records, v.Plain ∧ v.nesting ≤ 126

namespace Mirrors

variable {c : Contents} {d : Disk} (h : Mirrors dir place c d)

include h

lemma document_ne {key : String} : d.find? (place ++ [documentName key]) ≠ some .directory := by
  rw [h.document]
  cases c key <;> simp

lemma none_of_not_isValid {key : String} (hv : ¬ Key.isValid key) : c key = none := by
  cases hc : c key with
  | none => rfl
  | some records => exact absurd (h.valid key records hc).1 hv

lemma replaced {high low : UInt64} {records : Dataset} (hr : ∀ v ∈ records, v.Plain ∧ v.nesting ≤ 126) :
    Mirrors dir place (c.after (.put high low records))
      (d.replaced place (documentName (Key.ofWords high low)) records.toJson.pretty.toUTF8) where
  walk := h.walk.mono (Disk.keepsDirectories_replaced h.document_ne (h.temporary _))
  document key := by
    have hsuffix : place ++ [documentName key] ≠
        place ++ [documentName (Key.ofWords high low) ++ temporarySuffix] := by
      simpa using (temporary_ne_documentName _ key).symm
    rw [Disk.find?_replaced, Contents.after_put, if_neg hsuffix, h.document]
    simp only [List.append_cancel_left_eq, List.cons.injEq, and_true, documentName_inj]
    split <;> rfl
  temporary key := by
    rw [Disk.find?_replaced, if_neg (by simpa using temporary_ne_documentName _ _)]
    split
    · simp
    · exact h.temporary key
  valid key l hc := by
    rw [Contents.after_put] at hc
    split at hc
    · rename_i hk
      cases hc
      exact ⟨hk ▸ Key.isValid_ofWords high low, hr⟩
    · exact h.valid key l hc

lemma removed (gone : String) :
    Mirrors dir place (c.after (.delete gone)) (d.remove (place ++ [documentName gone])) where
  walk := h.walk.mono (Disk.keepsDirectories_remove h.document_ne)
  document key := by
    rw [Disk.find?_remove (by simp), Contents.after_delete, h.document]
    simp only [List.append_cancel_left_eq, List.cons.injEq, and_true, documentName_inj]
    split <;> rfl
  temporary key := by
    rw [Disk.find?_remove (by simp), if_neg (by simpa using temporary_ne_documentName _ _)]
    exact h.temporary key
  valid key l hc := by
    rw [Contents.after_delete] at hc
    split at hc
    · cases hc
    · exact h.valid key l hc

lemma after_delete_of_none {gone : String} (hc : c gone = none) :
    Mirrors dir place (c.after (.delete gone)) d := by
  have hsame : c.after (.delete gone) = c := by
    funext key
    rw [Contents.after_delete]
    split
    · rename_i hk
      rw [hk, hc]
    · rfl
  rwa [hsame]

end Mirrors

lemma size_ofWords (high low : UInt64) :
    (documentName (Key.ofWords high low)).utf8ByteSize + temporarySuffix.utf8ByteSize ≤ Disk.maxName := by
  have hkey := Key.utf8ByteSize_ofWords_le high low
  have hsuffix : documentSuffix.utf8ByteSize + temporarySuffix.utf8ByteSize ≤ 111 := by decide
  rw [documentName, String.utf8ByteSize_append, Disk.maxName]
  omega

lemma simulates_directory : Simulates (directory dir) (openDirectory dir) (Mirrors dir place) := by
  intro c d op hop hi
  cases op with
  | put high low records =>
    exact step_of_run (run_put hi.walk (size_ofWords high low) hi.document_ne (hi.temporary _)) rfl
      (hi.replaced hop)
  | get key =>
    by_cases hv : Key.isValid key
    · have hn : IsName (documentName key) := isName_documentName_iff.2 hop
      refine step_of_run (run_get hi.walk hv hn) ?_ hi
      rw [hi.document]
      cases hc : c key with
      | none => simp only [Contents.Gives, hc, Option.map_none]
      | some records =>
        simp only [Contents.Gives, hc, Option.map_some,
          readDocument_pretty (hi.valid key records hc).2, Except.mapError]
    · -- only the directory looks at the form of a key, but no other key is among the contents
      have hc := hi.none_of_not_isValid hv
      exact step_of_run (run_get_of_not_isValid hv d) (by simp only [Contents.Gives, hc]) hi
  | list =>
    obtain ⟨keys, hrun, hsorted, hm⟩ := run_list hi.walk
    refine step_of_run hrun ⟨keys, rfl, hsorted, fun key => ?_⟩ hi
    rw [hm, hi.document]
    cases hc : c key with
    | none => simp
    | some records => simpa using (hi.valid key records hc).1
  | delete key =>
    by_cases hv : Key.isValid key
    · have hn : IsName (documentName key) := isName_documentName_iff.2 hop
      have hdelete := run_delete hi.walk hv hn
      rw [hi.document] at hdelete
      cases hc : c key with
      | none =>
        rw [hc] at hdelete
        exact step_of_run hdelete (by simp only [Contents.Gives, hc]) (hi.after_delete_of_none hc)
      | some records =>
        rw [hc] at hdelete
        exact step_of_run hdelete (by simp only [Contents.Gives, hc]) (hi.removed key)
    · have hc := hi.none_of_not_isValid hv
      exact step_of_run (run_delete_of_not_isValid hv d) (by simp only [Contents.Gives, hc])
        (hi.after_delete_of_none hc)
  | reopen => exact step_of_run (run_adapt_eq_ok_iff.2 hi.walk.makeDirectories) rfl hi

lemma mirrors_of_children_eq_nil {d : Disk} (hw : d.Walk [] dir place) (h : d.children place = []) :
    Mirrors dir place (fun _ => none) d := by
  have hnone (name : String) : d.find? (place ++ [name]) = none := by
    cases hf : d.find? (place ++ [name]) with
    | none => rfl
    | some e =>
      have hm := (d.mem_children_iff place).2 ⟨e, hf, rfl⟩
      rw [h] at hm
      cases hm
  refine ⟨hw, fun key => hnone _, fun key => ?_, fun key l hc => ?_⟩
  · rw [hnone]
    simp
  · cases hc

end directory

def memoryAnswers (ops : List Op) : List Answer := ((answers memory (pure ()) ops).run .empty).1

def directoryAnswers (dir : Path) (d : Disk) (ops : List Op) : List Answer :=
  ((answers (directory dir : Store (StateM Disk)) (openDirectory dir) ops).run d).1

/-- Whatever is asked, a store over an empty directory answers as one in memory does, also if it is opened
again on the way, and both answer as a map does. -/
theorem directoryAnswers_eq_memoryAnswers {ops : List Op} (hops : ∀ op ∈ ops, op.Representable) {d : Disk}
    {dir place : Path} (hdir : d.locate dir = .ok (place, .directory)) (hempty : d.children place = []) :
    directoryAnswers dir d ops = memoryAnswers ops ∧
      Contents.Answered (fun _ => none) ops (memoryAnswers ops) := by
  have hm : Contents.Answered (fun _ => none) ops (memoryAnswers ops) :=
    simulates_memory.answered hops fun _ => rfl
  have hd : Contents.Answered (fun _ => none) ops (directoryAnswers dir d ops) :=
    simulates_directory.answered hops (mirrors_of_children_eq_nil (Disk.walk_iff_locate.2 hdir) hempty)
  exact ⟨hd.unique hm, hm⟩

section

def sampleOps : List Op :=
  [.put 1 2 [.obj [("a", .str "b")]], .get (Key.ofWords 1 2), .list, .reopen,
    .delete (Key.ofWords 1 2), .get "../x"]

def sampleDisk : Disk := Disk.empty.put ["d"] .directory

theorem directoryAnswers_eq_memoryAnswers_sample :
    (∀ op ∈ sampleOps, op.Representable) ∧
      directoryAnswers ["d"] sampleDisk sampleOps = memoryAnswers sampleOps ∧
      Contents.Answered (fun _ => none) sampleOps (memoryAnswers sampleOps) := by
  have hplain : Json.Plain (.obj [("a", .str "b")]) := .obj (by decide) (by simpa using Json.Plain.str "b")
  have hput : (Op.put 1 2 [.obj [("a", .str "b")]]).Representable := by
    intro v hv
    cases List.mem_singleton.1 hv
    exact ⟨hplain, by decide⟩
  have hsize : (documentName (Key.ofWords 1 2)).utf8ByteSize ≤ Disk.maxName := by decide +kernel
  have hother : (documentName "../x").utf8ByteSize ≤ Disk.maxName := by decide
  have hops : ∀ op ∈ sampleOps, op.Representable := by
    simp only [sampleOps, List.forall_mem_cons]
    exact ⟨hput, hsize, trivial, trivial, hsize, hother, by simp⟩
  have hdir : sampleDisk.locate ["d"] = .ok (["d"], .directory) := by rfl
  exact ⟨hops, directoryAnswers_eq_memoryAnswers hops hdir rfl⟩

end

end Specimen.Store
