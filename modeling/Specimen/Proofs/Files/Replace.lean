import Specimen.Files.Replace
import Specimen.Proofs.Files.Places
import Specimen.Proofs.Runs

namespace Specimen.Files

namespace Disk

def content (d : Disk) (place : Path) : ByteArray :=
  match d.find? place with
  | some (.file old) => old
  | _ => .empty

variable {d d' : Disk} {p place : Path}

lemma ne_root_of_find? (h : d.find? p ≠ some .directory) : p ≠ [] := by
  rintro rfl
  exact h d.find?_root

lemma openFile_eq_ok_iff {f : ByteArray → ByteArray} :
    d.openFile p f = (.ok (), d') ↔ ∃ place, d.resolve [] p = .ok place ∧ d.find? place ≠ some .directory ∧
      d' = d.put place (.file (f (d.content place))) := by
  rw [openFile]
  cases d.resolve [] p with
  | error e => simp
  | ok place =>
    simp only [Except.ok.injEq, exists_eq_left', content]
    cases d.find? place with
    | none => simp [eq_comm]
    | some e => cases e <;> simp [eq_comm]

lemma openFile_cases (d : Disk) (p : Path) (f : ByteArray → ByteArray) :
    (d.openFile p f).2 = d ∨ ∃ place content, d.resolve [] p = .ok place ∧ d.find? place ≠ some .directory ∧
      (d.openFile p f).2 = d.put place (.file content) := by
  cases h : (d.openFile p f).1 with
  | ok =>
    obtain ⟨place, hr, hd, hd'⟩ := openFile_eq_ok_iff.1
      (Prod.ext h rfl : d.openFile p f = (.ok (), (d.openFile p f).2))
    exact .inr ⟨place, _, hr, hd, hd'⟩
  | error e =>
    left
    rw [openFile] at h ⊢
    split at h
    · rfl
    · split at h <;> first | rfl | cases h

lemma ne_of_find?_ne {q : Path} {e : Entry} (h : d.find? p ≠ some e) (hq : d.find? q = some e) : q ≠ p := by
  rintro rfl
  exact h hq

lemma keepsDirectories_put {content : ByteArray} (h : d.find? p ≠ some .directory) :
    d.KeepsDirectories (d.put p (.file content)) := by
  intro q hq
  rw [find?_put (ne_root_of_find? h), if_neg (ne_of_find?_ne h hq), hq]

lemma keepsDirectories_remove (h : d.find? p ≠ some .directory) : d.KeepsDirectories (d.remove p) := by
  intro q hq
  rw [find?_remove (ne_root_of_find? h), if_neg (ne_of_find?_ne h hq), hq]

def written (d : Disk) (place : Path) (content : ByteArray) : Disk :=
  (d.put place (.file .empty)).put place (.file content)

lemma find?_written {q : Path} (h : place ≠ []) {content : ByteArray} :
    (d.written place content).find? q = if q = place then some (.file content) else d.find? q := by
  rw [written, find?_put h, find?_put h]
  split <;> rfl

lemma keepsDirectories_written {content : ByteArray} (h : d.find? place ≠ some .directory) :
    d.KeepsDirectories (d.written place content) := by
  intro q hq
  rw [find?_written (ne_root_of_find? h), if_neg (ne_of_find?_ne h hq), hq]

lemma ne_temporary (name : String) : name ++ temporarySuffix ≠ name := by
  intro h
  have hl := congrArg String.length h
  simp [temporarySuffix] at hl

def replaced (d : Disk) (place : Path) (name : String) (content : ByteArray) : Disk :=
  ((d.written (place ++ [name ++ temporarySuffix]) content).remove (place ++ [name ++ temporarySuffix])).put
    (place ++ [name]) (.file content)

lemma find?_replaced {q : Path} {name : String} {content : ByteArray} :
    (d.replaced place name content).find? q = if q = place ++ [name] then some (.file content)
      else if q = place ++ [name ++ temporarySuffix] then none else d.find? q := by
  rw [replaced, find?_put (by simp), find?_remove (by simp), find?_written (by simp)]
  split
  · rfl
  · split <;> rfl

lemma keepsDirectories_replaced {name : String} {content : ByteArray}
    (hdoc : d.find? (place ++ [name]) ≠ some .directory)
    (htmp : d.find? (place ++ [name ++ temporarySuffix]) ≠ some .directory) :
    d.KeepsDirectories (d.replaced place name content) := by
  intro q hq
  rw [find?_replaced, if_neg (ne_of_find?_ne hdoc hq), if_neg (ne_of_find?_ne htmp hq), hq]

lemma Walk.sync (h : d.Walk [] p place) : (Call.sync p).run d = (.ok (), d) := by
  rw [Call.run, h.locate]
  rfl

end Disk

lemma fromUTF8?_toUTF8 (s : String) : String.fromUTF8? s.toUTF8 = some s := dif_pos s.isValidUTF8

lemma run_ask {α : Type} (c : Call α) (d : Disk) :
    (ask c : ExceptT Fault (StateM Disk) α).run d = c.run d := rfl

lemma readOnly_ask_read (p : Path) : ReadOnly (ask (.read p) : ExceptT Fault (StateM Disk) ByteArray) := by
  intro d
  rw [run_ask, Call.run]
  split <;> rfl

lemma readOnly_ask_list (p : Path) :
    ReadOnly (ask (.list p) : ExceptT Fault (StateM Disk) (List (String × Kind))) := by
  intro d
  rw [run_ask, Call.run]
  split <;> rfl

lemma run_ask_bind_of_ok {α β : Type} {c : Call α} {f : α → ExceptT Fault (StateM Disk) β}
    {d d' : Disk} {a : α} (h : c.run d = (.ok a, d')) : (ask c >>= f).run d = (f a).run d' :=
  run_bind_of_ok (x := ask c) h

lemma run_ask_bind_of_error {α β : Type} {c : Call α} {f : α → ExceptT Fault (StateM Disk) β} {d d' : Disk}
    {e : Fault} (h : c.run d = (.error e, d')) : (ask c >>= f).run d = (.error e, d') :=
  run_bind_of_error (x := ask c) h

section steps

variable {m : Type → Type} [Monad m] [Access m]

def prepare (dir : Path) : ExceptT Fault m Unit := if dir ≠ [] then ask (.makeDirectories dir) else pure ()

def install (dir : Path) (name : String) (content : ByteArray) : ExceptT Fault m Unit := do
  ask (.create (dir ++ [name ++ temporarySuffix]))
  ask (.append (dir ++ [name ++ temporarySuffix]) content)
  ask (.sync (dir ++ [name ++ temporarySuffix]))
  renameOrRemove (dir ++ [name ++ temporarySuffix]) (dir ++ [name])
  if dir ≠ [] then
    ask (.sync dir)

lemma replace_eq [LawfulMonad m] (dir : Path) (name : String) (content : ByteArray) :
    (replace (dir ++ [name]) content : ExceptT Fault m Unit) =
      (do prepare dir; install dir name content) := by
  simp only [replace, Path.temporary, List.dropLast_concat, List.getLastD_concat, prepare, install]
  split <;> simp

end steps

section runs

variable {d d' : Disk} {dir place : Path} {name : String} {content : ByteArray}

lemma run_prepare (hw : d.Walk [] dir place) :
    (prepare dir : ExceptT Fault (StateM Disk) Unit).run d = (.ok (), d) := by
  rw [prepare]
  split
  · exact hw.makeDirectories
  · rfl

lemma walk_of_prepare (h : (prepare dir : ExceptT Fault (StateM Disk) Unit).run d = (.ok (), d')) :
    d.GainsDirectories d' ∧ ∃ place, d'.Walk [] dir place := by
  rw [prepare] at h
  split at h
  · exact Disk.walk_of_makeDirectories h (.root d)
  · rename_i hdir
    cases h
    rw [Decidable.not_not.1 hdir]
    exact ⟨.refl _, [], .here (Disk.find?_root _)⟩

lemma run_rename {source target from_ to_ : Path} {e : Entry} (hs : d.resolve [] source = .ok from_)
    (he : d.find? from_ = some e) (ht : d.resolve [] target = .ok to_) (hd : d.find? to_ ≠ some .directory) :
    (renameOrRemove source target : ExceptT Fault (StateM Disk) Unit).run d =
      (.ok (), (d.remove from_).put to_ e) := by
  have hrename : (ask (.rename source target) : ExceptT Fault (StateM Disk) Unit).run d =
      (.ok (), (d.remove from_).put to_ e) := by
    rw [run_ask, Call.run]
    simp only [Disk.locate_eq_ok_iff.2 ⟨hs, he⟩, ht]
  exact run_tryCatch_of_ok hrename

lemma run_rename_of_directory {source target from_ to_ : Path} (hs : d.resolve [] source = .ok from_)
    (hf : d.find? from_ = some (.file content)) (ht : d.resolve [] target = .ok to_)
    (hd : d.find? to_ = some .directory) :
    (renameOrRemove source target : ExceptT Fault (StateM Disk) Unit).run d =
      (.error .isADirectory, d.remove from_) := by
  have hl := Disk.locate_eq_ok_iff.2 ⟨hs, hf⟩
  have hrename : (ask (.rename source target) : ExceptT Fault (StateM Disk) Unit).run d =
      (.error .isADirectory, d) := by
    rw [run_ask, Call.run]
    simp only [hl, ht, hd]
  have hremove : (ask (.remove source) : ExceptT Fault (StateM Disk) Unit).run d =
      (.ok (), d.remove from_) := by
    rw [run_ask, Call.run]
    simp only [hl]
  rw [renameOrRemove, run_tryCatch_of_error hrename, run_bind_of_ok (run_tryCatch_of_ok hremove)]
  rfl

lemma run_install_of_free (hw : d.Walk [] dir place) (ht : IsName (name ++ temporarySuffix))
    (hfree : d.find? (place ++ [name ++ temporarySuffix]) ≠ some .directory) :
    (install dir name content : ExceptT Fault (StateM Disk) Unit).run d =
      (do
        renameOrRemove (dir ++ [name ++ temporarySuffix]) (dir ++ [name])
        if dir ≠ [] then
          ask (.sync dir) : ExceptT Fault (StateM Disk) Unit).run
            (d.written (place ++ [name ++ temporarySuffix]) content) := by
  -- each call comes after one that changed the disk, so the way to the directory is kept at every step
  let tmp := place ++ [name ++ temporarySuffix]
  have hne : tmp ≠ [] := Disk.ne_root_of_find? hfree
  let d₁ := d.put tmp (.file .empty)
  have hw₁ : d₁.Walk [] dir place := hw.mono (Disk.keepsDirectories_put hfree)
  have hself : d₁.find? tmp = some (.file .empty) := by rw [Disk.find?_put hne, if_pos rfl]
  have hw₂ : (d.written tmp content).Walk [] dir place :=
    hw₁.mono (Disk.keepsDirectories_put (by simp [hself]))
  have hcreate : (Call.create (dir ++ [name ++ temporarySuffix])).run d = (.ok (), d₁) :=
    Disk.openFile_eq_ok_iff.2 ⟨tmp, hw.resolve_concat ht, hfree, rfl⟩
  have happend : (Call.append (dir ++ [name ++ temporarySuffix]) content).run d₁ =
      (.ok (), d.written tmp content) := by
    refine Disk.openFile_eq_ok_iff.2 ⟨tmp, hw₁.resolve_concat ht, by simp [hself], ?_⟩
    rw [Disk.content, hself]
    simp [Disk.written, d₁, ByteArray.empty_append]
  have hsync : (Call.sync (dir ++ [name ++ temporarySuffix])).run (d.written tmp content) =
      (.ok (), d.written tmp content) := by
    have hl : (d.written tmp content).locate (dir ++ [name ++ temporarySuffix]) = .ok (tmp, .file content) :=
      Disk.locate_eq_ok_iff.2 ⟨hw₂.resolve_concat ht, by rw [Disk.find?_written hne, if_pos rfl]⟩
    rw [Call.run, hl]
    rfl
  rw [install, run_ask_bind_of_ok hcreate, run_ask_bind_of_ok happend, run_ask_bind_of_ok hsync]

lemma isName_temporary (h : name.utf8ByteSize + temporarySuffix.utf8ByteSize ≤ Disk.maxName) :
    IsName (name ++ temporarySuffix) := by
  exact ⟨append_ne_of_short (by decide) name, append_ne_of_short (by decide) name,
    by rwa [String.utf8ByteSize_append]⟩

lemma written_temporary (hw : d.Walk [] dir place)
    (hfree : d.find? (place ++ [name ++ temporarySuffix]) ≠ some .directory) (content : ByteArray) :
    (d.written (place ++ [name ++ temporarySuffix]) content).Walk [] dir place ∧
      (d.written (place ++ [name ++ temporarySuffix]) content).find? (place ++ [name ++ temporarySuffix]) =
        some (.file content) ∧
      (d.written (place ++ [name ++ temporarySuffix]) content).find? (place ++ [name]) =
        d.find? (place ++ [name]) := by
  have hne : place ++ [name ++ temporarySuffix] ≠ [] := Disk.ne_root_of_find? hfree
  refine ⟨hw.mono fun q hq => ?_, ?_, ?_⟩
  · rw [Disk.find?_written hne, if_neg (Disk.ne_of_find?_ne hfree hq), hq]
  · rw [Disk.find?_written hne, if_pos rfl]
  · rw [Disk.find?_written hne, if_neg (by simpa using (Disk.ne_temporary name).symm)]

lemma run_install_of_directory (hw : d.Walk [] dir place) (ht : IsName (name ++ temporarySuffix))
    (hd : d.find? (place ++ [name ++ temporarySuffix]) = some .directory) :
    (install dir name content : ExceptT Fault (StateM Disk) Unit).run d = (.error .isADirectory, d) := by
  have hcreate : (Call.create (dir ++ [name ++ temporarySuffix])).run d = (.error .isADirectory, d) := by
    rw [Call.run, Disk.openFile, hw.resolve_concat ht]
    simp only [hd]
  rw [install, run_ask_bind_of_error hcreate]

lemma run_install_of_long (hw : d.Walk [] dir place)
    (hlong : Disk.maxName < (name ++ temporarySuffix).utf8ByteSize) :
    (install dir name content : ExceptT Fault (StateM Disk) Unit).run d = (.error .invalidFilename, d) := by
  have hcreate : (Call.create (dir ++ [name ++ temporarySuffix])).run d = (.error .invalidFilename, d) := by
    rw [Call.run, Disk.openFile, hw.resolve_concat_of_long hlong]
  rw [install, run_ask_bind_of_error hcreate]

lemma run_install_of_target_directory (hw : d.Walk [] dir place) (hn : IsName name)
    (ht : IsName (name ++ temporarySuffix))
    (hfree : d.find? (place ++ [name ++ temporarySuffix]) ≠ some .directory)
    (hd : d.find? (place ++ [name]) = some .directory) :
    (install dir name content : ExceptT Fault (StateM Disk) Unit).run d =
      (.error .isADirectory,
        (d.written (place ++ [name ++ temporarySuffix]) content).remove
          (place ++ [name ++ temporarySuffix])) := by
  obtain ⟨hw', hself, hdoc⟩ := written_temporary hw hfree content
  rw [run_install_of_free hw ht hfree, run_bind_of_error
    (run_rename_of_directory (hw'.resolve_concat ht) hself (hw'.resolve_concat hn) (hdoc.trans hd))]

lemma run_install (hw : d.Walk [] dir place) (hn : IsName name) (ht : IsName (name ++ temporarySuffix))
    (hfree : d.find? (place ++ [name ++ temporarySuffix]) ≠ some .directory)
    (hd : d.find? (place ++ [name]) ≠ some .directory) :
    (install dir name content : ExceptT Fault (StateM Disk) Unit).run d =
      (.ok (), d.replaced place name content) := by
  obtain ⟨hw', hself, hdoc⟩ := written_temporary hw hfree content
  rw [run_install_of_free hw ht hfree, run_bind_of_ok
    (run_rename (hw'.resolve_concat ht) hself (hw'.resolve_concat hn) (by rwa [hdoc]))]
  split
  · exact (hw.mono (Disk.keepsDirectories_replaced hd hfree)).sync
  · rfl

lemma install_cases (hw : d.Walk [] dir place) (hdot : name ≠ ".") (hdots : name ≠ "..")
    (content : ByteArray) :
    (∃ e, (install dir name content : ExceptT Fault (StateM Disk) Unit).run d = (.error e, d)) ∨
      IsName name ∧ IsName (name ++ temporarySuffix) ∧
        d.find? (place ++ [name ++ temporarySuffix]) ≠ some .directory ∧
        (d.find? (place ++ [name]) = some .directory ∧
          (install dir name content : ExceptT Fault (StateM Disk) Unit).run d =
            (.error .isADirectory,
              (d.written (place ++ [name ++ temporarySuffix]) content).remove
                (place ++ [name ++ temporarySuffix])) ∨
        d.find? (place ++ [name]) ≠ some .directory ∧
          (install dir name content : ExceptT Fault (StateM Disk) Unit).run d =
            (.ok (), d.replaced place name content)) := by
  by_cases hlong : Disk.maxName < (name ++ temporarySuffix).utf8ByteSize
  · exact .inl ⟨_, run_install_of_long hw hlong⟩
  · have hsize := Nat.not_lt.1 hlong
    rw [String.utf8ByteSize_append] at hsize
    have ht := isName_temporary hsize
    have hn : IsName name := ⟨hdot, hdots, Nat.le_trans (Nat.le_add_right _ _) hsize⟩
    by_cases hfree : d.find? (place ++ [name ++ temporarySuffix]) = some .directory
    · exact .inl ⟨_, run_install_of_directory hw ht hfree⟩
    · by_cases hd : d.find? (place ++ [name]) = some .directory
      · exact .inr ⟨hn, ht, hfree, .inl ⟨hd, run_install_of_target_directory hw hn ht hfree hd⟩⟩
      · exact .inr ⟨hn, ht, hfree, .inr ⟨hd, run_install hw hn ht hfree hd⟩⟩

lemma run_replace (hw : d.Walk [] dir place) (content : ByteArray) :
    (replace (dir ++ [name]) content : ExceptT Fault (StateM Disk) Unit).run d =
      (install dir name content : ExceptT Fault (StateM Disk) Unit).run d := by
  rw [replace_eq, run_bind_of_ok (run_prepare hw)]

lemma replaced_of_run_replace (hdot : name ≠ ".") (hdots : name ≠ "..")
    (h : (replace (dir ++ [name]) content : ExceptT Fault (StateM Disk) Unit).run d = (.ok (), d')) :
    ∃ d₀ place, d.GainsDirectories d₀ ∧ d₀.Walk [] dir place ∧ IsName name ∧
      d₀.find? (place ++ [name]) ≠ some .directory ∧
      d₀.find? (place ++ [name ++ temporarySuffix]) ≠ some .directory ∧
      d' = d₀.replaced place name content := by
  rw [replace_eq] at h
  obtain ⟨_, d₀, hp, h⟩ := run_bind_eq_ok_iff.1 h
  obtain ⟨hg, place, hw⟩ := walk_of_prepare hp
  obtain ⟨e, he⟩ | ⟨hn, -, hfree, ⟨-, he⟩ | ⟨hd, hok⟩⟩ := install_cases hw hdot hdots content
  · cases he.symm.trans h
  · cases he.symm.trans h
  · cases hok.symm.trans h
    exact ⟨d₀, place, hg, hw, hn, hd, hfree, rfl⟩

lemma frame_of_replace (hw : d.Walk [] dir place) (hdot : name ≠ ".") (hdots : name ≠ "..")
    (content : ByteArray) :
    d.KeepsDirectories ((replace (dir ++ [name]) content : ExceptT Fault (StateM Disk) Unit).run d).2 ∧
      ∀ q, q ≠ place ++ [name] → q ≠ place ++ [name ++ temporarySuffix] →
        ((replace (dir ++ [name]) content : ExceptT Fault (StateM Disk) Unit).run d).2.find? q =
          d.find? q := by
  rw [run_replace hw]
  obtain ⟨e, he⟩ | ⟨-, -, hfree, ⟨-, he⟩ | ⟨hd, hok⟩⟩ := install_cases hw hdot hdots content
  · rw [he]
    exact ⟨fun _ hq => hq, fun _ _ _ => rfl⟩
  · have hne := Disk.ne_root_of_find? hfree
    rw [he]
    refine ⟨fun q hq => ?_, fun q _ hq => ?_⟩
    · have hq' := Disk.ne_of_find?_ne hfree hq
      rw [Disk.find?_remove hne, if_neg hq', Disk.find?_written hne, if_neg hq', hq]
    · rw [Disk.find?_remove hne, if_neg hq, Disk.find?_written hne, if_neg hq]
  · rw [hok]
    exact ⟨Disk.keepsDirectories_replaced hd hfree, fun q hq hq' => by
      rw [Disk.find?_replaced, if_neg hq, if_neg hq']⟩

end runs

end Specimen.Files
