import Specimen.Program.Logger
import Specimen.Proofs.Files.Replace
import Specimen.Proofs.Store.Directory

namespace Specimen

open Files

def OnDisk {ε α : Type} (x : ExceptT ε (StateM Machine) α) (y : ExceptT ε (StateM Disk) α) : Prop :=
  ∀ w, x.run w = ((y.run w.disk).1, { w with disk := (y.run w.disk).2 })

namespace OnDisk

variable {ε ε' α β : Type} {x : ExceptT ε (StateM Machine) α} {y : ExceptT ε (StateM Disk) α}

lemma ask (c : Call α) : OnDisk (Files.ask c) (Files.ask c) := fun _ => rfl

lemma pure (a : α) : OnDisk (Pure.pure a : ExceptT ε (StateM Machine) α) (Pure.pure a) := fun _ => rfl

lemma throw (e : ε) : OnDisk (MonadExcept.throw e : ExceptT ε (StateM Machine) α) (MonadExcept.throw e) :=
  fun _ => rfl

lemma bind {f : α → ExceptT ε (StateM Machine) β} {g : α → ExceptT ε (StateM Disk) β} (h : OnDisk x y)
    (hf : ∀ a, OnDisk (f a) (g a)) : OnDisk (x >>= f) (y >>= g) := by
  intro w
  have hx := h w
  cases hy : y.run w.disk with
  | mk r d =>
    rw [hy] at hx
    cases r with
    | ok a => rw [run_bind_of_ok hx, run_bind_of_ok hy, hf a]
    | error e => rw [run_bind_of_error hx, run_bind_of_error hy]

lemma adapt (h : OnDisk x y) (g : ε → ε') : OnDisk (x.adapt g) (y.adapt g) := by
  intro w
  rw [run_adapt, run_adapt, h w]

lemma tryCatch {f : ε → ExceptT ε (StateM Machine) α} {g : ε → ExceptT ε (StateM Disk) α} (h : OnDisk x y)
    (hf : ∀ e, OnDisk (f e) (g e)) : OnDisk (MonadExcept.tryCatch x f) (MonadExcept.tryCatch y g) := by
  intro w
  have hx := h w
  cases hy : y.run w.disk with
  | mk r d =>
    rw [hy] at hx
    cases r with
    | ok a => rw [run_tryCatch_of_ok hx, run_tryCatch_of_ok hy]
    | error e => rw [run_tryCatch_of_error hx, run_tryCatch_of_error hy, hf e]

lemma replace (dir : Path) (name : String) (content : ByteArray) :
    OnDisk (Files.replace (dir ++ [name]) content) (Files.replace (dir ++ [name]) content) := by
  have hprepare : OnDisk (prepare dir) (prepare dir) := by
    unfold prepare
    split
    · exact ask _
    · exact pure ()
  have hrename (source target : Path) :
      OnDisk (renameOrRemove source target) (renameOrRemove source target) :=
    (ask _).tryCatch fun _ => ((ask _).tryCatch fun _ => pure ()).bind fun _ => throw _
  have hinstall : OnDisk (install dir name content) (install dir name content) := by
    refine (ask _).bind fun _ => (ask _).bind fun _ => (ask _).bind fun _ => (hrename _ _).bind fun _ => ?_
    split
    · exact ask _
    · exact pure ()
  rw [replace_eq, replace_eq]
  exact hprepare.bind fun _ => hinstall

lemma put (dir : Path) (key : String) (records : Dataset) :
    OnDisk ((Store.directory dir).put key records) ((Store.directory dir).put key records) :=
  ((replace _ _ _).adapt _).bind fun _ => pure _

lemma keeps_output (h : OnDisk x y) : Keeps Machine.output x := by
  intro w
  rw [h w]

lemma run_eq_ok (h : OnDisk x y) {w w' : Machine} {a : α} (hx : x.run w = (.ok a, w')) :
    y.run w.disk = (.ok a, w'.disk) := by
  rw [h w] at hx
  have ha := congrArg Prod.fst hx
  have hd := congrArg (fun r => r.2.disk) hx
  exact Prod.ext ha hd

lemma readOnly (h : OnDisk x y) (hy : ReadOnly y) : ReadOnly x := by
  intro w
  rw [h w, hy.run_snd]

end OnDisk

lemma Store.Holds.openFile {d : Disk} {dir p : Path} {key : String} {records : Dataset}
    (h : Store.Holds d dir key records) (hp : Store.documentName key ∉ p) (f : ByteArray → ByteArray) :
    Store.Holds (d.openFile p f).2 dir key records := by
  obtain ⟨place, hw, hn, hf⟩ := h
  obtain hsame | ⟨there, content, hr, hfree, hput⟩ := d.openFile_cases p f
  · rw [hsame]
    exact ⟨place, hw, hn, hf⟩
  · have hne : place ++ [Store.documentName key] ≠ there := by
      rintro rfl
      obtain h | h := Disk.mem_of_resolve hr (List.mem_append_right place (List.mem_singleton.2 rfl))
      · cases h
      · exact hp h
    rw [hput]
    refine ⟨place, hw.mono (Disk.keepsDirectories_put hfree), hn, ?_⟩
    rw [Disk.find?_put (Disk.ne_root_of_find? hfree), if_neg hne, hf]

namespace Logger

variable (log : Logger) (e : Log.Event) (w : Machine)

lemma output_of_emit : ((log.emit e : StateM Machine Unit).run w).2.output = w.output := by
  rw [emit]
  split
  · cases log.file <;> rfl
  · rfl

lemma output_of_emitAll (l : List Log.Event) :
    ((log.emitAll l : StateM Machine Unit).run w).2.output = w.output := by
  induction l generalizing w with
  | nil => rfl
  | cons e rest ih => exact (ih _).trans (log.output_of_emit e w)

lemma holds_of_emit {dir : Path} {key : String} {records : Dataset}
    (hlog : ∀ p ∈ log.file, Store.documentName key ∉ p) (h : Store.Holds w.disk dir key records) :
    Store.Holds ((log.emit e : StateM Machine Unit).run w).2.disk dir key records := by
  rw [emit]
  split
  · cases hf : log.file with
    | none => exact h
    | some p => exact h.openFile (hlog p hf) _
  · exact h

end Logger

end Specimen
