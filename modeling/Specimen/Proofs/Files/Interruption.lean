import Specimen.Files.Failing
import Specimen.Proofs.Files.Replace

namespace Specimen.Files

namespace FailingDisk

structure Undisturbed (w₀ : FailingDisk) (n : Nat) (w : FailingDisk) : Prop where
  calls : w.calls = w₀.calls + n
  schedule : w.failure? = w₀.failure?
  none : ∀ i < n, w₀.failure? (w₀.calls + i) = none

lemma Undisturbed.start (w : FailingDisk) : Undisturbed w 0 w := ⟨rfl, rfl, fun _ h => absurd h (Nat.not_lt_zero _)⟩

def OnDisk (P : Disk → Prop) (w : FailingDisk) : Prop := P w.disk

def At (w₀ : FailingDisk) (n : Nat) (P : Disk → Prop) (w : FailingDisk) : Prop := Undisturbed w₀ n w ∧ OnDisk P w

variable {α : Type} {w₀ w w' : FailingDisk} {c : Call α} {n : Nat}

lemma run_ask_cases {r : Except Fault α} (h : (ask c : ExceptT Fault (StateM FailingDisk) α).run w = (r, w')) :
    w'.calls = w.calls + 1 ∧ w'.failure? = w.failure? ∧
      (w.failure? w.calls = none ∧ c.run w.disk = (r, w'.disk) ∨
        ∃ f, w.failure? w.calls = some f ∧ r = .error f.fault ∧ w'.disk = c.interrupted f.done w.disk) := by
  cases hf : w.failure? w.calls with
  | some f =>
    simp only [ask, ExceptT.run_mk, Access.call, hf] at h
    cases h
    exact ⟨rfl, rfl, .inr ⟨f, rfl, rfl, rfl⟩⟩
  | none =>
    simp only [ask, ExceptT.run_mk, Access.call, hf] at h
    cases h
    exact ⟨rfl, rfl, .inl ⟨rfl, rfl⟩⟩

lemma leads_ask {P : Disk → Prop} {Q : α → Disk → Prop} {E : Fault → Disk → Prop}
    (hok : ∀ d a d', P d → c.run d = (.ok a, d') → Q a d')
    (herror : ∀ d e d', P d → c.run d = (.error e, d') → E e d')
    (hinterrupted : ∀ d f, P d → w₀.failure? (w₀.calls + n) = some f → E f.fault (c.interrupted f.done d)) :
    Leads (At w₀ n P) (ask c : ExceptT Fault (StateM FailingDisk) α) (fun a => At w₀ (n + 1) (Q a))
      (fun e => OnDisk (E e)) := by
  constructor
  · rintro w a w' ⟨hu, hP⟩ h
    obtain ⟨hcalls, hschedule, ⟨hnone, hrun⟩ | ⟨f, -, hr, -⟩⟩ := run_ask_cases h
    · refine ⟨⟨by rw [hcalls, hu.calls, Nat.add_assoc], hschedule.trans hu.schedule, fun i hi => ?_⟩, hok _ a _ hP hrun⟩
      rcases Nat.lt_succ_iff_lt_or_eq.1 hi with hi | rfl
      · exact hu.none i hi
      · rw [← hu.calls, ← hu.schedule, hnone]
    · cases hr
  · rintro w e w' ⟨hu, hP⟩ h
    obtain ⟨-, -, ⟨-, hrun⟩ | ⟨f, hf, hr, hd⟩⟩ := run_ask_cases h
    · exact herror _ e _ hP hrun
    · cases hr
      rw [hu.calls, hu.schedule] at hf
      rw [OnDisk, hd]
      exact hinterrupted _ f hP hf

lemma leads_ask_always {P : Disk → Prop} (hrun : ∀ d, P d → P (c.run d).2)
    (hinterrupted : ∀ d k, P d → P (c.interrupted k d)) :
    Leads (OnDisk P) (ask c : ExceptT Fault (StateM FailingDisk) α) (fun _ => OnDisk P) (fun _ => OnDisk P) := by
  have key {w w' : FailingDisk} {r : Except Fault α} (hP : OnDisk P w)
      (h : (ask c : ExceptT Fault (StateM FailingDisk) α).run w = (r, w')) : OnDisk P w' := by
    obtain ⟨-, -, ⟨-, hr⟩ | ⟨f, -, -, hd⟩⟩ := run_ask_cases h
    · have := hrun _ hP
      rwa [hr] at this
    · rw [OnDisk, hd]
      exact hinterrupted _ _ hP
  exact ⟨fun _ _ _ hP h => key hP h, fun _ _ _ hP h => key hP h⟩

end FailingDisk

namespace Disk

lemma Walk.makeDirectories_take {d : Disk} {start p place : Path} (h : d.Walk start p place) (n : Nat) :
    d.makeDirectories start (p.take n) = (.ok (), d) := by
  induction h generalizing n with
  | here => rw [List.take_nil, Disk.makeDirectories]
  | stay _ ih =>
    cases n with
    | zero => rfl
    | succ n => rw [List.take_succ_cons, Disk.makeDirectories, if_pos rfl, ih]
  | up _ ih =>
    cases n with
    | zero => rfl
    | succ n => rw [List.take_succ_cons, Disk.makeDirectories, if_neg (by decide), if_pos rfl, ih]
  | into hn hd _ ih =>
    cases n with
    | zero => rfl
    | succ n =>
      rw [List.take_succ_cons, Disk.makeDirectories, if_neg hn.1, if_neg hn.2.1, if_neg (Nat.not_lt.2 hn.2.2)]
      simp only [hd, ih]

structure Spared (d₀ : Disk) (tmp : Path) (d : Disk) : Prop where
  keeps : d₀.KeepsDirectories d
  same : ∀ q, q ≠ tmp → d.find? q = d₀.find? q

structure Staged (d₀ : Disk) (tmp : Path) (content : ByteArray) (d : Disk) : Prop extends Spared d₀ tmp d where
  found : d.find? tmp = some (.file content)

structure Published (d₀ : Disk) (tmp doc : Path) (content : ByteArray) (d : Disk) : Prop where
  keeps : d₀.KeepsDirectories d
  same : ∀ q, q ≠ doc → q ≠ tmp → d.find? q = d₀.find? q
  found : d.find? doc = some (.file content)

namespace Spared

variable {d₀ d d' : Disk} {tmp doc : Path} {content : ByteArray}

lemma refl (d₀ : Disk) (tmp : Path) : Spared d₀ tmp d₀ := ⟨fun _ hq => hq, fun _ _ => rfl⟩

lemma put (h : Spared d₀ tmp d) (hd : d.find? tmp ≠ some .directory) (content : ByteArray) :
    Spared d₀ tmp (d.put tmp (.file content)) where
  keeps q hq := keepsDirectories_put hd q (h.keeps q hq)
  same q hq := by rw [find?_put (ne_root_of_find? hd), if_neg hq, h.same q hq]

lemma remove (h : Spared d₀ tmp d) (hd : d.find? tmp ≠ some .directory) : Spared d₀ tmp (d.remove tmp) where
  keeps q hq := keepsDirectories_remove hd q (h.keeps q hq)
  same q hq := by rw [find?_remove (ne_root_of_find? hd), if_neg hq, h.same q hq]

lemma publish (h : Spared d₀ tmp d) (htmp : d.find? tmp = some (.file content))
    (hdoc : d.find? doc ≠ some .directory) :
    Published d₀ tmp doc content ((d.remove tmp).put doc (.file content)) := by
  have htmp' : d.find? tmp ≠ some .directory := by simp [htmp]
  have hfind (q : Path) : ((d.remove tmp).put doc (.file content)).find? q =
      if q = doc then some (.file content) else if q = tmp then none else d.find? q := by
    rw [find?_put (ne_root_of_find? hdoc), find?_remove (ne_root_of_find? htmp')]
  refine ⟨fun q hq => ?_, fun q hdoc hq => ?_, ?_⟩
  · have hq' := h.keeps q hq
    rw [hfind, if_neg (ne_of_find?_ne hdoc hq'), if_neg (ne_of_find?_ne htmp' hq'), hq']
  · rw [hfind, if_neg hdoc, if_neg hq, h.same q hq]
  · rw [hfind, if_pos rfl]

end Spared

end Disk

section replace

variable {w₀ : FailingDisk} {dir place : Path} {name : String} {content : ByteArray}

lemma Disk.Walk.eq_of_resolve_concat {d : Disk} {start p q : Path} (hw : d.Walk start p place) (hdot : name ≠ ".")
    (hdots : name ≠ "..") (h : d.resolve start (p ++ [name]) = .ok q) :
    IsName name ∧ q = place ++ [name] := by
  by_cases hlong : Disk.maxName < name.utf8ByteSize
  · rw [hw.resolve_concat_of_long hlong] at h
    cases h
  · have hn : IsName name := ⟨hdot, hdots, Nat.not_lt.1 hlong⟩
    rw [hw.resolve_concat hn] at h
    cases h
    exact ⟨hn, rfl⟩

lemma Disk.Walk.eq_of_resolve_temporary {d : Disk} {start p q : Path} (hw : d.Walk start p place)
    (h : d.resolve start (p ++ [name ++ temporarySuffix]) = .ok q) : q = place ++ [name ++ temporarySuffix] :=
  (hw.eq_of_resolve_concat (append_ne_of_short (by decide) name) (append_ne_of_short (by decide) name) h).2

namespace Disk.Spared

variable {d₀ d d' : Disk} (h : d₀.Spared (place ++ [name ++ temporarySuffix]) d) (hw : d₀.Walk [] dir place)

include h hw

lemma openFile (f : ByteArray → ByteArray) :
    d₀.Spared (place ++ [name ++ temporarySuffix]) (d.openFile (dir ++ [name ++ temporarySuffix]) f).2 := by
  rcases d.openFile_cases (dir ++ [name ++ temporarySuffix]) f with hd | ⟨p, c, hp, hdir, hd⟩
  · rwa [hd]
  · obtain rfl := (hw.mono h.keeps).eq_of_resolve_temporary hp
    rw [hd]
    exact h.put hdir c

lemma find?_of_openFile {f : ByteArray → ByteArray}
    (hr : d.openFile (dir ++ [name ++ temporarySuffix]) f = (.ok (), d')) :
    d'.find? (place ++ [name ++ temporarySuffix]) =
      some (.file (f (d.content (place ++ [name ++ temporarySuffix])))) := by
  obtain ⟨p, hp, hdir, rfl⟩ := openFile_eq_ok_iff.1 hr
  obtain rfl := (hw.mono h.keeps).eq_of_resolve_temporary hp
  rw [find?_put (ne_root_of_find? hdir), if_pos rfl]

lemma remove_run (hd : d.find? (place ++ [name ++ temporarySuffix]) ≠ some .directory) :
    let d' := ((Call.remove (dir ++ [name ++ temporarySuffix])).run d).2
    d₀.Spared (place ++ [name ++ temporarySuffix]) d' ∧
      d'.find? (place ++ [name ++ temporarySuffix]) ≠ some .directory := by
  rw [Call.run]
  cases hl : d.locate (dir ++ [name ++ temporarySuffix]) with
  | error f => exact ⟨h, hd⟩
  | ok found =>
    obtain ⟨p, e⟩ := found
    cases e with
    | directory => exact ⟨h, hd⟩
    | file c =>
      obtain rfl := (hw.mono h.keeps).eq_of_resolve_temporary (locate_eq_ok_iff.1 hl).1
      refine ⟨h.remove hd, ?_⟩
      rw [find?_remove (ne_root_of_find? hd), if_pos rfl]
      simp

lemma publish_run (htmp : d.find? (place ++ [name ++ temporarySuffix]) = some (.file content))
    (hdot : name ≠ ".") (hdots : name ≠ "..")
    (hr : (Call.rename (dir ++ [name ++ temporarySuffix]) (dir ++ [name])).run d = (.ok (), d')) :
    IsName name ∧ d₀.Published (place ++ [name ++ temporarySuffix]) (place ++ [name]) content d' := by
  rw [Call.run] at hr
  split at hr
  · cases hr
  · cases hr
  · rename_i p e q hl ht
    obtain ⟨hn, rfl⟩ := (hw.mono h.keeps).eq_of_resolve_concat hdot hdots ht
    obtain ⟨hs, he⟩ := Disk.locate_eq_ok_iff.1 hl
    obtain rfl := (hw.mono h.keeps).eq_of_resolve_temporary hs
    cases htmp.symm.trans he
    split at hr
    · cases hr
    · rename_i hdoc
      cases hr
      exact ⟨hn, h.publish htmp hdoc⟩

end Disk.Spared

lemma Call.rename_error {source target : Path} {d d' : Disk} {e : Fault}
    (h : (Call.rename source target).run d = (.error e, d')) : d' = d := by
  rw [Call.run] at h
  split at h
  · cases h
    rfl
  · cases h
    rfl
  · split at h <;> cases h
    rfl

def prepareCalls (dir : Path) : Nat := if dir = [] then 0 else 1

/-- The number of the call that renames, when a file is replaced. Three calls fill the file that is renamed. -/
def renameCall (dir : Path) : Nat := prepareCalls dir + 3

def ReachesRename (w : FailingDisk) (dir : Path) : Prop := ∀ i ≤ renameCall dir, w.failure? (w.calls + i) = none

structure Replaced (w : FailingDisk) (dir place : Path) (name : String) (content : ByteArray) (d : Disk) : Prop
    extends w.disk.Published (place ++ [name ++ temporarySuffix]) (place ++ [name]) content d where
  isName : IsName name
  reaches : ReachesRename w dir

def SyncFails (w : FailingDisk) (dir : Path) (fault : Fault) : Prop :=
  dir ≠ [] ∧ ∃ f, w.failure? (w.calls + (renameCall dir + 1)) = some f ∧ f.fault = fault

open FailingDisk

section runs

variable (hw : w₀.disk.Walk [] dir place)

include hw

lemma leads_prepare : Leads (At w₀ 0 (· = w₀.disk)) (prepare dir : ExceptT Fault (StateM FailingDisk) Unit)
    (fun _ => At w₀ (prepareCalls dir) (· = w₀.disk)) (fun _ => OnDisk (· = w₀.disk)) := by
  have hrun : (Call.makeDirectories dir).run w₀.disk = (.ok (), w₀.disk) := hw.makeDirectories
  by_cases hdir : dir = []
  · rw [prepare, prepareCalls, if_neg fun h => h hdir, if_pos hdir]
    exact .pure fun _ h => h
  · rw [prepare, prepareCalls, if_pos hdir, if_neg hdir]
    refine leads_ask ?_ ?_ ?_
    · rintro d _ d' rfl hr
      cases hrun.symm.trans hr
      rfl
    · rintro d e d' rfl hr
      cases hrun.symm.trans hr
    · rintro d f rfl -
      exact congrArg Prod.snd (hw.makeDirectories_take f.done)

lemma leads_create {n : Nat} : Leads (At w₀ n (· = w₀.disk))
    (ask (.create (dir ++ [name ++ temporarySuffix])) : ExceptT Fault (StateM FailingDisk) Unit)
    (fun _ => At w₀ (n + 1) (w₀.disk.Staged (place ++ [name ++ temporarySuffix]) .empty))
    (fun _ => OnDisk (w₀.disk.Spared (place ++ [name ++ temporarySuffix]))) := by
  have hspared := Disk.Spared.refl w₀.disk (place ++ [name ++ temporarySuffix])
  refine leads_ask ?_ ?_ ?_
  · rintro d _ d' rfl hr
    have hopen := hspared.openFile hw fun _ => .empty
    rw [show w₀.disk.openFile _ _ = _ from hr] at hopen
    exact ⟨hopen, hspared.find?_of_openFile hw hr⟩
  · rintro d e d' rfl hr
    have hopen := hspared.openFile hw fun _ => .empty
    rwa [show w₀.disk.openFile _ _ = _ from hr] at hopen
  · rintro d f rfl -
    exact hspared

lemma leads_append {n : Nat} : Leads (At w₀ n (w₀.disk.Staged (place ++ [name ++ temporarySuffix]) .empty))
    (ask (.append (dir ++ [name ++ temporarySuffix]) content) : ExceptT Fault (StateM FailingDisk) Unit)
    (fun _ => At w₀ (n + 1) (w₀.disk.Staged (place ++ [name ++ temporarySuffix]) content))
    (fun _ => OnDisk (w₀.disk.Spared (place ++ [name ++ temporarySuffix]))) := by
  refine leads_ask ?_ ?_ ?_
  · intro d _ d' hd hr
    have hopen := hd.openFile hw (· ++ content)
    rw [show d.openFile _ _ = _ from hr] at hopen
    refine ⟨hopen, ?_⟩
    rw [hd.find?_of_openFile hw hr, Disk.content, hd.found]
    simp
  · intro d e d' hd hr
    have hopen := hd.openFile hw (· ++ content)
    rwa [show d.openFile _ _ = _ from hr] at hopen
  · intro d f hd _
    -- a part of the content is no harm in a file that nobody reads
    exact hd.openFile hw (· ++ content.extract 0 f.done)

omit hw in
lemma leads_sync {n : Nat} {P : Disk → Prop} (p : Path) : Leads (At w₀ n P)
    (ask (.sync p) : ExceptT Fault (StateM FailingDisk) Unit) (fun _ => At w₀ (n + 1) P) (fun _ => OnDisk P) := by
  refine leads_ask ?_ ?_ ?_
  · intro d _ d' hd hr
    cases congrArg Prod.snd hr
    exact hd
  · intro d e d' hd hr
    cases congrArg Prod.snd hr
    exact hd
  · exact fun d f hd _ => hd

lemma leads_renameOrRemove {n : Nat} (hdot : name ≠ ".") (hdots : name ≠ "..") :
    Leads (At w₀ n (w₀.disk.Staged (place ++ [name ++ temporarySuffix]) content))
      (renameOrRemove (dir ++ [name ++ temporarySuffix]) (dir ++ [name]) : ExceptT Fault (StateM FailingDisk) Unit)
      (fun _ => At w₀ (n + 1) fun d => IsName name ∧
        w₀.disk.Published (place ++ [name ++ temporarySuffix]) (place ++ [name]) content d)
      (fun _ => OnDisk (w₀.disk.Spared (place ++ [name ++ temporarySuffix]))) := by
  let tmp := place ++ [name ++ temporarySuffix]
  let Removable (d : Disk) : Prop := w₀.disk.Spared tmp d ∧ d.find? tmp ≠ some .directory
  have hrename : Leads (At w₀ n (w₀.disk.Staged tmp content))
      (ask (.rename (dir ++ [name ++ temporarySuffix]) (dir ++ [name])) : ExceptT Fault (StateM FailingDisk) Unit)
      (fun _ => At w₀ (n + 1) fun d => IsName name ∧ w₀.disk.Published tmp (place ++ [name]) content d)
      (fun _ => OnDisk Removable) := by
    have hremovable {d : Disk} (h : w₀.disk.Staged tmp content d) : Removable d :=
      ⟨h.toSpared, by simp [h.found]⟩
    refine leads_ask ?_ ?_ ?_
    · exact fun d _ d' hd hr => hd.publish_run hw hd.found hdot hdots hr
    · intro d e d' hd hr
      rw [Call.rename_error hr]
      exact hremovable hd
    · exact fun d f hd _ => hremovable hd
  have hremove : Leads (OnDisk Removable)
      (ask (.remove (dir ++ [name ++ temporarySuffix])) : ExceptT Fault (StateM FailingDisk) Unit)
      (fun _ => OnDisk Removable) (fun _ => OnDisk Removable) :=
    leads_ask_always (fun d hd => hd.1.remove_run hw hd.2) fun d k hd => hd
  exact hrename.tryCatch fun fault => (hremove.tryCatch fun _ => .pure fun _ h => h).bind fun _ =>
    .throw fun _ h => h.1

lemma leads_syncDirectory {n : Nat} {P : Disk → Prop} (hP : ∀ d, P d → w₀.disk.KeepsDirectories d)
    (hn : n = renameCall dir + 1) :
    Leads (At w₀ n P) (if dir ≠ [] then ask (.sync dir) else pure () : ExceptT Fault (StateM FailingDisk) Unit)
      (fun _ => OnDisk P) (fun fault w => SyncFails w₀ dir fault ∧ OnDisk P w) := by
  by_cases hdir : dir = []
  · rw [if_neg fun h => h hdir]
    exact .pure fun _ h => h.2
  · rw [if_pos hdir]
    refine (leads_ask (Q := fun _ => P) (E := fun fault d => SyncFails w₀ dir fault ∧ P d) ?_ ?_ ?_).imp
      (fun _ h => h) (fun _ _ h => h.2) (fun _ _ h => h)
    · intro d _ d' hd hr
      cases congrArg Prod.snd hr
      exact hd
    · intro d e d' hd hr
      cases (hw.mono (hP d hd)).sync.symm.trans hr
    · exact fun d f hd hf => ⟨⟨hdir, f, hn ▸ hf, rfl⟩, hd⟩

lemma leads_replace (content : ByteArray) (hdot : name ≠ ".") (hdots : name ≠ "..") :
    Leads (· = w₀) (replace (dir ++ [name]) content : ExceptT Fault (StateM FailingDisk) Unit)
      (fun _ => OnDisk (Replaced w₀ dir place name content))
      (fun fault w => OnDisk (w₀.disk.Spared (place ++ [name ++ temporarySuffix])) w ∨ SyncFails w₀ dir fault ∧
        OnDisk (Replaced w₀ dir place name content) w) := by
  let tmp := place ++ [name ++ temporarySuffix]
  let Done := Replaced w₀ dir place name content
  have hspared {x : ExceptT Fault (StateM FailingDisk) Unit} {P : FailingDisk → Prop} {Q : Unit → FailingDisk → Prop}
      (h : Leads P x Q fun _ => OnDisk (w₀.disk.Spared tmp)) :
      Leads P x Q fun fault w => OnDisk (w₀.disk.Spared tmp) w ∨ SyncFails w₀ dir fault ∧ OnDisk Done w :=
    h.imp (fun _ h => h) (fun _ _ h => h) fun _ _ h => .inl h
  have hprepare : Leads (· = w₀) (prepare dir : ExceptT Fault (StateM FailingDisk) Unit)
      (fun _ => At w₀ (prepareCalls dir) (· = w₀.disk)) fun _ => OnDisk (w₀.disk.Spared tmp) := by
    refine (leads_prepare hw).imp ?_ (fun _ _ h => h) ?_
    · rintro w rfl
      exact ⟨.start w, rfl⟩
    · intro _ w h
      rw [OnDisk, show w.disk = w₀.disk from h]
      exact .refl _ _
  have hsync : Leads (At w₀ (prepareCalls dir + 2) (w₀.disk.Staged tmp content))
      (ask (.sync (dir ++ [name ++ temporarySuffix])) : ExceptT Fault (StateM FailingDisk) Unit)
      (fun _ => At w₀ (renameCall dir) (w₀.disk.Staged tmp content)) fun _ => OnDisk (w₀.disk.Spared tmp) :=
    (leads_sync _).imp (fun _ h => h) (fun _ _ h => h) fun _ _ h => h.toSpared
  have hrename : Leads (At w₀ (renameCall dir) (w₀.disk.Staged tmp content))
      (renameOrRemove (dir ++ [name ++ temporarySuffix]) (dir ++ [name]) : ExceptT Fault (StateM FailingDisk) Unit)
      (fun _ => At w₀ (renameCall dir + 1) Done) fun _ => OnDisk (w₀.disk.Spared tmp) :=
    (leads_renameOrRemove hw hdot hdots).imp (fun _ h => h)
      (fun _ _ h => ⟨h.1, h.2.2, h.2.1, fun i hi => h.1.none i (Nat.lt_succ_of_le hi)⟩) (fun _ _ h => h)
  have hdurable : Leads (At w₀ (renameCall dir + 1) Done)
      (if dir ≠ [] then ask (.sync dir) else pure () : ExceptT Fault (StateM FailingDisk) Unit) (fun _ => OnDisk Done)
      fun fault w => OnDisk (w₀.disk.Spared tmp) w ∨ SyncFails w₀ dir fault ∧ OnDisk Done w :=
    (leads_syncDirectory hw (fun _ h => h.keeps) rfl).imp (fun _ h => h) (fun _ _ h => h) fun _ _ h => .inr h
  rw [replace_eq, install]
  exact (hspared hprepare).bind fun _ => (hspared (leads_create hw)).bind fun _ =>
    (hspared (leads_append hw)).bind fun _ => (hspared hsync).bind fun _ => (hspared hrename).bind fun _ => hdurable

end runs

end replace

end Specimen.Files
