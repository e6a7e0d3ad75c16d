import Specimen.Proofs.Program.Readable

namespace Specimen

namespace Files.Disk

variable {P : Path → Prop} {d d' d'' : Disk} {start p place q : Path}

lemma resolve_mono (h : d.resolve start p = .ok place) (hk : d.KeepsDirectories d') :
    d'.resolve start p = .ok place := by
  induction p generalizing start with
  | nil => exact h
  | cons name rest ih =>
    rw [resolve] at h ⊢
    by_cases hdot : name = "."
    · rw [if_pos hdot] at h ⊢
      exact ih h
    rw [if_neg hdot] at h ⊢
    by_cases hdots : name = ".."
    · rw [if_pos hdots] at h ⊢
      exact ih h
    rw [if_neg hdots] at h ⊢
    by_cases hlong : maxName < name.utf8ByteSize
    · rw [if_pos hlong] at h
      cases h
    rw [if_neg hlong] at h ⊢
    by_cases hlast : rest = []
    · rw [if_pos hlast] at h ⊢
      exact h
    rw [if_neg hlast] at h ⊢
    cases hthere : d.find? (start ++ [name]) with
    | none => simp [hthere] at h
    | some e =>
      cases e with
      | file content => simp [hthere] at h
      | directory =>
        simp only [hthere] at h
        simp only [hk _ hthere]
        exact ih h

lemma content_congr (h : d'.find? q = d.find? q) : d'.content q = d.content q := by
  rw [content, content, h]

lemma content_of_find? {content : ByteArray} (h : d.find? q = some (.file content)) : d.content q = content := by
  rw [Disk.content, h]

def GrownAt (P : Path → Prop) (d d' : Disk) (q : Path) : Prop :=
  d'.find? q = d.find? q ∨
    P q ∧ d.find? q ≠ some .directory ∧ ∃ more, d'.find? q = some (.file (d.content q ++ more))

def Grown (P : Path → Prop) (d d' : Disk) : Prop := ∀ q, d.GrownAt P d' q

lemma GrownAt.trans (h : d.GrownAt P d' q) (h' : d'.GrownAt P d'' q) : d.GrownAt P d'' q := by
  rcases h with hq | ⟨hP, hfile, more, hq⟩
  · rcases h' with hq' | ⟨hP, hfile, more, hq'⟩
    · exact .inl (hq'.trans hq)
    · exact .inr ⟨hP, hq ▸ hfile, more, content_congr hq ▸ hq'⟩
  · refine .inr ⟨hP, hfile, ?_⟩
    rcases h' with hq' | ⟨-, -, further, hq'⟩
    · exact ⟨more, hq'.trans hq⟩
    · rw [content_of_find? hq, ByteArray.append_assoc] at hq'
      exact ⟨more ++ further, hq'⟩

namespace Grown

lemma refl (P : Path → Prop) (d : Disk) : d.Grown P d := fun _ => .inl rfl

lemma trans (h : d.Grown P d') (h' : d'.Grown P d'') : d.Grown P d'' := fun q => (h q).trans (h' q)

lemma mono {P' : Path → Prop} (h : d.Grown P d') (hP : ∀ q, P q → P' q) : d.Grown P' d' :=
  fun q => (h q).imp_right fun ⟨hq, hmore⟩ => ⟨hP q hq, hmore⟩

lemma keepsDirectories (h : d.Grown P d') : d.KeepsDirectories d' := by
  intro q hq
  rcases h q with hsame | ⟨-, hfile, -⟩
  · exact hsame.trans hq
  · exact absurd hq hfile

lemma keepsDirectories_back (h : d.Grown P d') : d'.KeepsDirectories d := by
  intro q hq
  rcases h q with hsame | ⟨-, -, more, hmore⟩
  · exact hsame.symm.trans hq
  · cases hmore.symm.trans hq

lemma find?_eq {e : Option Entry} (h : d.Grown P d') (hq : ¬ P q) (he : d.find? q = e) : d'.find? q = e := by
  rcases h q with hsame | ⟨hP, -⟩
  · exact hsame.trans he
  · exact absurd hP hq

lemma find?_file {content : ByteArray} (h : d.Grown P d') (hq : d.find? q = some (.file content)) :
    ∃ lines, d'.find? q = some (.file (content ++ lines)) ∧ (¬ P q → lines = .empty) := by
  rcases h q with hsame | ⟨hP, -, more, hmore⟩
  · exact ⟨.empty, by rw [hsame, hq, ByteArray.append_empty], fun _ => rfl⟩
  · rw [content_of_find? hq] at hmore
    exact ⟨more, hmore, fun hnot => absurd hP hnot⟩

lemma of_put (hplace : P place) (hfile : d.find? place ≠ some .directory) (more : ByteArray) :
    d.Grown P (d.put place (.file (d.content place ++ more))) := by
  intro q
  rw [GrownAt, find?_put (ne_root_of_find? hfile)]
  by_cases hq : q = place
  · subst hq
    rw [if_pos rfl]
    exact .inr ⟨hplace, hfile, more, rfl⟩
  · rw [if_neg hq]
    exact .inl rfl

lemma of_openFile {f : ByteArray → ByteArray} (hf : ∀ c, ∃ more, f c = c ++ more)
    (hp : ∀ place, d.resolve [] p = .ok place → P place) : d.Grown P (d.openFile p f).2 := by
  rcases d.openFile_cases p f with hsame | ⟨place, -, hplace, hfile, -⟩
  · rw [hsame]
    exact refl P d
  · obtain ⟨more, hmore⟩ := hf (d.content place)
    rw [openFile_eq_ok_iff.2 ⟨place, hplace, hfile, rfl⟩, hmore]
    exact of_put (hp place hplace) hfile more

end Grown

end Files.Disk

open Files CommandLine

def LogPlace (file : Option Path) (d : Disk) (q : Path) : Prop := ∃ p ∈ file, d.resolve [] p = .ok q

def LogOpen (file : Option Path) (d : Disk) : Prop := ∀ p ∈ file, ∃ place, d.resolve [] p = .ok place

lemma LogPlace.of_keeps {file : Option Path} {d d' : Disk} {q : Path} (h : LogPlace file d' q) (hopen : LogOpen file d)
    (hk : d.KeepsDirectories d') : LogPlace file d q := by
  obtain ⟨p, hp, hq⟩ := h
  obtain ⟨place, hplace⟩ := hopen p hp
  cases (Disk.resolve_mono hplace hk).symm.trans hq
  exact ⟨p, hp, hplace⟩

namespace Logger

variable {log : Logger} {d : Disk} {w : Machine}

lemma grown_emit (hopen : LogOpen log.file d) (hk : d.KeepsDirectories w.disk) (e : Log.Event) :
    w.disk.Grown (LogPlace log.file d) ((log.emit e : StateM Machine Unit).run w).2.disk := by
  rw [emit]
  split
  · cases hfile : log.file with
    | none => exact .refl _ _
    | some p =>
      have hgrown : w.disk.Grown (LogPlace (some p) w.disk) ((Call.append p (line log.format e).toUTF8).run w.disk).2 :=
        .of_openFile (fun c => ⟨_, rfl⟩) fun place hplace => ⟨p, rfl, hplace⟩
      rw [hfile] at hopen
      exact hgrown.mono fun q hq => hq.of_keeps hopen hk
  · exact .refl _ _

lemma grown_emitAll (hopen : LogOpen log.file d) (hk : d.KeepsDirectories w.disk) (l : List Log.Event) :
    w.disk.Grown (LogPlace log.file d) ((log.emitAll l : StateM Machine Unit).run w).2.disk := by
  induction l generalizing w with
  | nil => exact .refl _ _
  | cons e rest ih =>
    have hfirst := grown_emit hopen hk e
    exact hfirst.trans (ih fun q hq => hfirst.keepsDirectories q (hk q hq))

end Logger

structure OnlyLogged (file : Option Path) (w w' : Machine) : Prop where
  output : w'.output = w.output
  disk : w.disk.Grown (LogPlace file w.disk) w'.disk

namespace OnlyLogged

variable {file : Option Path} {log : Logger} {w w' : Machine}

lemma refl (file : Option Path) (w : Machine) : OnlyLogged file w w := ⟨rfl, .refl _ _⟩

lemma emitAll (h : OnlyLogged log.file w w') (hopen : LogOpen log.file w.disk) (l : List Log.Event) :
    OnlyLogged log.file w ((log.emitAll l : StateM Machine Unit).run w').2 where
  output := (log.output_of_emitAll w' l).trans h.output
  disk := h.disk.trans (Logger.grown_emitAll hopen h.disk.keepsDirectories l)

end OnlyLogged

namespace Program

def prepareLog (logFile : Option String) : ExceptT ProgramError (StateM Machine) Unit :=
  match logFile.map Path.ofText with
  | some path => (Files.ask (.touch path)).adapt .logging
  | none => pure ()

lemma openLog_eq (i : Invocation) (filter : String) : openLog i filter = (do
    prepareLog i.logFile
    return ⟨i.logFormat, .ofText filter, i.logFile.map Path.ofText⟩) := by
  rw [openLog, prepareLog]
  cases i.logFile <;> rfl

lemma leads_prepareLog (logFile : Option String) (w : Machine) :
    Leads (· = w) (prepareLog logFile)
      (fun _ w' => LogOpen (logFile.map Path.ofText) w.disk ∧ OnlyLogged (logFile.map Path.ofText) w w')
      (fun _ w' => OnlyLogged (logFile.map Path.ofText) w w') := by
  rw [prepareLog]
  cases logFile with
  | none =>
    have hopen : LogOpen none w.disk := fun _ hp => by cases hp
    apply Leads.pure
    rintro _ rfl
    exact ⟨hopen, .refl _ _⟩
  | some name =>
    let p := Path.ofText name
    have hlogged : OnlyLogged (some p) w { w with disk := (w.disk.openFile p id).2 } :=
      ⟨rfl, .of_openFile (fun c => ⟨.empty, by simp⟩) fun place hplace => ⟨p, rfl, hplace⟩⟩
    constructor
    · rintro _ _ w' rfl hrun
      obtain ⟨hok, rfl⟩ := Prod.mk.inj (run_adapt_eq_ok_iff.1 hrun)
      obtain ⟨place, hplace, -⟩ := Disk.openFile_eq_ok_iff.1 (Prod.ext hok rfl)
      refine ⟨?_, hlogged⟩
      rintro _ ⟨⟩
      exact ⟨place, hplace⟩
    · rintro _ _ w' rfl hrun
      cases congrArg Prod.snd hrun
      exact hlogged

end Program

end Specimen
