import Specimen.Proofs.Entries
import Specimen.Proofs.Settings.Setting

namespace Specimen.CommandLine

open Settings (Layer)

def spell (p : String × String) : String := "--" ++ p.1 ++ "=" ++ p.2

lemma ofText_spell {name : String} (hname : '=' ∉ name.toList) (text : String) :
    Word.ofText (spell (name, text)) = .long name (some text) := by
  have hlist : (spell (name, text)).toList = '-' :: '-' :: (name.toList ++ '=' :: text.toList) := by
    simp [spell]
  have hall : ∀ c ∈ name.toList, decide (c ≠ '=') = true := fun c hc =>
    decide_eq_true (ne_of_mem_of_not_mem hc hname)
  have hdrop : (name.toList ++ '=' :: text.toList).dropWhile (· ≠ '=') = '=' :: text.toList := by
    rw [List.dropWhile_append_of_pos hall, List.dropWhile_cons_of_neg (by decide)]
  have htake : (name.toList ++ '=' :: text.toList).takeWhile (· ≠ '=') = name.toList := by
    rw [List.takeWhile_append_of_pos hall, List.takeWhile_cons_of_neg (by decide), List.append_nil]
  rw [Word.ofText, hlist]
  cases hrest : name.toList ++ '=' :: text.toList with
  | nil => simp at hrest
  | cons c rest =>
    rw [hrest] at hdrop htake
    simp only [hdrop, htake, String.ofList_toList]

namespace Level

variable {ρ : Type} {level : Level ρ}

structure Accepts (level : Level ρ) (name text : String) (change : ρ → ρ) : Prop where
  flag : ∃ flag, level.flags.find? (·.name = name) = some flag ∧ flag.read text = .ok change
  plain : '=' ∉ name.toList
  ne_help : name ≠ helpWord

lemma scan_spell (hcommands : level.commands = []) (hversion : level.hasVersion = false) {name text : String}
    {change : ρ → ρ} (h : level.Accepts name text change) {m : Matches ρ} (hpending : m.pending = none)
    (hnew : name ∉ m.given) (rest : List String) :
    level.scan m (spell (name, text) :: rest) = level.scan ⟨change m.values, name :: m.given, none⟩ rest := by
  obtain ⟨flag, hfind, hread⟩ := h.flag
  have hflag : flag.name = name := by simpa using List.find?_some hfind
  have hstep : level.step m (spell (name, text)) (.long name (some text)) =
      .ok ⟨change m.values, name :: m.given, none⟩ := by
    have hrequest : level.request? name = none := by
      rw [request?, if_neg h.ne_help, if_neg]
      simp [hversion]
    simp only [step, hrequest, hfind, Matches.settle, hpending, Except.bind, Matches.accept, hflag, if_neg hnew, hread]
  rw [scan, isCommand, hcommands, if_neg (by simp), ofText_spell h.plain]
  · simp only [hstep]
  · simp [ofText_spell h.plain]

end Level

lemma Flag.read_onSecond_of {ρ τ α : Type} {name text : String} {read : String → Except ValueFault α}
    {set : α → τ → τ} {a : α} (h : read text = .ok a) :
    ((Flag.of name read set).onSecond : Flag (ρ × τ)).read text = .ok fun p => (p.1, set a p.2) := by
  simp only [onSecond, of, h]
  rfl

def serveLevel : Level (LogFlags × ServeFlags) :=
  ⟨LogFlags.flags.map Flag.onFirst ++ ServeFlags.flags.map Flag.onSecond, [], false⟩

lemma accepts_config {path : String} (h : path ≠ "") :
    serveLevel.Accepts "config" path fun p => (p.1, { p.2 with config := some path }) where
  flag := by
    have hread : readPath path = .ok path := by rw [readPath, if_neg h]
    exact ⟨_, by rfl, Flag.read_onSecond_of hread⟩
  plain := by decide
  ne_help := by decide

lemma accepts_setting {α : Type} (x : Setting α) {text : String} {a : α} (h : x.ofWord text = .ok a) :
    serveLevel.Accepts x.flagName text fun p => (p.1, p.2.onLayer (x.put a)) where
  flag := by
    let flag : Flag ServeFlags := .of x.flagName x.ofWord fun a => ServeFlags.onLayer (x.put a)
    refine ⟨flag.onSecond, ?_, Flag.read_onSecond_of h⟩
    cases x <;> rfl
  plain := by cases x <;> decide
  ne_help := by cases x <;> decide

structure Assigns (assigned : List (String × String)) (config : Option String) (l : Layer) : Prop where
  nodup : (Entries.keys assigned).Nodup
  known : ∀ name ∈ Entries.keys assigned, name = "config" ∨ ∃ (α : Type) (x : Setting α), name = x.flagName
  config : Entries.find? "config" assigned = config ∧ config ≠ some ""
  given : ∀ (α : Type) (x : Setting α), (Entries.find? x.flagName assigned).map x.ofWord = (x.given l).map .ok

structure Turns (assigned : List (String × String)) (f f' : ServeFlags) : Prop where
  config : f'.config = (Entries.find? "config" assigned).or f.config
  given : ∀ (α : Type) (x : Setting α), (x.given f'.layer).map .ok =
    ((Entries.find? x.flagName assigned).map x.ofWord).or ((x.given f.layer).map .ok)

lemma Turns.cons {p : String × String} {rest : List (String × String)} {f f' f'' : ServeFlags} (h : Turns [p] f f')
    (hrest : Turns rest f' f'') (hnew : p.1 ∉ Entries.keys rest) : Turns (p :: rest) f f'' := by
  have hfind (name : String) : Entries.find? name (p :: rest) =
      (Entries.find? name rest).or (Entries.find? name [p]) := by
    rw [Entries.find?_cons, Entries.find?_cons]
    by_cases hname : name = p.1
    · rw [if_pos hname, if_pos hname, hname, Entries.find?_eq_none_iff.2 hnew, Option.none_or]
    · rw [if_neg hname, if_neg hname, Entries.find?, Option.or_none]
  constructor
  · rw [hrest.config, h.config, hfind, Option.or_assoc]
  · intro α x
    rw [hrest.given, h.given, hfind, Option.map_or, Option.or_assoc]

inductive Legible : String × String → Prop
  | config {path} : path ≠ "" → Legible ("config", path)
  | setting {α : Type} {x : Setting α} {text a} : x.ofWord text = .ok a → Legible (x.flagName, text)

lemma flagName_ne_config {α : Type} (x : Setting α) : x.flagName ≠ "config" := by
  cases x <;> decide

lemma turns_config (path : String) (f : ServeFlags) : Turns [("config", path)] f { f with config := some path } where
  config := by rfl
  given α x := by
    rw [Entries.find?_cons, if_neg (flagName_ne_config x)]
    rfl

lemma turns_setting {α : Type} (x : Setting α) {text : String} {a : α} (h : x.ofWord text = .ok a) (f : ServeFlags) :
    Turns [(x.flagName, text)] f (f.onLayer (x.put a)) where
  config := by
    rw [Entries.find?_cons, if_neg (flagName_ne_config x).symm]
    rfl
  given β y := by
    rw [Entries.find?_cons, ServeFlags.onLayer]
    by_cases hname : y.flagName = x.flagName
    · obtain ⟨rfl, hsame⟩ := Setting.eq_of_flagName hname
      obtain rfl := eq_of_heq hsame
      rw [if_pos rfl, Setting.given_put_self, Option.map_some, Option.map_some, h, Option.some_or]
    · rw [if_neg hname, Setting.given_put_of_ne hname]
      rfl

lemma Legible.accepts {p : String × String} (h : Legible p) :
    ∃ change : ServeFlags → ServeFlags, serveLevel.Accepts p.1 p.2 (fun q => (q.1, change q.2)) ∧
      ∀ f, Turns [p] f (change f) := by
  cases h with
  | config hpath => exact ⟨_, accepts_config hpath, turns_config _⟩
  | setting hread => exact ⟨_, accepts_setting _ hread, turns_setting _ hread⟩

lemma exists_scan_of_legible {assigned : List (String × String)} (hlegible : ∀ p ∈ assigned, Legible p)
    (hnodup : (Entries.keys assigned).Nodup) {m : Matches (LogFlags × ServeFlags)} (hpending : m.pending = none)
    (hnew : ∀ name ∈ Entries.keys assigned, name ∉ m.given) :
    ∃ m', serveLevel.scan m (assigned.map spell) = .ok (m', none) ∧ m'.pending = none ∧
      m'.values.1 = m.values.1 ∧ Turns assigned m.values.2 m'.values.2 := by
  induction assigned generalizing m with
  | nil => exact ⟨m, rfl, hpending, rfl, rfl, fun _ _ => rfl⟩
  | cons p rest ih =>
    obtain ⟨change, haccepts, hturns⟩ := (hlegible p List.mem_cons_self).accepts
    obtain ⟨hp, hrest⟩ := List.nodup_cons.1 hnodup
    have hstep := serveLevel.scan_spell rfl rfl haccepts hpending (hnew p.1 List.mem_cons_self) (rest.map spell)
    have hothers : ∀ name ∈ Entries.keys rest, name ∉ p.1 :: m.given := by
      intro name hname
      rw [List.mem_cons, not_or]
      exact ⟨fun h => hp (h ▸ hname), hnew name (List.mem_cons_of_mem _ hname)⟩
    obtain ⟨m', hscan, hsettled, hlog, hm'⟩ := ih (fun q hq => hlegible q (List.mem_cons_of_mem _ hq)) hrest
      (m := ⟨(m.values.1, change m.values.2), p.1 :: m.given, none⟩) rfl hothers
    exact ⟨m', hstep.trans hscan, hsettled, hlog, (hturns _).cons hm' hp⟩

namespace Assigns

variable {assigned : List (String × String)} {config : Option String} {l : Layer} (h : Assigns assigned config l)

include h

lemma legible : ∀ p ∈ assigned, Legible p := by
  rintro ⟨name, text⟩ hp
  have hfind : Entries.find? name assigned = some text := Entries.find?_of_mem h.nodup hp
  rcases h.known name (List.mem_map_of_mem hp) with rfl | ⟨α, x, rfl⟩
  · have hconfig := h.config.1.symm.trans hfind
    exact .config fun htext => h.config.2 (htext ▸ hconfig)
  · have hgiven := h.given α x
    rw [hfind] at hgiven
    obtain ⟨a, -, ha⟩ := Option.map_eq_some_iff.1 hgiven.symm
    exact .setting ha.symm

theorem ofArguments : Invocation.ofArguments ("serve" :: assigned.map spell) = .ok ⟨.pretty, none, .serve config l⟩ := by
  obtain ⟨m, hscan, hsettled, hlog, hturns⟩ := exists_scan_of_legible h.legible h.nodup
    (m := .start ({}, {})) rfl (fun _ _ => List.not_mem_nil)
  have hturns : Turns assigned {} m.values.2 := hturns
  have hconfig : m.values.2.config = config := by
    rw [hturns.config, h.config.1]
    exact Option.or_none
  have hlayer : m.values.2.layer = l := by
    apply Layer.ext_given
    intro α x
    have hgiven := hturns.given α x
    rw [h.given, x.given_empty, Option.map_none, Option.or_none] at hgiven
    exact Option.map_injective (fun _ _ => Except.ok.inj) hgiven
  have htop : topLevel.scan (.start {}) ("serve" :: assigned.map spell) =
      .ok (.start {}, some ("serve", assigned.map spell)) := by
    have hcommand : topLevel.isCommand "serve" = true := by decide
    have hword : Word.ofText "serve" = .plain := by decide
    rw [Level.scan, hcommand]
    · rfl
    · simp [hword]
  have hread : readFlags ServeFlags.flags {} (assigned.map spell) = .ok m.values := by
    have hsettle : m.settle = .ok m := by rw [Matches.settle, hsettled]
    change serveLevel.read _ _ = _
    simp only [Level.read, hscan, bind, Except.bind, hsettle]
    rfl
  have hcommand : readCommand "serve" (assigned.map spell) = .ok ({}, .serve config l) := by
    rw [← hconfig, ← hlayer]
    simp only [readCommand, hread, bind, Except.bind]
    rw [hlog]
    rfl
  simp only [Invocation.ofArguments, htop, bind, Except.bind, hcommand]
  rfl

end Assigns

end Specimen.CommandLine
