import Specimen.Proofs.Engine.Counters
import Specimen.Proofs.Engine.Leaves
import Specimen.Proofs.Engine.Outlines
import Specimen.Proofs.Generator.Halting

namespace Specimen

namespace Walker

variable {α β : Type} {limit : UInt64} {m : Walker WordCycle α} {n k : Nat} {a : α} {b : β}

/-- There are words of which the walker gives the value. It makes so many values, which have to be within the limit. -/
def Reaches (limit : UInt64) (m : Walker WordCycle α) (n : Nat) (a : α) : Prop :=
  ∃ ws, ∀ before after w, w.source = .midway before (ws ++ after) → w.values + n ≤ limit.toNat →
    ∃ w', m w = .ok a w' ∧ w'.source = .midway (before ++ ws) after ∧ w'.values = w.values + n

namespace Reaches

lemma pure (a : α) : Reaches limit (Pure.pure a) 0 a :=
  ⟨[], fun before after w hw _ => ⟨w, rfl, by rwa [List.append_nil], rfl⟩⟩

lemma bind {f : α → Walker WordCycle β} (hm : Reaches limit m n a) (hf : Reaches limit (f a) k b) :
    Reaches limit (m >>= f) (n + k) b := by
  obtain ⟨ws, hws⟩ := hm
  obtain ⟨vs, hvs⟩ := hf
  refine ⟨ws ++ vs, fun before after w hw hroom => ?_⟩
  obtain ⟨u, hu, hsource, hvalues⟩ := hws before (vs ++ after) w (by rw [hw, List.append_assoc]) (by omega)
  obtain ⟨v, hv, hsource, hvalues'⟩ := hvs (before ++ ws) after u hsource (by omega)
  exact ⟨v, bind_eq_ok_iff.2 ⟨a, u, hu, hv⟩, by rw [hsource, List.append_assoc], by omega⟩

lemma after {f : α → Walker WordCycle β} (hm : Reaches limit m 0 a) (hf : Reaches limit (f a) k b) :
    Reaches limit (m >>= f) k b := by
  simpa using hm.bind hf

lemma map (f : α → β) (hm : Reaches limit m n a) : Reaches limit (do let a ← m; return f a) n (f a) := by
  rw [← Nat.add_zero n]
  exact hm.bind (.pure (f a))

lemma gather {step : Walker WordCycle (α × β)} {cost : α → Nat} {items : List α}
    (h : ∀ a ∈ items, ∃ b, Reaches limit step (cost a) (a, b)) (before : List (α × β)) :
    ∃ made, made.map Prod.fst = items ∧
      Reaches limit (Walker.gather step items.length before) (items.map cost).sum (before.reverse ++ made) := by
  induction items generalizing before with
  | nil => exact ⟨[], rfl, by simpa using .pure before.reverse⟩
  | cons a rest ih =>
    obtain ⟨⟨b, hb⟩, hrest⟩ := List.forall_mem_cons.1 h
    obtain ⟨made, hmade, hgather⟩ := ih hrest ((a, b) :: before)
    refine ⟨(a, b) :: made, by rw [List.map_cons, hmade], ?_⟩
    rw [List.reverse_cons, List.append_assoc, List.singleton_append] at hgather
    rw [List.map_cons, List.sum_cons]
    exact hb.bind hgather

end Reaches

lemma reaches_spend : Reaches limit (spend limit) 1 () := by
  refine ⟨[], fun before after w hw hroom => ⟨{ w with values := w.values + 1 }, ?_, ?_, rfl⟩⟩
  · rw [spend, if_neg (by omega)]
  · rwa [List.append_nil]

lemma reaches_record (f : Report → Report) : Reaches limit (record f) 0 () :=
  ⟨[], fun before after w hw _ => ⟨{ w with report := f w.report }, rfl, by rwa [List.append_nil], rfl⟩⟩

lemma reaches_checkpoint : Reaches limit (checkpoint false) 0 () :=
  ⟨[], fun before after w hw _ => ⟨w, rfl, by rwa [List.append_nil], rfl⟩⟩

lemma reaches_draw {d : StateM WordCycle α} (h : Attains d a) : Reaches limit (draw d) 0 a := by
  obtain ⟨ws, hws⟩ := h
  refine ⟨ws, fun before after w hw _ => ⟨{ w with source := .midway (before ++ ws) after }, ?_, rfl, rfl⟩⟩
  rw [draw, hw, hws]

lemma reaches_call {tag : String} {d : StateM WordCycle String} (h : Halts d) :
    ∃ text, Reaches limit (call (.ofText tag d)) 0 text := by
  obtain ⟨text, ws, hws⟩ := h
  refine ⟨text, ws, fun before after w hw _ =>
    ⟨{ w with source := .midway (before ++ ws) after, fired := w.fired || false }, ?_, rfl, rfl⟩⟩
  have hgenerate : (Generator.ofText tag d).generate w.source = (⟨text, false⟩, .midway (before ++ ws) after) := by
    change (fun p => (Sample.mk p.1 false, p.2)) (d w.source) = _
    rw [hw, hws]
  rw [call, hgenerate]

end Walker

namespace Engine

open Walker

def Answers (e : Engine WordCycle) : Prop := ∀ tag, ∃ text, Reaches e.options.maxValues (e.scalar tag) 0 text

lemma answers_builtIn (o : Options) : (builtIn WordCycle o).Answers := by
  intro tag
  rw [scalar, builtIn]
  split
  · rename_i g hg
    obtain ⟨m, hm, rfl⟩ := Registry.find?_builtIn hg
    obtain ⟨text, htext⟩ : ∃ text, Reaches o.maxValues (call (.ofText tag m)) 0 text := reaches_call hm.halts
    exact ⟨text, (reaches_record _).after htext⟩
  · obtain ⟨text, htext⟩ : ∃ text, Reaches o.maxValues (call (.ofText "lorem.word" Generator.fillerWord)) 0 text :=
      reaches_call Generator.IsBuiltIn.fillerWord.halts
    exact ⟨text, (reaches_record _).after htext⟩

variable {limit : UInt64}

lemma reaches_image (e : Engine WordCycle) (spec : ImageSpec) : ∃ text, Reaches limit (e.image spec) 0 text := by
  obtain ⟨text, htext⟩ := spec.halts_drawUrl e.options.imageBaseUrl
  exact ⟨text, (reaches_record _).after (reaches_draw htext)⟩

lemma reaches_length {minSize maxSize : UInt64} {n : Nat} (hlo : minSize.toNat ≤ n) (hhi : n ≤ maxSize.toNat) :
    Reaches limit (length minSize maxSize) 0 (UInt64.ofNat n) := by
  have hle : minSize.toNat ≤ maxSize.toNat := Nat.le_trans hlo hhi
  have hdraw : Attains (UInt64.ofNat <$> between (.toReach maxSize.toNat) minSize.toNat maxSize.toNat hle)
      (UInt64.ofNat n) := by
    rw [map_eq_pure_bind]
    exact .bind (.between _ hle (Width.lt_modulus_toReach maxSize.toNat_lt) hlo hhi) (.pure _)
  obtain ⟨ws, hws⟩ : Reaches limit (draw _) 0 _ := reaches_draw hdraw
  refine ⟨ws, fun before after w hw hroom => ?_⟩
  rw [length, dif_pos hle]
  exact hws before after w hw hroom

lemma reaches_leaf {m : Walker WordCycle String} (h : ∃ text, Reaches limit m 0 text) :
    ∃ v, Reaches limit (do spend limit; return (Outline.leaf, Json.str (← m))) 1 (.leaf, v) := by
  obtain ⟨text, htext⟩ := h
  rw [← Nat.add_zero 1]
  exact ⟨.str text, reaches_spend.bind (htext.map fun text => (Outline.leaf, Json.str text))⟩

mutual

lemma reaches_traced {e : Engine WordCycle} (he : e.Answers) : (s : Schema) → {t : Outline} → s.Allows t →
    ∃ v, Reaches e.options.maxValues (e.traced false s) t.nodes (t, v)
  | .scalar tag, _, .scalar _ => by
    rw [traced]
    exact reaches_leaf (he tag)
  | .image spec, _, .image _ => by
    rw [traced]
    exact reaches_leaf (reaches_image e spec)
  | .object fields, .object outlines, .object h => by
    obtain ⟨members, hmembers⟩ := reaches_tracedMembers he fields h []
    rw [traced, Outline.nodes]
    refine ⟨.obj members, reaches_spend.bind ?_⟩
    exact hmembers.map fun made => (Outline.object made.1, Json.obj made.2)
  | .array minSize maxSize element, .array items, .array hlo hhi h => by
    have hlen : (UInt64.ofNat items.length).toNat = items.length :=
      UInt64.toNat_ofNat_of_lt' (Nat.lt_of_le_of_lt hhi maxSize.toNat_lt)
    have hstep (t : Outline) (ht : t ∈ items) : ∃ v, Reaches e.options.maxValues
        (do checkpoint false; e.traced false element) t.nodes (t, v) := by
      obtain ⟨v, hv⟩ := reaches_traced he element (h t ht)
      exact ⟨v, reaches_checkpoint.after hv⟩
    -- whatever words an element takes, those for the next one come after them
    obtain ⟨made, hmade, hgather⟩ := Reaches.gather hstep []
    rw [List.reverse_nil, List.nil_append] at hgather
    rw [traced, Outline.nodes, Outline.nodesOfItems_eq]
    refine ⟨.arr (made.map Prod.snd), reaches_spend.bind ((reaches_length hlo hhi).after ?_)⟩
    rw [hlen, ← Nat.add_zero (List.sum _)]
    refine hgather.bind ((reaches_record _).after ?_)
    rw [hmade]
    exact .pure _

lemma reaches_tracedMembers {e : Engine WordCycle} (he : e.Answers) : (fields : List (String × Schema)) →
    {outlines : List (String × Outline)} → Schema.AllowsEach fields outlines → ∀ before, ∃ members,
      Reaches e.options.maxValues (e.tracedMembers false fields before) (Outline.nodesOfFields outlines)
        (outlines, members)
  | [], _, .nil, before => by
    rw [tracedMembers]
    exact ⟨before, .pure _⟩
  | (name, s) :: rest, (_, t) :: _, .cons _ h hrest, before => by
    obtain ⟨v, hv⟩ := reaches_traced he s h
    obtain ⟨members, hmembers⟩ := reaches_tracedMembers he rest hrest (Entries.set name v before)
    rw [tracedMembers, Outline.nodesOfFields]
    refine ⟨members, hv.bind ?_⟩
    exact hmembers.map fun more => ((name, t) :: more.1, more.2)

end

section

variable {σ : Type} [WordSource σ] {e : Engine σ} {schema : Schema} {source : σ} {outline : Outline} {v : Json}

structure Produces (e : Engine σ) (schema : Schema) (source : σ) (outline : Outline) (v : Json) : Prop where
  traced : ∃ w, e.traced false schema (begin source false {}) = .ok (outline, v) w
  generate : (e.generate schema source).1 = .ok v
  shown : v.outline = outline.shown

lemma value_of_traced {w w' : Walk σ} (h : e.traced false schema w = .ok (outline, v) w') :
    e.value false schema w = .ok v w' := by
  rw [← snd_traced, map_eq_pure_bind]
  exact bind_eq_ok_iff.2 ⟨_, w', h, rfl⟩

lemma produces_of_traced (hl : e.options.checkLimits [] schema = .ok ()) {w : Walk σ}
    (h : e.traced false schema (begin source false {}) = .ok (outline, v) w) :
    e.Produces schema source outline v := by
  obtain ⟨-, ⟨⟨-, hshown⟩, -⟩, -⟩ := e.makes_traced false schema _ _ _ h
  exact ⟨⟨w, h⟩, by rw [generate, hl, value_of_traced h], hshown⟩

lemma Produces.allows (h : e.Produces schema source outline v) :
    schema.Allows outline ∧ outline.nodes ≤ e.options.maxValues.toNat := by
  obtain ⟨w, hw⟩ := h.traced
  obtain ⟨n, ⟨⟨hallows, -⟩, rfl⟩, hvalues⟩ := e.makes_traced false schema _ _ _ hw
  have hcovered := (e.ensures_value false 0 schema).ok _ _ _ (.begin source false "" 0) (value_of_traced hw)
  have hroom := hcovered.values_le
  rw [hvalues] at hroom
  exact ⟨hallows, by simpa [begin] using hroom⟩

end

lemma Produces.of_allows {e : Engine WordCycle} (he : e.Answers) {schema : Schema} {outline : Outline}
    (hl : e.options.checkLimits [] schema = .ok ()) (h : schema.Allows outline)
    (hn : outline.nodes ≤ e.options.maxValues.toNat) : ∃ words v, e.Produces schema ⟨words, 0⟩ outline v := by
  obtain ⟨v, ws, hws⟩ := reaches_traced he schema h
  have hsource : (⟨ws.toArray, 0⟩ : WordCycle) = .midway [] (ws ++ []) := by simp [WordCycle.midway]
  obtain ⟨w, hw, -, -⟩ := hws [] [] (begin ⟨ws.toArray, 0⟩ false {}) hsource (by
    change 0 + _ ≤ _
    omega)
  exact ⟨ws.toArray, v, produces_of_traced hl hw⟩

/-- Just the outlines come out that the schema allows and for which there is room, each of some words. Where no names
are repeated, the record shows which one it was. -/
theorem builtIn_outlines (o : Options) (schema : Schema) (hl : o.checkLimits [] schema = .ok ()) (outline : Outline) :
    ((∃ words v, (builtIn WordCycle o).Produces schema ⟨words, 0⟩ outline v) ↔
      schema.Allows outline ∧ outline.nodes ≤ o.maxValues.toNat) ∧
    (schema.Distinct → ∀ source v, (builtIn WordCycle o).Produces schema source outline v → v.outline = outline) := by
  refine ⟨⟨?_, fun ⟨h, hn⟩ => Produces.of_allows (answers_builtIn o) hl h hn⟩, fun hd source v h => ?_⟩
  · rintro ⟨words, v, h⟩
    exact h.allows
  · rw [h.shown, h.allows.1.shown_eq hd]

section

def crewSchema : Schema := .array 1 2 (.object [("name", .scalar "name"), ("pets", .array 0 2 (.scalar "pet"))])

def crewOutline : Outline :=
  .array [.object [("name", .leaf), ("pets", .array [])], .object [("name", .leaf), ("pets", .array [.leaf, .leaf])]]

theorem builtIn_outlines_crew : crewSchema.Allows crewOutline ∧ crewOutline.nodes = 9 ∧
    ∃ words v, (builtIn WordCycle { maxValues := 9 }).Produces crewSchema ⟨words, 0⟩ crewOutline v ∧
      v.outline = crewOutline := by
  have hallows : crewSchema.Allows crewOutline := by
    refine .array (by decide) (by decide) (List.forall_mem_cons.2 ⟨?_, List.forall_mem_singleton.2 ?_⟩)
    · exact .object (.cons _ (.scalar _) (.cons _ (.array (by decide) (by decide) (by simp)) .nil))
    · refine .object (.cons _ (.scalar _) (.cons _ (.array (by decide) (by decide) ?_) .nil))
      simpa using Schema.Allows.scalar "pet"
  have hdistinct : crewSchema.Distinct := by
    simp [crewSchema, Schema.Everywhere, Schema.EverywhereIn, Schema.NamesDistinct, Entries.keys]
  obtain ⟨hiff, hshown⟩ := builtIn_outlines { maxValues := 9 } crewSchema rfl crewOutline
  obtain ⟨words, v, hv⟩ := hiff.2 ⟨hallows, by decide⟩
  exact ⟨hallows, rfl, words, v, hv, hshown hdistinct _ v hv⟩

end

end Engine

end Specimen
