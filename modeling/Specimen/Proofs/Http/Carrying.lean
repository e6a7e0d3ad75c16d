import Specimen.Proofs.Http.Outcome
import Specimen.Proofs.Json.Continuation
import Specimen.Proofs.Json.Survival

/-! A schema is read from within the body of a request as it is read from a text of its own. -/

namespace Specimen

namespace Request

open Json Json.Reading

def textFor (schema : String) (count : UInt64) : String :=
  "\x7b\"schema\": " ++ schema ++ (", \"count\": " ++ ((Json.nat count).compact ++ "\x7d"))

lemma toList_textFor (schema : String) (count : UInt64) : (textFor schema count).toList =
    '{' :: writeText "schema" (':' :: ' ' :: (schema.toList ++ ',' :: ' ' ::
      writeText "count" (':' :: ' ' :: ((Number.natural count).text ++ ['}'])))) := by
  simp [textFor, compact, write, writeText, escape, Json.nat]

variable {schema : String} {count : UInt64} {v : Json} {s r : List Char}

lemma gives_read_optional {levels : Nat} (h : (value .strict levels s).Gives v r) :
    (Shape.optional.read levels s).Gives (if v = .null then none else some v) r := by
  rw [Shape.read]
  exact gives_map_iff.2 ⟨v, h, rfl⟩

lemma gives_member_schema (h : (value .strict 126 s).Gives v r) :
    ∃ reader, @Filled.member 126 format.fields "schema" (none, none, ()) = .ok reader ∧
      (reader s).Gives (some (if v = .null then none else some v), none, ()) r :=
  ⟨_, rfl, gives_map_iff.2 ⟨_, gives_read_optional h, rfl⟩⟩

lemma gives_member_count (o : Option Json) (h : (value .strict 126 s).Gives v r) :
    ∃ reader, @Filled.member 126 format.fields "count" (some o, none, ()) = .ok reader ∧
      (reader s).Gives (some o, some (if v = .null then none else some v), ()) r :=
  ⟨_, rfl, gives_map_iff.2 ⟨_, gives_map_iff.2 ⟨_, gives_read_optional h, rfl⟩, rfl⟩⟩

lemma read_textFor (h : document (value .strict 126) schema = .ok v) :
    format.read (textFor schema count) = .ok ⟨if v = .null then none else some v, some (.nat count)⟩ := by
  obtain ⟨u, hv, hu⟩ := document_eq_ok_iff.1 h
  let countText : List Char := ':' :: ' ' :: ((Number.natural count).text ++ ['}'])
  let rest : List Char := ',' :: ' ' :: writeText "count" countText
  let schemaText : List Char := ':' :: ' ' :: (schema.toList ++ rest)
  have hblank : skipBlanks (' ' :: (schema.toList ++ rest)) = skipBlanks (schema.toList ++ rest) := rfl
  have hschema : (value .strict 126 (' ' :: (schema.toList ++ rest))).Gives v (u ++ rest) :=
    (gives_value_congr hblank).2 (gives_value_append (by simp [rest, EndsNumber]) hv)
  have hnat : ReadsAs .compact 0 (value .strict 126) (.nat count) (.nat count) :=
    readsAs_value (plain_nat count) (Nat.zero_le _)
  have hcount : (value .strict 126 (' ' :: ((Number.natural count).text ++ ['}']))).Gives (.nat count) ['}'] :=
    hnat _ _ (by simp [EndsNumber]) (skipBlanks_write .compact 0 ['}'] (.nat count))
  obtain ⟨first, hfirst, hafter⟩ := gives_member_schema hschema
  obtain ⟨second, hsecond, hlast⟩ := gives_member_count (if v = .null then none else some v) hcount
  have hshorter : (' ' :: writeText "count" countText).length ≤ (writeText "schema" schemaText).length := by
    simp only [schemaText, rest, writeText, List.length_cons, List.length_append]
    omega
  have hmembers : (block .strict (@Filled.member 126 format.fields) (none, none, ())
      (writeText "schema" schemaText)).Gives (some (if v = .null then none else some v), some (some (.nat count)), ())
        [] := by
    refine gives_block_iff.2 ⟨'"', _, skipBlanks_writeText _ _, ?_⟩
    rw [if_neg (by decide)]
    -- only blanks follow the schema in its own text, so that the comma is what is read next
    refine gives_members_iff.2 ⟨"schema", schemaText, gives_name_writeText (skipBlanks_writeText _ _), first, hfirst, _,
      skipBlanks_cons _ rfl, _, u ++ rest, hafter, ' ' :: writeText "count" countText,
      .inl ⟨skipBlanks_append_of_eq_nil hu, hshorter, ?_⟩⟩
    exact gives_members_iff.2 ⟨"count", countText, gives_name_writeText rfl, second, hsecond, _, skipBlanks_cons _ rfl,
      _, ['}'], hlast, [], .inr ⟨skipBlanks_cons _ rfl, rfl, rfl⟩⟩
  refine document_eq_ok_iff.2 ⟨[], ?_, rfl⟩
  rw [toList_textFor]
  exact Format.gives_reader_object (skipBlanks_cons _ rfl) hmembers rfl

end Request

namespace Http

variable {r : Request} {text : String} {count : UInt64} {v : Json}

structure Request.Carries (r : Request) (text : String) (count : UInt64) : Prop where
  makes : r.Makes
  media : ∃ type, (r.header? "content-type").bind MediaType.ofText? = some type ∧ type.isJson
  body : r.body = (Specimen.Request.textFor text count).toUTF8
  size_le : r.body.size ≤ maxBody

lemma readBody_of_carries (hr : r.Carries text count) : readBody r =
    match Specimen.Request.format.read (Specimen.Request.textFor text count) with
    | .ok request => .ok request
    | .error .malformed => .error .notJson
    | .error .mismatch => .error .wrongShape := by
  obtain ⟨type, hmedia, hjson⟩ := hr.media
  have hbody : String.fromUTF8? r.body = some (Specimen.Request.textFor text count) := by
    rw [hr.body, Files.fromUTF8?_toUTF8]
  rw [readBody]
  simp only [hmedia, hjson, Nat.not_lt.2 hr.size_le, hbody]
  rfl

lemma readBody_of_document (hr : r.Carries text count) (ht : Json.document (Json.value .strict 126) text = .ok v) :
    readBody r = .ok ⟨if v = .null then none else some v, some (.nat count)⟩ := by
  rw [readBody_of_carries hr, Specimen.Request.read_textFor ht]

end Http

end Specimen
