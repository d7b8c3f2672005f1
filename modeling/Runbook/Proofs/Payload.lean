import Runbook.Payload
import Runbook.Proofs.Json.Reading
import Runbook.Proofs.Test
import Runbook.Proofs.Value.Json

namespace Runbook

open Json (Readable)

/-- The data of a document that is read as it was written, nested at most `d` deep. -/
def Value.IsData (d : Nat) (v : Value) : Prop := ∃ j : Json, j.Readable d ∧ v = .ofJson j

theorem Json.Readable.nodup_keys {d : Nat} {es : List (String × Json)}
    (h : Readable d (.map es)) : (es.map (·.1)).Nodup := by
  cases h with
  | emptyMap => exact List.nodup_nil
  | map hkeys _ => exact hkeys

theorem Value.ofJsonEntries_eq_map (es : List (String × Json)) :
    ofJsonEntries es = es.map fun e => (str e.1, ofJson e.2) := by
  induction es with
  | nil => rfl
  | cons e es ih => exact congrArg ((str e.1, ofJson e.2) :: ·) ih

def Slot.ofJson (es : List (String × Json)) (h : (es.map (·.1)).Nodup) : Slot where
  entries := es.map fun e => (e.1, Value.ofJson e.2)
  distinct := List.pairwise_map.2 ((List.pairwise_map.1 h).imp fun hne => by simpa using hne)

theorem Slot.value_ofJson (es : List (String × Json)) (h : (es.map (·.1)).Nodup) :
    (Slot.ofJson es h).value = .map (Value.ofJsonEntries es) := by
  rw [Slot.value, Slot.ofJson, List.map_map, Value.ofJsonEntries_eq_map]
  rfl

theorem Slot.entries_anyKeys (s : Slot) : Value.map s.anyKeys.entries = s.value := rfl

theorem Check.metadata_null : metadata .null = .ok none := rfl

theorem Check.metadata_data {d : Nat} {m : Dict Value Value}
    (h : Value.IsData d (.map m.entries)) : metadata (.map m.entries) = .ok (some m) := by
  obtain ⟨j, hj, hm⟩ := h
  cases j with
  | map es =>
    have hvalue := Slot.value_ofJson es hj.nodup_keys
    have hself : (Slot.ofJson es hj.nodup_keys).anyKeys = m := by
      obtain ⟨entries, hentries⟩ := m
      obtain rfl := Value.map.inj hm
      have hkeys := Value.map.inj ((Slot.entries_anyKeys _).trans hvalue)
      generalize (Slot.ofJson es hj.nodup_keys).anyKeys = m' at hkeys
      obtain ⟨entries', hentries'⟩ := m'
      subst hkeys
      rfl
    rw [hm, Value.ofJson, ← hvalue]
    change (fun s => some (Slot.anyKeys s)) <$> mapping (Slot.value _) = _
    rw [mapping_value, Checked.map_ok, hself]
  | _ => cases hm

namespace Payload

variable {p : Payload}

theorem style_plain : style.Plain := ⟨⟨0, rfl⟩, ⟨0, rfl⟩⟩

theorem rules_keep : rules.Keeps := ⟨fun _ _ => rfl, fun _ _ => rfl, fun _ => rfl, rfl⟩

def metadataValue (p : Payload) : Value := p.metadata.elim .null fun d => .map d.entries

/-- A record of what documents can hold. The record itself is the outermost mapping. -/
structure IsData (p : Payload) : Prop where
  value : p.value.IsData (depthLimit - 1)
  metadata : p.metadataValue.IsData (depthLimit - 1)

def documentEntry (name : String) : Json → List (String × Json)
  | .null => []
  | j => [(name, j)]

theorem jsonEntry_ofJson {d deepest : Nat} {j : Json} (h : j.Readable d) (hd : d < deepest)
    (name : String) : jsonEntry name deepest (.ofJson j) = .ok (documentEntry name j) := by
  have hwrite := Value.toJson_ofJson rules_keep h
  have hdepth : (Value.ofJson j).depth ≤ deepest := Nat.le_trans (Value.depth_ofJson h) hd
  cases j with
  | null => rfl
  | _ =>
    rw [jsonEntry, if_pos hdepth, hwrite]
    · rfl
    · exact fun hnull => by cases hnull

def document (p : Payload) (value metadata : Json) : List (String × Json) :=
  [("endpoint", .str p.endpoint), ("method", .str p.method), ("field", .str p.field)] ++
    documentEntry "value" value ++ [("fuzzType", .str p.fuzzType)] ++ documentEntry "meta" metadata

theorem documentEntry_cases (name : String) (j : Json) :
    j = .null ∧ documentEntry name j = [] ∨ documentEntry name j = [(name, j)] := by
  cases j with
  | null => exact .inl ⟨rfl, rfl⟩
  | _ => exact .inr rfl

theorem keys_documentEntry (name : String) (j : Json) :
    ((documentEntry name j).map (·.1)).Sublist [name] := by
  rcases documentEntry_cases name j with ⟨-, h⟩ | h <;> simp [h]

theorem nodup_keys_document (p : Payload) (value metadata : Json) :
    ((p.document value metadata).map (·.1)).Nodup := by
  have hnames : ["endpoint", "method", "field", "value", "fuzzType", "meta"].Nodup := by decide
  refine hnames.sublist ?_
  simp only [document, List.map_append]
  exact (((List.Sublist.refl _).append (keys_documentEntry "value" value)).append
    (List.Sublist.refl _)).append (keys_documentEntry "meta" metadata)

theorem readable_document (p : Payload) {d : Nat} {value metadata : Json} (hv : value.Readable d)
    (hm : metadata.Readable d) : (Json.map (p.document value metadata)).Readable (d + 1) := by
  refine .map (nodup_keys_document p value metadata) ?_
  have hentry {name : String} {j : Json} (hj : j.Readable d) :
      ∀ e ∈ documentEntry name j, e.2.Readable d := by
    rcases documentEntry_cases name j with ⟨-, h⟩ | h
    · exact h ▸ List.forall_mem_nil _
    · exact h ▸ List.forall_mem_singleton.2 hj
  simp only [document, List.forall_mem_append, List.forall_mem_cons]
  exact ⟨⟨⟨⟨.str _, .str _, .str _, List.forall_mem_nil _⟩, hentry hv⟩, .str _,
    List.forall_mem_nil _⟩, hentry hm⟩

theorem metadata_metadataValue (h : p.metadataValue.IsData (depthLimit - 1)) :
    Check.metadata p.metadataValue = .ok p.metadata := by
  rw [metadataValue] at h ⊢
  cases hm : p.metadata with
  | none => rfl
  | some m =>
    rw [hm] at h
    exact Check.metadata_data h

theorem payload_document {value metadata : Json} (hv : p.value = .ofJson value)
    (hm : p.metadataValue = .ofJson metadata)
    (hcheck : Check.metadata p.metadataValue = .ok p.metadata) :
    Check.payload (.ofJson (.map (p.document value metadata))) = .ok p := by
  obtain ⟨endpoint, method, field, v, fuzzType, m⟩ := p
  rw [hm] at hcheck
  subst hv
  rcases documentEntry_cases "value" value with ⟨rfl, hvalue⟩ | hvalue <;>
    rcases documentEntry_cases "meta" metadata with ⟨rfl, hmeta⟩ | hmeta <;>
    simp_all [Value.ofJson, Value.ofJsonEntries, document, Check.payload, Check.field,
      Check.field?, Value.field?_cons, Value.field?_nil, Check.text, Check.metadata_null]

/-- A record of data has a line, which is read as the record. The line is a mapping on one line. -/
theorem exists_line (h : p.IsData) : ∃ line, p.line = .ok line ∧ readLine line = .ok p ∧
    (∀ c ∈ line.toList, Json.Style.isShown c = true) ∧ line.toList.head? = some '{' := by
  obtain ⟨value, hv, hpv⟩ := h.value
  obtain ⟨metadata, hm, hpm⟩ := h.metadata
  have hread := readable_document p hv hm
  have hmeta : jsonEntry "meta" (writtenDepth + 1) (p.metadata.elim .null fun d => .map d.entries) =
      .ok (documentEntry "meta" metadata) := by
    rw [← jsonEntry_ofJson hm (by decide : depthLimit - 1 < writtenDepth + 1), ← hpm]
    rfl
  have hdocument : p.toJson = .ok (.map (p.document value metadata)) := by
    rw [toJson, hpv, hmeta, jsonEntry_ofJson hv (by decide : depthLimit - 1 < writtenDepth)]
    rfl
  refine ⟨style.text (.map (p.document value metadata)), ?_, ?_, ?_, ?_⟩
  · rw [line, hdocument]
    rfl
  · have hdepth : ∀ n ∈ some depthLimit, depthLimit - 1 + 1 ≤ n := fun n hn => (Option.some.inj hn).le
    have hchars := Json.read_chars style_plain hread hdepth
    rw [readLine, Json.Style.text, String.toList_ofList, hchars]
    exact payload_document hpv hpm (metadata_metadataValue h.metadata)
  · rw [Json.Style.text, String.toList_ofList]
    exact Json.Style.isShown_chars style_plain hread
  · rw [Json.Style.text, String.toList_ofList]
    rfl

end Payload

end Runbook
