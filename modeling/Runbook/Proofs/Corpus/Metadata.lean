import Runbook.Proofs.Corpus.Appending
import Runbook.Proofs.Yaml.Node

namespace Runbook

namespace Payload

/-- Whether a value of at most this depth has a place on the line of a record. -/
def Writable (deepest : Nat) (v : Value) : Prop := v.depth ≤ deepest ∧ ∃ j, v.toJson rules = .ok j

variable {v : Value} {x : Payload} {d deepest : Nat}

theorem writable_of_isData (h : v.IsData d) (hd : d < deepest) : Writable deepest v := by
  obtain ⟨j, hj, rfl⟩ := h
  exact ⟨Nat.le_trans (Value.depth_ofJson hj) hd, j, Value.toJson_ofJson rules_keep hj⟩

theorem exists_jsonEntry_iff (hdeepest : 0 < deepest) (name : String) :
    (∃ es, jsonEntry name deepest v = .ok es) ↔ Writable deepest v := by
  unfold jsonEntry
  split
  · exact iff_of_true ⟨_, rfl⟩ ⟨hdeepest, .null, rfl⟩
  · rw [Writable]
    split
    · cases v.toJson rules <;> simp_all [Except.map]
    · simp_all

theorem exists_line_iff : (∃ line, x.line = .ok line) ↔
    Writable writtenDepth x.value ∧ Writable (writtenDepth + 1) x.metadataValue := by
  rw [← exists_jsonEntry_iff (by decide) "value", ← exists_jsonEntry_iff (by decide) "meta", line,
    toJson, metadataValue]
  cases jsonEntry "value" writtenDepth x.value with
  | error f => simp [Except.map]
  | ok value =>
    cases jsonEntry "meta" (writtenDepth + 1) (x.metadata.elim .null fun d => .map d.entries) <;>
      simp [Except.map]

end Payload

namespace Corpus

open Payload (Writable)
open Storage (inDirectory)

variable {s : Storage} {directory : String} {base : FilePath} {p : Plan} {f : Fault}
  {m : Dict Value Value} {x : Payload} {xs : List Payload}

def LineOf (l : List Char) (x : Payload) : Prop := x.line = .ok (String.ofList l)

def leading (xs : List Payload) : List Payload := xs.takeWhile fun x => x.line.isOk

section Lines

theorem leading_eq_self (h : ∀ x ∈ xs, ∃ line, x.line = .ok line) : leading xs = xs := by
  refine List.takeWhile_eq_self_iff.2 fun x hx => ?_
  obtain ⟨line, hline⟩ := h x hx
  rw [hline]
  rfl

theorem lines_leading (xs : List Payload) : ∃ ls, List.Forall₂ LineOf ls (leading xs) ∧
    (lines xs).1 = String.ofList (joined ls) ∧
    ((lines xs).2 = none ↔ ∀ x ∈ xs, ∃ line, x.line = .ok line) := by
  induction xs with
  | nil => exact ⟨[], .nil, rfl, by simp [lines]⟩
  | cons x xs ih =>
    rw [leading, lines]
    cases hline : x.line with
    | error f =>
      rw [List.takeWhile_cons_of_neg (by simp [hline, Except.isOk, Except.toBool])]
      exact ⟨[], .nil, rfl, by simp [hline]⟩
    | ok line =>
      obtain ⟨ls, hls, htext, hend⟩ := ih
      rw [List.takeWhile_cons_of_pos (by rw [hline]; rfl)]
      have hchars : LineOf line.toList x := by rw [LineOf, String.ofList_toList, hline]
      refine ⟨line.toList :: ls, .cons hchars hls, ?_, ?_⟩
      · change line ++ "\n" ++ (lines xs).1 = String.ofList (line.toList ++ ['\n'] ++ joined ls)
        rw [htext, String.ofList_append, String.ofList_append, String.ofList_toList]
      · rw [hend, List.forall_mem_cons, hline]
        simp

/-- Metadata is put on the records up to the first that has no line, and no others are written. -/
theorem lines_stamp (d : Option (Dict Value Value)) (xs : List Payload) :
    lines (stamp d xs) = lines (xs.map fun x => { x with metadata := d }) := by
  induction xs with
  | nil => rfl
  | cons x xs ih =>
    rw [stamp, List.map_cons, lines]
    cases hline : Payload.line { x with metadata := d } with
    | error f => rw [lines, hline]
    | ok line => rw [lines, hline, ih]

theorem forall_stampAll : (∀ x ∈ stampAll m xs, ∃ line, x.line = .ok line) ↔ ∀ x ∈ xs,
    Writable Payload.writtenDepth x.value ∧
      Writable (Payload.writtenDepth + 1) (.map m.entries) := by
  have hnoted : Writable (Payload.writtenDepth + 1) ((noted m).elim .null fun d => .map d.entries) ↔
      Writable (Payload.writtenDepth + 1) (.map m.entries) := by
    rw [noted]
    split
    · rename_i hempty
      rw [List.isEmpty_iff.1 hempty]
      exact iff_of_true ⟨by decide, .null, rfl⟩ ⟨by decide, .map [], rfl⟩
    · rfl
  rw [stampAll, List.forall_mem_map]
  refine forall₂_congr fun x _ => ?_
  rw [Payload.exists_line_iff, ← hnoted]
  rfl

end Lines

section Reading

/-- The fault that reading metadata ends with, for what its file holds, if there is one. -/
def metadataFault? : Option (List UInt8) → Option Fault
  | none => none
  | some data =>
    match Text.Utf8.decode? data with
    | none => some (.file .notText)
    | some cs =>
      match Yaml.read (Text.unifyNewlines cs) with
      | .error .malformed => none
      | .error f => some (.data f.dataFault)
      | .ok _ => none

def metadataIn : Option (List UInt8) → Dict Value Value
  | none => .empty
  | some data =>
    match (Text.Utf8.decode? data).map fun cs => Yaml.read (Text.unifyNewlines cs) with
    | some (.ok (.map es)) => .ofList (metadataEntries es)
    | _ => .empty

theorem metadata_of_mapping {data : List UInt8} {cs : List Char} {es : List (Value × Value)}
    (hdecode : Text.Utf8.decode? data = some cs)
    (hread : Yaml.read (Text.unifyNewlines cs) = .ok (.map es)) :
    metadataFault? (some data) = none ∧
      metadataIn (some data) = .ofList (metadataEntries es) := by
  rw [metadataFault?, metadataIn, hdecode, Option.map_some]
  dsimp only
  rw [hread]
  exact ⟨rfl, rfl⟩

theorem run_readMetadata (hs : Usable s directory base) : ∃ notices,
    (readMetadata s directory).run [] =
      ((metadataFault? (s.file? (base ++ [metadataName]))).elim
        (.ok (metadataIn (s.file? (base ++ [metadataName])))) .error, notices) := by
  have hname : Storage.IsName metadataName := ⟨by decide, by decide⟩
  have hplace := Storage.locate_inDirectory hname hs.place
  unfold readMetadata metadataFault? metadataIn
  dsimp only
  cases hfile : s.file? (base ++ [metadataName]) with
  | none =>
    obtain ⟨g, hg, hread⟩ := Storage.readText_of_no_file hplace hfile
    rw [hread]
    cases g with
    | notText => exact (hg rfl).elim
    | _ => exact ⟨_, rfl⟩
  | some data =>
    dsimp only
    cases hdecode : Text.Utf8.decode? data with
    | none =>
      rw [Storage.readText_of_garbled hplace hfile hdecode]
      exact ⟨_, rfl⟩
    | some cs =>
      rw [Storage.readText_eq hplace hfile hdecode, Option.map_some]
      dsimp only
      cases Yaml.read (Text.unifyNewlines cs) with
      | error g => cases g <;> exact ⟨_, rfl⟩
      | ok v => cases v <;> exact ⟨_, rfl⟩

end Reading

section Writing

/-- What writing comes to: the records that are written again, up to the first without a line, and if
there is none the new ones with the metadata, up to the first without a line. -/
theorem texts_leading (m : Dict Value Value) (p : Plan) : ∃ ls ms,
    List.Forall₂ LineOf ls (leading (rewritten p)) ∧
    ((∀ x ∈ rewritten p, ∃ line, x.line = .ok line) →
      List.Forall₂ LineOf ms (leading (stampAll m p.newFailures))) ∧
    ((∃ x ∈ rewritten p, ∀ line, x.line ≠ .ok line) → ms = []) ∧
    (texts m p).corpus = String.ofList (joined (ls ++ ms)) ∧
    (texts m p).latest = String.ofList (joined ms) ∧
    ((texts m p).fault = none ↔ (∀ x ∈ rewritten p, ∃ line, x.line = .ok line) ∧
      ∀ x ∈ stampAll m p.newFailures, ∃ line, x.line = .ok line) := by
  obtain ⟨ls, hls, hfirst, hold⟩ := lines_leading (rewritten p)
  obtain ⟨ms, hms, hsecond, hnew⟩ := lines_leading (stampAll m p.newFailures)
  have hstamped : lines (stamped m p) = lines (stampAll m p.newFailures) := lines_stamp _ _
  rw [texts, hstamped]
  rcases hlines : lines (rewritten p) with ⟨text, _ | f⟩
  · rw [hlines] at hfirst hold
    have hall := hold.1 rfl
    refine ⟨ls, ms, hls, fun _ => hms, ?_, ?_, hsecond, ?_⟩
    · rintro ⟨x, hx, hnone⟩
      obtain ⟨line, hline⟩ := hall x hx
      exact (hnone line hline).elim
    · dsimp only at hfirst ⊢
      rw [hsecond, hfirst]
      simp [joined, String.ofList_append]
    · rw [hnew, and_iff_right hall]
  · rw [hlines] at hfirst hold
    have hnot : ¬ ∀ x ∈ rewritten p, ∃ line, x.line = .ok line := fun hall => by
      cases hold.2 hall
    refine ⟨ls, [], hls, fun hall => (hnot hall).elim, fun _ => rfl, ?_, rfl, ?_⟩
    · rw [List.append_nil]
      exact hfirst
    · exact iff_of_false (by simp) fun h => hnot h.1

def scribbled : Storage := ⟨.ofList [([metadataName], .file [0xFF])], []⟩

def labelled : Storage := ⟨.ofList [([metadataName], .file (Text.Utf8.encode "run: 7".toList))], []⟩

theorem scribbled_usable : Usable scribbled "" [] := ⟨by rfl, by rfl, by decide⟩

theorem labelled_usable : Usable labelled "" [] := ⟨by rfl, by rfl, by decide⟩

theorem scribbled_fault : metadataFault? (some [0xFF]) = some (.file .notText) := by
  have hdecode : Text.Utf8.decode? [0xFF] = none := by decide +kernel
  rw [metadataFault?, hdecode]

theorem labelled_read :
    Yaml.read (Text.unifyNewlines "run: 7".toList) = .ok (.map [(.str "run", .int 7)]) := by
  have hplain : Text.unifyNewlines "run: 7".toList = "run: 7".toList := by decide +kernel
  have hnode : Yaml.Node.ofText "run: 7".toList =
      .ok (some (.mapping .map [(.scalar .str "run", .scalar .int "7")])) := by decide +kernel
  rw [hplain, Yaml.read, hnode]
  rfl

theorem finding_hold : ∀ x ∈ rewritten finding, ∃ line, x.line = .ok line := by
  rw [rewritten_of_append rfl]
  exact List.forall_mem_nil _

end Writing

end Corpus

end Runbook
