import Runbook.Proofs.Corpus.Appending
import Runbook.Proofs.Json.Refusing

namespace Runbook.Corpus

open Json (deep)

variable {xs : List Payload} {x : Payload}

/-- A record that says nothing but null, in places where it counts. -/
def blank : Payload :=
  ⟨"/a", "post", "f\n\"\\", .list [.null, .str "\r"], "", some (.ofList [(.str "k", .null)])⟩

theorem blank_isData : blank.IsData where
  value := by
    refine ⟨.list [.null, .str "\r"], .list ?_, rfl⟩
    rw [List.forall_mem_cons, List.forall_mem_singleton]
    exact ⟨.null, .str "\r"⟩
  metadata := ⟨.map [("k", .null)], .map (by decide) (List.forall_mem_singleton.2 .null), rfl⟩

section Limits

def noting (name : String) (j : Json) : Payload :=
  { sample with metadata := some (.ofList [(.str name, .ofJson j)]) }

def start : List (String × Json) :=
  [("endpoint", .str "/a"), ("method", .str "post"), ("field", .str "f"), ("value", .int 1),
    ("fuzzType", .str "t")]

theorem readable_start (d : Nat) : ∀ e ∈ start, e.2.Readable d := by
  simp only [start, List.forall_mem_cons, List.not_mem_nil, false_imp_iff, implies_true, and_true]
  exact ⟨.str _, .str _, .str _, .int (by decide), .str _⟩

theorem line_noting (name : String) {j : Json} (h : (Value.ofJson j).toJson Payload.rules = .ok j)
    (hdepth : (Value.ofJson (.map [(name, j)])).depth ≤ Payload.writtenDepth + 1) :
    (noting name j).line =
      .ok (Payload.style.text (.map (start ++ [("meta", .map [(name, j)])]))) := by
  have hmap : (Value.ofJson (.map [(name, j)])).toJson Payload.rules = .ok (.map [(name, j)]) :=
    Value.toJson_map Payload.rules_keep (List.forall_mem_singleton.2 h)
  have hvalue : Payload.jsonEntry "value" Payload.writtenDepth (noting name j).value =
      .ok [("value", .int 1)] := rfl
  have hmeta : Payload.jsonEntry "meta" (Payload.writtenDepth + 1)
      ((noting name j).metadata.elim .null fun d => .map d.entries) =
        .ok [("meta", .map [(name, j)])] := by
    change Payload.jsonEntry "meta" _ (Value.ofJson (.map [(name, j)])) = _
    rw [Value.ofJson, Payload.jsonEntry, ← Value.ofJson, if_pos hdepth, hmap]
    · rfl
    · exact fun hnull => by cases hnull
  have hdocument : (noting name j).toJson = .ok (.map (start ++ [("meta", .map [(name, j)])])) := by
    rw [Payload.toJson, hvalue, hmeta]
    rfl
  rw [Payload.line, hdocument]
  rfl

theorem refused {j : Json}
    (h : ∀ k, Json.read (some Payload.depthLimit) (Payload.style.chars j) ≠ .ok k) (x : Payload) :
    Payload.readLine (Payload.style.text j) ≠ .ok x := by
  intro hread
  rw [Payload.readLine, Json.Style.text, String.toList_ofList] at hread
  split at hread
  · rename_i k hk
    exact h k hk
  · cases hread

theorem refused_of_long {n : Int} (h : Numeral.digitLimit < (natDigits n.natAbs).length) :
    ∃ line, (noting "n" (.int n)).line = .ok line ∧ ∀ x, Payload.readLine line ≠ .ok x := by
  have hplain := Payload.style_plain
  have hmeta : Payload.style.Spoils (.map [("n", .int n)]) :=
    Json.Style.spoils_map hplain (List.forall_mem_nil _) (Json.Style.spoils_int h) "n" []
  have hrecord : Payload.style.Spoils (.map (start ++ [("meta", .map [("n", .int n)])])) :=
    Json.Style.spoils_map hplain
      (fun e he => Json.Style.ofText_chars hplain (readable_start 0 e he)) hmeta "meta" []
  exact ⟨_, line_noting "n" rfl (Nat.succ_le_succ (Nat.succ_le_succ (Nat.zero_le _))), refused (hrecord.read _)⟩

def beforeLists : List Json.Token :=
  [.openMap, .text "endpoint", .colon, .text "/a", .comma, .text "method", .colon, .text "post",
    .comma, .text "field", .colon, .text "f", .comma, .text "value", .colon, .atom (.int 1), .comma,
    .text "fuzzType", .colon, .text "t", .comma, .text "meta", .colon, .openMap, .text "a", .colon]

theorem foldlM_beforeLists :
    ∃ entries, beforeLists.foldlM (Json.Progress.step (some Payload.depthLimit)) .start =
      .ok ⟨[.entry .empty "a", .entry entries "meta"], .value, .null⟩ := ⟨_, rfl⟩

theorem readable_map_deep (n : Nat) : (Json.map [("a", deep n)]).Readable (n + 1) :=
  .map (by simp) (List.forall_mem_singleton.2 (Json.readable_deep n))

theorem refused_of_deep {n : Nat} (h : Payload.depthLimit < n + 2) (hn : n < Payload.writtenDepth) :
    ∃ line, (noting "a" (deep n)).line = .ok line ∧ ∀ x, Payload.readLine line ≠ .ok x := by
  have hrecord : (Json.map (start ++ [("meta", .map [("a", deep n)])])).Readable (n + 2) := by
    refine .map (by simp [start]) ?_
    rw [List.forall_mem_append, List.forall_mem_singleton]
    exact ⟨readable_start _, readable_map_deep n⟩
  have hline := line_noting "a" (Value.toJson_ofJson Payload.rules_keep (Json.readable_deep n))
    (Nat.le_trans (Value.depth_ofJson (readable_map_deep n)) (Nat.succ_le_succ hn))
  refine ⟨_, hline, refused fun k hk => ?_⟩
  have htokens := Json.Style.ofText_chars Payload.style_plain hrecord [] Json.Token.endsWord_nil
  obtain ⟨ts, hts⟩ := Json.tokens_deep n
  have hrest : (Json.map (start ++ [("meta", .map [("a", deep n)])])).tokens =
      beforeLists ++ (List.replicate (n + 1) .openList ++ (ts ++ [.closeMap, .closeMap])) := by
    have hmap : (Json.map (start ++ [("meta", .map [("a", deep n)])])).tokens =
        beforeLists ++ ((deep n).tokens ++ [.closeMap] ++ [.closeMap]) := rfl
    rw [hmap, hts]
    simp
  obtain ⟨entries, hbefore⟩ := foldlM_beforeLists
  have hroom : Payload.depthLimit < [Json.Frame.entry .empty "a", .entry entries "meta"].length + n := by
    simpa [Nat.add_comm] using h
  obtain ⟨f, hf⟩ := Json.Progress.foldlM_openLists (r := .null) (.inl rfl) hroom
    (ts ++ [.closeMap, .closeMap])
  have hfold : (Json.map (start ++ [("meta", .map [("a", deep n)])])).tokens.foldlM
      (Json.Progress.step (some Payload.depthLimit)) .start = .error f := by
    rw [hrest, List.foldlM_append, hbefore]
    exact hf
  rw [List.append_nil, show Json.Token.ofText [] = [] from rfl, List.append_nil] at htokens
  rw [Json.read, Json.ofTokens, htokens, hfold] at hk
  cases hk

end Limits

end Runbook.Corpus
