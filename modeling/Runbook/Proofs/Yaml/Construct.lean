import Runbook.Proofs.Fault
import Runbook.Proofs.Value.Text
import Runbook.Yaml.Construct
import Mathlib.Data.List.Forall2

namespace Runbook.Yaml

theorem Built.zipWith_eq_ok_iff {α β γ : Type} {f : α → β → γ} {a : Built α} {b : Built β} {c : γ} :
    Built.zipWith f a b = .ok c ↔ ∃ x y, a = .ok x ∧ b = .ok y ∧ f x y = c := by
  cases a <;> cases b <;> simp [Built.zipWith]

theorem Built.inRound_eq_ok_iff {α : Type} {round : Nat} {x : Except ReadFault α} {a : α} :
    Built.inRound round x = .ok a ↔ x = .ok a := by
  cases x <;> simp [Built.inRound]

namespace Construct

variable {build build' : Node → Built Value} {round round' : Nat}

theorem items_eq_ok_iff {bs : List (Built Value)} {vs : List Value} :
    items bs = .ok vs ↔ List.Forall₂ (fun b v => b = .ok v) bs vs := by
  induction bs generalizing vs with
  | nil => cases vs <;> simp [items]
  | cons b bs ih =>
    rw [items, List.foldr_cons, Built.zipWith_eq_ok_iff]
    constructor
    · rintro ⟨v, vs, hb, hbs, rfl⟩
      exact .cons hb (ih.1 hbs)
    · rintro (_ | ⟨hb, hbs⟩)
      exact ⟨_, _, hb, ih.2 hbs, rfl⟩

structure Fills (build : Node → Built Value) (e : Node × Node) (kv : Value × Value) : Prop where
  key : build e.1 = .ok kv.1
  isKey : kv.1.isKey
  value : build e.2 = .ok kv.2

theorem go_cons_eq_ok_iff {k v : Built Value} {es : List (Built Value × Built Value)}
    {d d' : Dict Value Value} :
    entries.go round ((k, v) :: es) d = .ok d' ↔
      ∃ a b, k = .ok a ∧ a.isKey ∧ v = .ok b ∧ entries.go round es (d.put a b) = .ok d' := by
  rcases k with f | a
  · simp [entries.go, Built.zipWith_eq_ok_iff]
  · by_cases ha : a.isKey
    · rcases v with f | b
      · simp [entries.go, ha, Built.zipWith_eq_ok_iff]
      · simp [entries.go, ha]
    · simp [entries.go, ha, Built.zipWith_eq_ok_iff]

theorem key_eq_ok_iff {k : Node} {v : Value} : key build round k = .ok v ↔ build k = .ok v := by
  unfold key
  split
  · rename_i e he
    simp [he]
  · rfl

theorem go_eq_ok_iff {es : List (Node × Node)} {d d' : Dict Value Value} :
    entries.go round (es.map fun e => (key build round e.1, build e.2)) d = .ok d' ↔
      ∃ kvs, List.Forall₂ (Fills build) es kvs ∧ d.putAll kvs = d' := by
  induction es generalizing d with
  | nil => simp [entries.go, Dict.putAll]
  | cons e es ih =>
    rw [List.map_cons, go_cons_eq_ok_iff]
    constructor
    · rintro ⟨k, v, hk, hkey, hv, hgo⟩
      obtain ⟨kvs, hkvs, hd⟩ := ih.1 hgo
      exact ⟨(k, v) :: kvs, .cons ⟨key_eq_ok_iff.1 hk, hkey, hv⟩ hkvs, hd⟩
    · rintro ⟨_ | ⟨kv, kvs⟩, hkvs, hd⟩
      · cases hkvs
      · obtain ⟨hkv, hkvs⟩ := List.forall₂_cons.1 hkvs
        exact ⟨kv.1, kv.2, key_eq_ok_iff.2 hkv.key, hkv.isKey, hkv.value, ih.2 ⟨kvs, hkvs, hd⟩⟩

theorem mapping_eq_ok_iff {n : Node} {d : Dict Value Value} :
    mapping build round n = .ok d ↔ ∃ tag es added own kvs, n = .mapping tag es ∧
      Node.flatten es = .ok (added, own) ∧ List.Forall₂ (Fills build) (added ++ own) kvs ∧
      Dict.ofList kvs = d := by
  cases n with
  | scalar tag text => simp [mapping]
  | sequence tag items => simp [mapping]
  | around isMapping up => simp [mapping]
  | mapping tag es =>
    rw [mapping]
    cases hflat : Node.flatten es with
    | error f => simp [hflat]
    | ok r =>
      obtain ⟨added, own⟩ := r
      dsimp only
      rw [entries, go_eq_ok_iff]
      constructor
      · rintro ⟨kvs, hkvs, hd⟩
        exact ⟨tag, es, added, own, kvs, rfl, hflat, hkvs, hd⟩
      · rintro ⟨_, _, _, _, kvs, hn, hflat', hkvs, hd⟩
        cases hn
        cases hflat.symm.trans hflat'
        exact ⟨kvs, hkvs, hd⟩

theorem sequence_eq_ok_iff {n : Node} {v : Value} :
    sequence build round n = .ok v ↔ ∃ tag ns vs, n = .sequence tag ns ∧
      List.Forall₂ (fun n v => build n = .ok v) ns vs ∧ .list vs = v := by
  cases n with
  | scalar tag text => simp [sequence]
  | mapping tag es => simp [sequence]
  | around isMapping up => simp [sequence]
  | sequence tag ns =>
    rw [sequence, map_eq_ok_iff]
    simp [items_eq_ok_iff]

theorem pair_eq_ok_iff {n : Node} {v : Value} :
    pair build round n = .ok v ↔ ∃ tag k w a b, n = .mapping tag [(k, w)] ∧ build k = .ok a ∧
      build w = .ok b ∧ .tuple [a, b] = v := by
  rcases n with _ | _ | ⟨tag, _ | ⟨⟨k, w⟩, _ | ⟨e, es⟩⟩⟩ | _ <;>
    simp [pair, Built.zipWith_eq_ok_iff]

theorem tagged_mono {n : Node} {v : Value} (h : tagged build round n = .ok v)
    (hbuild : ∀ {n v}, build n = .ok v → build' n = .ok v) : tagged build' round' n = .ok v := by
  have hfills : ∀ {e kv}, Fills build e kv → Fills build' e kv :=
    fun h => ⟨hbuild h.key, h.isKey, hbuild h.value⟩
  unfold tagged at h ⊢
  cases htag : n.tag <;> simp only [htag] at h ⊢
  case seq =>
    obtain ⟨tag, ns, vs, rfl, hns, hv⟩ := sequence_eq_ok_iff.1 h
    exact sequence_eq_ok_iff.2 ⟨tag, ns, vs, rfl, hns.imp fun _ _ => hbuild, hv⟩
  case map | set =>
    obtain ⟨d, hd, hv⟩ := map_eq_ok_iff.1 h
    obtain ⟨tag, es, added, own, kvs, rfl, hflat, hkvs, hd⟩ := mapping_eq_ok_iff.1 hd
    refine map_eq_ok_iff.2 ⟨d, mapping_eq_ok_iff.2 ?_, hv⟩
    exact ⟨tag, es, added, own, kvs, rfl, hflat, hkvs.imp fun _ _ => hfills, hd⟩
  case omap | pairs =>
    obtain ⟨tag, ns, vs, rfl, hns, hv⟩ := sequence_eq_ok_iff.1 h
    refine sequence_eq_ok_iff.2 ⟨tag, ns, vs, rfl, hns.imp fun n v hn => ?_, hv⟩
    obtain ⟨tag, k, w, a, b, rfl, hk, hw, hv⟩ := pair_eq_ok_iff.1 hn
    exact pair_eq_ok_iff.2 ⟨tag, k, w, a, b, rfl, hbuild hk, hbuild hw, hv⟩
  case merge | value | other => cases h
  all_goals exact Built.inRound_eq_ok_iff.2 (Built.inRound_eq_ok_iff.1 h)

theorem value_succ {fuel : Nat} {n : Node} (h : ∀ isMapping up, n ≠ .around isMapping up) :
    value (fuel + 1) round n = tagged (value fuel (round + 1)) round n := by
  cases n with
  | around isMapping up => exact (h isMapping up rfl).elim
  | _ => rfl

/-- More room gives the same values, in whatever round a node is met. -/
theorem value_mono {fuel fuel' : Nat} {n : Node} {v : Value} (h : value fuel round n = .ok v)
    (hfuel : fuel ≤ fuel') : value fuel' round' n = .ok v := by
  induction fuel generalizing fuel' round round' n v with
  | zero => cases h
  | succ fuel ih =>
    obtain ⟨fuel', rfl⟩ : ∃ k, fuel' = k + 1 := ⟨fuel' - 1, by omega⟩
    cases n with
    | around isMapping up => exact h
    | _ => exact tagged_mono h fun h => ih h (Nat.le_of_succ_le_succ hfuel)

theorem ofNode_eq_ok_iff {n : Node} {v : Value} :
    ofNode n = .ok v ↔ value n.height 0 n = .ok v := by
  rw [ofNode]
  cases value n.height 0 n <;> simp

/-- The node that a key stands for: a lone `=` is a text. -/
def keyNode : Node → Node
  | .scalar .value text => .scalar .str text
  | n => n

theorem height_keyNode (n : Node) : (keyNode n).height = n.height := by
  unfold keyNode
  split <;> rfl

/-- Where no key is a merge key, a mapping has its own entries only. -/
theorem flatten_eq_own {es : List (Node × Node)} (h : ∀ e ∈ es, ∀ text, e.1 ≠ .scalar .merge text) :
    Node.flatten es = .ok ([], es.map fun e => (keyNode e.1, e.2)) := by
  induction es with
  | nil => simp [Node.flatten]
  | cons e es ih =>
    obtain ⟨k, v⟩ := e
    obtain ⟨hk, hes⟩ := List.forall_mem_cons.1 h
    rw [Node.flatten, ih hes]
    dsimp only
    split
    · exact (hk _ rfl).elim
    · rfl
    · rename_i hvalue
      rw [List.map_cons, keyNode]
      intro text hk'
      exact hvalue text hk'

theorem height_le_entriesHeight {es : List (Node × Node)} {e : Node × Node} (he : e ∈ es) :
    e.1.height ≤ Node.entriesHeight es ∧ e.2.height ≤ Node.entriesHeight es := by
  induction es with
  | nil => cases he
  | cons e' es ih =>
    rw [Node.entriesHeight]
    rcases List.mem_cons.1 he with rfl | he
    · omega
    · have := ih he
      omega

theorem ofNode_mapping {es : List (Node × Node)} {kvs : List (Value × Value)}
    (hmerge : ∀ e ∈ es, ∀ text, e.1 ≠ .scalar .merge text)
    (h : List.Forall₂ (fun e kv => ofNode (keyNode e.1) = .ok kv.1 ∧ kv.1.isKey = true ∧
      ofNode e.2 = .ok kv.2) es kvs) :
    ofNode (.mapping .map es) = .ok (.map (Dict.ofList kvs).entries) := by
  have hfills : ∀ e ∈ es, ∀ kv, ofNode (keyNode e.1) = .ok kv.1 ∧ kv.1.isKey = true ∧
      ofNode e.2 = .ok kv.2 → Fills (value (Node.entriesHeight es) 1) (keyNode e.1, e.2) kv := by
    rintro e he kv ⟨hk, hkey, hv⟩
    have hheight := height_le_entriesHeight he
    refine ⟨value_mono (ofNode_eq_ok_iff.1 hk) ?_, hkey,
      value_mono (ofNode_eq_ok_iff.1 hv) hheight.2⟩
    rw [height_keyNode]
    exact hheight.1
  rw [ofNode_eq_ok_iff, Node.height, value_succ (by simp), tagged]
  refine map_eq_ok_iff.2 ⟨Dict.ofList kvs, mapping_eq_ok_iff.2 ?_, rfl⟩
  refine ⟨.map, es, [], _, kvs, rfl, flatten_eq_own hmerge, ?_, rfl⟩
  rw [List.nil_append, List.forall₂_map_left_iff]
  have hmem := (List.forall₂_and_left (p := (· ∈ es)) es kvs).2 ⟨fun e he => he, h⟩
  exact hmem.imp fun e kv he => hfills e he.1 kv he.2

theorem height_le_itemsHeight {ns : List Node} {n : Node} (hn : n ∈ ns) :
    n.height ≤ Node.itemsHeight ns := by
  induction ns with
  | nil => cases hn
  | cons m ns ih =>
    rw [Node.itemsHeight]
    rcases List.mem_cons.1 hn with rfl | hn
    · exact Nat.le_max_left _ _
    · exact Nat.le_trans (ih hn) (Nat.le_max_right _ _)

theorem ofNode_sequence {ns : List Node} {vs : List Value}
    (h : List.Forall₂ (fun n v => ofNode n = .ok v) ns vs) :
    ofNode (.sequence .seq ns) = .ok (.list vs) := by
  rw [ofNode_eq_ok_iff, Node.height, value_succ (by simp), tagged]
  refine sequence_eq_ok_iff.2 ⟨.seq, ns, vs, rfl, ?_, rfl⟩
  have hmem := (List.forall₂_and_left (p := (· ∈ ns)) ns vs).2 ⟨fun n hn => hn, h⟩
  exact hmem.imp fun n v hn => value_mono (ofNode_eq_ok_iff.1 hn.2) (height_le_itemsHeight hn.1)

theorem ofNode_texts {es : List (String × Node)} {kvs : List (String × Value)}
    (hkeys : (kvs.map (·.1)).Nodup)
    (h : List.Forall₂ (fun e kv => e.1 = kv.1 ∧ ofNode e.2 = .ok kv.2) es kvs) :
    ofNode (.mapping .map (es.map fun e => (.scalar .str e.1, e.2))) =
      .ok (.map (kvs.map fun e => (.str e.1, e.2))) := by
  have hdistinct : (kvs.map fun e => (Value.str e.1, e.2)).Pairwise
      fun a b => (a.1 == b.1) = false := by
    refine List.pairwise_map.2 ((List.pairwise_map.1 hkeys).imp fun hne => ?_)
    rw [str_beq_str]
    exact beq_eq_false_iff_ne.2 hne
  rw [← Dict.entries_ofList_of_distinct hdistinct]
  refine ofNode_mapping (fun e he text => ?_) ?_
  · obtain ⟨e', -, rfl⟩ := List.mem_map.1 he
    simp
  · rw [List.forall₂_map_left_iff, List.forall₂_map_right_iff]
    exact h.imp fun e kv he => ⟨he.1 ▸ rfl, rfl, he.2⟩

theorem timestamp_eq_ok {text : String} {v : Value} (h : Scalar.timestamp text = .ok v) :
    (∃ d, v = .date d) ∨ ∃ t, v = .dateTime t := by
  unfold Scalar.timestamp at h
  dsimp only at h
  split at h
  · cases h
  · rename_i p _
    split at h
    · cases h
    · split at h
      · cases h
        exact .inl ⟨_, rfl⟩
      · rename_i d _ _ hour minute second _
        cases ht : (DateTime.ofParts? d hour minute second (Scalar.micro p.fraction)
            (p.offset.map Scalar.offsetMinutes)) with
        | none =>
          rw [ht] at h
          cases h
        | some t =>
          rw [ht] at h
          cases h
          exact .inr ⟨t, rfl⟩

theorem value_of_scalar {tag : Tag} {text : String} {v : Value}
    (h : ofNode (.scalar tag text) = .ok v) : Scalar.value tag text = .ok v := by
  rw [ofNode_eq_ok_iff, Node.height, value_succ (by simp), tagged] at h
  cases tag with
  | seq | map | set | omap | pairs | merge | value | other => cases h
  | _ => exact Built.inRound_eq_ok_iff.1 h

theorem isKey_of_value {tag : Tag} {text : String} {v : Value} (h : Scalar.value tag text = .ok v) :
    v.isKey = true := by
  cases tag with
  | timestamp =>
    obtain ⟨d, rfl⟩ | ⟨t, rfl⟩ := timestamp_eq_ok h <;> rfl
  | null | str =>
    cases h
    rfl
  | bool | int | float | binary =>
    obtain ⟨_, -, rfl⟩ := map_eq_ok_iff.1 h
    rfl
  | _ => cases h

theorem isKey_of_scalar {tag : Tag} {text : String} {v : Value}
    (h : ofNode (.scalar tag text) = .ok v) : v.isKey = true := isKey_of_value (value_of_scalar h)

/-- A text is the value of no other text. -/
theorem text_of_scalar {tag : Tag} {text s : String} (h : ofNode (.scalar tag text) = .ok (.str s)) :
    text = s := by
  have hvalue := value_of_scalar h
  cases tag with
  | timestamp => obtain ⟨_, ht⟩ | ⟨_, ht⟩ := timestamp_eq_ok hvalue <;> cases ht
  | str =>
    cases hvalue
    rfl
  | bool | int | float | binary =>
    obtain ⟨_, -, ht⟩ := map_eq_ok_iff.1 hvalue
    cases ht
  | _ => cases hvalue

end Construct

end Runbook.Yaml
