import Mathlib.Data.Finset.Card
import Mathlib.Data.List.Nodup
import Mathlib.Tactic.Tauto
import Runbook.FuzzValue
import Runbook.Proofs.Fault

namespace Runbook

namespace Dict

variable {κ α β : Type} [BEq κ] [LawfulBEq κ]

/-- What the values of a dictionary hold, each with the key of its value. -/
def flat (d : Dict κ α) (f : α → List β) : List (κ × β) :=
  d.entries.flatMap fun e => (f e.2).map (e.1, ·)

theorem mem_flat {d : Dict κ α} {f : α → List β} {k : κ} {b : β} {z : α} (hz : f z = []) :
    (k, b) ∈ d.flat f ↔ b ∈ f ((d.get? k).getD z) := by
  have hget : b ∈ f ((d.get? k).getD z) ↔ ∃ a, d.get? k = some a ∧ b ∈ f a := by
    cases d.get? k <;> simp [hz]
  rw [hget, flat, List.mem_flatMap]
  simp only [get?_eq_some_iff, List.mem_map]
  constructor
  · rintro ⟨e, he, b', hb, h⟩
    cases h
    exact ⟨e.2, he, hb⟩
  · rintro ⟨a, ha, hb⟩
    exact ⟨(k, a), ha, b, hb, rfl⟩

theorem nodup_flat (d : Dict κ α) {f : α → List β} (h : ∀ a, (f a).Nodup) : (d.flat f).Nodup := by
  refine List.nodup_flatMap.2 ⟨fun e _ => (h e.2).map fun b c hbc => (Prod.mk.inj hbc).2, ?_⟩
  refine d.distinct.imp fun {a b} hne x hx hy => ?_
  obtain ⟨c, -, rfl⟩ := List.mem_map.1 hx
  obtain ⟨c', -, h⟩ := List.mem_map.1 hy
  have hkey : b.1 = a.1 := (Prod.mk.inj h).1
  simp [hkey] at hne

end Dict

namespace FuzzSet

variable {s : FuzzSet} {k l : FuzzKey}

theorem mem_insert : l ∈ (s.insert k).keys ↔ l = k ∨ l ∈ s.keys := by
  rw [insert]
  split
  · rename_i hk
    exact ⟨.inr, fun h => h.elim (fun heq => heq ▸ hk) id⟩
  · exact List.mem_cons

theorem contains_iff : s.contains k = true ↔ k ∈ s.keys := List.contains_iff_mem

end FuzzSet

namespace FailureIndex

abbrev Item := String × String × String × FuzzKey

def items (i : FailureIndex) : List Item :=
  i.endpoints.flat fun methods => methods.flat fun fields => fields.flat FuzzSet.keys

variable {i : FailureIndex} {endpoint method field : String} {k : FuzzKey}

theorem mem_items :
    (endpoint, method, field, k) ∈ i.items ↔ k ∈ (i.values endpoint method field).keys := by
  rw [items, Dict.mem_flat (z := .empty) rfl, Dict.mem_flat (z := .empty) rfl,
    Dict.mem_flat (z := .empty) rfl]
  rfl

theorem nodup_items (i : FailureIndex) : i.items.Nodup :=
  i.endpoints.nodup_flat fun methods => methods.nodup_flat fun fields =>
    fields.nodup_flat FuzzSet.distinct

theorem length_items (i : FailureIndex) : i.items.length = i.size := by
  simp only [items, size, ← List.sum_eq_foldl, Dict.flat, Dict.values, List.flatMap,
    List.length_flatten, List.length_map, List.sum_flatten, List.map_map, Function.comp_def]
  rfl

theorem values_insert (i : FailureIndex) (endpoint method field : String) (k : FuzzKey)
    (endpoint' method' field' : String) :
    (i.insert endpoint method field k).values endpoint' method' field' =
      if endpoint = endpoint' ∧ method = method' ∧ field = field' then
        (i.values endpoint method field).insert k
      else i.values endpoint' method' field' := by
  by_cases he : endpoint = endpoint'
  · by_cases hm : method = method'
    · by_cases hf : field = field' <;>
        simp [insert, values, fields, methods, Dict.get?_put, he, hm, hf]
    · simp [insert, values, fields, methods, Dict.get?_put, he, hm]
  · simp [insert, values, fields, methods, Dict.get?_put, he]

theorem mem_items_insert {x : Item} :
    x ∈ (i.insert endpoint method field k).items ↔
      x = (endpoint, method, field, k) ∨ x ∈ i.items := by
  obtain ⟨e, m, f, l⟩ := x
  rw [mem_items, mem_items, values_insert]
  split
  · rename_i h
    obtain ⟨rfl, rfl, rfl⟩ := h
    simp [FuzzSet.mem_insert]
  · rename_i h
    have hne : (e, m, f, l) ≠ (endpoint, method, field, k) := by
      rintro ⟨⟩
      exact h ⟨rfl, rfl, rfl⟩
    simp [hne]

theorem size_eq_card (i : FailureIndex) : i.size = i.items.toFinset.card := by
  rw [List.toFinset_card_of_nodup i.nodup_items, length_items]

end FailureIndex

namespace Payload

variable {x y : Payload}

/-- What a record is in the index, if its value can be told from others. -/
def item? (x : Payload) : Option FailureIndex.Item :=
  x.fuzzValue.key.toOption.map fun k => (x.endpoint, x.method, x.field, k)

theorem item?_of_key {k : FuzzKey} (h : x.fuzzValue.key = .ok k) :
    x.item? = some (x.endpoint, x.method, x.field, k) := by
  rw [item?, h]
  rfl

theorem fuzzType_of_key {k : FuzzKey} (h : x.fuzzValue.key = .ok k) : k.fuzzType = x.fuzzType := by
  obtain ⟨text, -, rfl⟩ := map_eq_ok_iff.1 h
  rfl

theorem item?_eq_iff {k l : FuzzKey} (hx : x.fuzzValue.key = .ok k) (hy : y.fuzzValue.key = .ok l) :
    x.item? = y.item? ↔ x.endpoint = y.endpoint ∧ x.method = y.method ∧ x.field = y.field ∧
      x.fuzzType = y.fuzzType ∧ x.fuzzValue.equals y.fuzzValue = .ok true := by
  have hequals : x.fuzzValue.equals y.fuzzValue = .ok true ↔ k = l := by
    rw [FuzzValue.equals, hx, hy]
    change Except.ok (k == l) = .ok true ↔ _
    rw [Except.ok.injEq, beq_iff_eq]
  have htype : k = l → x.fuzzType = y.fuzzType := fun h => by
    rw [← fuzzType_of_key hx, ← fuzzType_of_key hy, h]
  rw [item?_of_key hx, item?_of_key hy, hequals]
  simp only [Option.some.injEq, Prod.mk.injEq]
  tauto

end Payload

namespace FailureIndex

variable {i i' : FailureIndex}

theorem contains_eq {x : Payload} {k : FuzzKey} (h : x.fuzzValue.key = .ok k) :
    i.contains x = .ok (decide ((x.endpoint, x.method, x.field, k) ∈ i.items)) := by
  rw [contains, h]
  refine congrArg Except.ok ?_
  rw [Bool.eq_iff_iff, FuzzSet.contains_iff, decide_eq_true_eq, mem_items]

/-- Indexes of the same items find the same records and have one size. -/
theorem same_of_items (h : ∀ y, y ∈ i.items ↔ y ∈ i'.items) :
    i.size = i'.size ∧ ∀ x, i.contains x = i'.contains x := by
  constructor
  · rw [size_eq_card, size_eq_card]
    congr 1
    ext y
    simpa using h y
  · intro x
    cases hk : x.fuzzValue.key with
    | error f => rw [contains, contains, hk]; rfl
    | ok k => rw [contains_eq hk, contains_eq hk]; simp only [h]

/-- An index that was made from records has as many items as the records are different. -/
theorem size_of_records {xs : List Payload} (hkeyed : ∀ x ∈ xs, ∃ k, x.fuzzValue.key = .ok k)
    (h : ∀ y, y ∈ i.items ↔ ∃ x ∈ xs, x.item? = some y) :
    i.size = (xs.map Payload.item?).toFinset.card := by
  have himage : (xs.map Payload.item?).toFinset = i.items.toFinset.image some := by
    ext o
    simp only [List.mem_toFinset, List.mem_map, Finset.mem_image, h]
    constructor
    · rintro ⟨x, hx, rfl⟩
      obtain ⟨k, hk⟩ := hkeyed x hx
      exact ⟨_, ⟨x, hx, Payload.item?_of_key hk⟩, (Payload.item?_of_key hk).symm⟩
    · rintro ⟨y, ⟨x, hx, hy⟩, rfl⟩
      exact ⟨x, hx, hy⟩
  rw [size_eq_card, himage, Finset.card_image_of_injective _ (Option.some_injective _)]

end FailureIndex

end Runbook
