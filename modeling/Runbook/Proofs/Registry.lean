import Runbook.Proofs.Dict
import Runbook.Registry

namespace Runbook.Registry

variable {r : Registry} {name : String} {s : Suite}

theorem entries_eq (r : Registry) : r.entries = r.byName.entries := by
  have hget : ∀ e ∈ r.byName.entries, (r.get? e.1).map (e.1, ·) = some e := fun e he => by
    rw [get?, Dict.get?_eq_some_iff.2 he, Option.map_some]
  rw [entries, ← r.agree, Dict.keys, List.filterMap_map]
  calc
    _ = r.byName.entries.filterMap some := List.filterMap_congr hget
    _ = r.byName.entries := List.filterMap_some

theorem values_eq (r : Registry) : r.values = r.byName.values := by
  rw [values, entries_eq]
  rfl

theorem eq_of_byName {q : Registry} (h : r.byName = q.byName) : r = q := by
  obtain ⟨d, order, hd⟩ := r
  obtain ⟨d', order', hd'⟩ := q
  cases h
  cases hd.symm.trans hd'
  rfl

theorem eq_of_entries {q : Registry} (h : r.entries = q.entries) : r = q := by
  rw [entries_eq, entries_eq] at h
  exact eq_of_byName (Dict.eq_of_entries h)

theorem get?_eq_some_iff : r.get? name = some s ↔ (name, s) ∈ r.entries := by
  rw [entries_eq]
  exact Dict.get?_eq_some_iff

theorem mem_values_of_get? (h : r.get? name = some s) : s ∈ r.values := by
  rw [values_eq]
  exact Dict.mem_values_of_get? h

theorem mem_order_iff (r : Registry) (name : String) : name ∈ r.order ↔ (r.get? name).isSome := by
  rw [← r.agree]
  exact Dict.mem_keys_iff r.byName name

theorem contains_iff (r : Registry) (name : String) : r.contains name = true ↔ name ∈ r.order :=
  (r.mem_order_iff name).symm

theorem nodup_order (r : Registry) : r.order.Nodup := by
  rw [← r.agree]
  exact r.byName.nodup_keys

theorem map_fst_entries (r : Registry) : r.entries.map (·.1) = r.order := by
  rw [entries_eq, ← r.agree]
  rfl

theorem values_of_get? {α : Type} {as : List α} {f : α → String} {g : α → Suite}
    (horder : r.order = as.map f) (hget : ∀ a ∈ as, r.get? (f a) = some (g a)) :
    r.values = as.map g := by
  rw [values_eq]
  exact Dict.values_of_get? (r.agree.trans horder) hget

theorem get?_put (r : Registry) (name n : String) (s : Suite) :
    (r.put name s).get? n = if name == n then some s else r.get? n :=
  Dict.get?_put r.byName name n s

theorem order_put_of_new (h : name ∉ r.order) (s : Suite) :
    (r.put name s).order = r.order ++ [name] := by
  rw [← contains_iff] at h
  exact if_neg h

theorem entries_put_of_new (h : name ∉ r.order) (s : Suite) :
    (r.put name s).entries = r.entries ++ [(name, s)] := by
  rw [← r.agree] at h
  rw [entries_eq, entries_eq]
  exact Dict.entries_put_of_new h s

theorem put_of_get? (h : r.get? name = some s) : r.put name s = r :=
  eq_of_byName (Dict.put_of_get? h)

theorem get?_mapValues (f : Suite → Suite) (r : Registry) (name : String) :
    (r.mapValues f).get? name = (r.get? name).map f := Dict.get?_mapValues f r.byName name

theorem mapValues_put (f : Suite → Suite) (r : Registry) (name : String) (s : Suite) :
    (r.put name s).mapValues f = (r.mapValues f).put name (f s) :=
  eq_of_byName (Dict.mapValues_put f r.byName name s)

end Runbook.Registry
