import Runbook.Proofs.Fault
import Runbook.Proofs.Json.Textual
import Runbook.Value.Json

namespace Runbook.Value

variable {r : JsonRules} {d : Nat} {j : Json}

theorem keys_ofJsonEntries (es : List (String × Json)) :
    (ofJsonEntries es).map (·.1) = es.map fun e => str e.1 := by
  induction es with
  | nil => rfl
  | cons e es ih => exact congrArg (str e.1 :: ·) ih

theorem comparable_ofJsonEntries (es : List (String × Json)) :
    comparable ((ofJsonEntries es).map (·.1)) = true := by
  have htexts : ((ofJsonEntries es).map (·.1)).all isText = true := by
    rw [keys_ofJsonEntries, List.all_map, List.all_eq_true]
    exact fun e _ => rfl
  rw [comparable, htexts, Bool.or_true, Bool.true_or]

theorem depths_ofJsons {js : List Json} (h : ∀ j ∈ js, (ofJson j).depth ≤ d) :
    depths (ofJsons js) ≤ d := by
  induction js with
  | nil => exact Nat.zero_le d
  | cons j js ih =>
    obtain ⟨hj, hjs⟩ := List.forall_mem_cons.1 h
    rw [ofJsons, depths]
    exact Nat.max_le.2 ⟨hj, ih hjs⟩

theorem entryDepths_ofJsonEntries {es : List (String × Json)} (h : ∀ e ∈ es, (ofJson e.2).depth ≤ d) :
    entryDepths (ofJsonEntries es) ≤ d := by
  induction es with
  | nil => exact Nat.zero_le d
  | cons e es ih =>
    obtain ⟨he, hes⟩ := List.forall_mem_cons.1 h
    rw [ofJsonEntries, entryDepths]
    exact Nat.max_le.2 ⟨he, ih hes⟩

theorem depth_ofJson (h : j.Readable d) : (ofJson j).depth ≤ d + 1 := by
  induction h with
  | list h ih => exact Nat.succ_le_succ (depths_ofJsons ih)
  | map hkeys h ih => exact Nat.succ_le_succ (entryDepths_ofJsonEntries ih)
  | _ => exact Nat.succ_le_succ (Nat.zero_le _)

theorem isSome_intText? {n : Int} (h : (natDigits n.natAbs).length ≤ Numeral.digitLimit) :
    (intText? n).isSome := by
  simp [intText?, h]

section Parts

variable {g : Json → Json}

theorem toJsons_ofJsons {js : List Json} (h : ∀ j ∈ js, (ofJson j).toJson r = .ok (g j)) :
    toJsons r (ofJsons js) = .ok (js.map g) := by
  induction js with
  | nil => rfl
  | cons j js ih =>
    obtain ⟨hj, hjs⟩ := List.forall_mem_cons.1 h
    rw [ofJsons, toJsons, hj, ih hjs]
    rfl

theorem toJsonEntries_ofJsonEntries (hkey : ∀ s, r.key (.str s) = .ok s)
    {es : List (String × Json)} (h : ∀ e ∈ es, (ofJson e.2).toJson r = .ok (g e.2)) :
    toJsonEntries r (ofJsonEntries es) = .ok (es.map fun e => (str e.1, (e.1, g e.2))) := by
  induction es with
  | nil => rfl
  | cons e es ih =>
    obtain ⟨he, hes⟩ := List.forall_mem_cons.1 h
    rw [ofJsonEntries, toJsonEntries, hkey, he, ih hes]
    rfl

end Parts

section Keeping

/-- Rules that write the data of documents as it is. -/
structure JsonRules.Keeps (r : JsonRules) : Prop where
  whole : ∀ n, (intText? n).isSome → r.whole n = .ok (.int n)
  number : ∀ s m, r.number (.finite s m) = .ok (.float (.finite s m))
  key : ∀ s, r.key (.str s) = .ok s
  unsorted : r.sorted = false

theorem toJson_map (hr : r.Keeps) {es : List (String × Json)}
    (h : ∀ e ∈ es, (ofJson e.2).toJson r = .ok e.2) :
    (ofJson (.map es)).toJson r = .ok (.map es) := by
  rw [ofJson, toJson, hr.unsorted, Bool.false_and, if_neg (by simp),
    toJsonEntries_ofJsonEntries (g := id) hr.key h, Except.map, if_neg (by simp), List.map_map]
  exact congrArg (Except.ok ∘ Json.map) (List.map_id es)

theorem toJson_list {js : List Json} (h : ∀ j ∈ js, (ofJson j).toJson r = .ok j) :
    (ofJson (.list js)).toJson r = .ok (.list js) := by
  rw [ofJson, toJson, toJsons_ofJsons (g := id) h, List.map_id]
  rfl

theorem toJson_ofJson (hr : r.Keeps) (h : j.Readable d) : (ofJson j).toJson r = .ok j := by
  induction h with
  | null => rfl
  | bool b => rfl
  | int h => exact hr.whole _ (isSome_intText? h)
  | float s m => exact hr.number s m
  | str s => rfl
  | emptyList => rfl
  | emptyMap => exact toJson_map hr (List.forall_mem_nil _)
  | list h ih => exact toJson_list ih
  | map hkeys h ih => exact toJson_map hr ih

end Keeping

section Finding

/-- Rules that find a text for every text that is a key, and a number for every number. -/
structure JsonRules.Finds (r : JsonRules) : Prop where
  whole : ∀ n, (intText? n).isSome → ∃ j, r.whole n = .ok j
  number : ∀ x, ∃ j, r.number x = .ok j
  key : ∀ s, ∃ t, r.key (.str s) = .ok t

theorem exists_toJsons {js : List Json} (h : ∀ j ∈ js, ∃ j', (ofJson j).toJson r = .ok j') :
    ∃ js', toJsons r (ofJsons js) = .ok js' := by
  induction js with
  | nil => exact ⟨[], rfl⟩
  | cons j js ih =>
    obtain ⟨⟨j', hj⟩, hjs⟩ := List.forall_mem_cons.1 h
    obtain ⟨js', hjs'⟩ := ih hjs
    exact ⟨j' :: js', by rw [ofJsons, toJsons, hj, hjs']; rfl⟩

theorem exists_toJsonEntries (hr : r.Finds) {es : List (String × Json)}
    (h : ∀ e ∈ es, ∃ j', (ofJson e.2).toJson r = .ok j') :
    ∃ es', toJsonEntries r (ofJsonEntries es) = .ok es' := by
  induction es with
  | nil => exact ⟨[], rfl⟩
  | cons e es ih =>
    obtain ⟨⟨j', he⟩, hes⟩ := List.forall_mem_cons.1 h
    obtain ⟨es', hes'⟩ := ih hes
    obtain ⟨t, ht⟩ := hr.key e.1
    exact ⟨(str e.1, t, j') :: es', by rw [ofJsonEntries, toJsonEntries, ht, he, hes']; rfl⟩

theorem exists_toJson_map (hr : r.Finds) {es : List (String × Json)}
    (h : ∀ e ∈ es, ∃ j', (ofJson e.2).toJson r = .ok j') :
    ∃ j', (ofJson (.map es)).toJson r = .ok j' := by
  obtain ⟨es', hes'⟩ := exists_toJsonEntries hr h
  rw [ofJson, toJson, comparable_ofJsonEntries, Bool.not_true, Bool.and_false,
    if_neg (by simp), hes']
  exact ⟨_, rfl⟩

theorem exists_toJson_list {js : List Json} (h : ∀ j ∈ js, ∃ j', (ofJson j).toJson r = .ok j') :
    ∃ j', (ofJson (.list js)).toJson r = .ok j' := by
  obtain ⟨js', hjs'⟩ := exists_toJsons h
  exact ⟨.list js', by rw [ofJson, toJson, hjs']; rfl⟩

theorem exists_toJson (hr : r.Finds) (h : j.Textual) : ∃ j', (ofJson j).toJson r = .ok j' := by
  induction h with
  | null => exact ⟨.null, rfl⟩
  | bool b => exact ⟨.bool b, rfl⟩
  | int h => exact hr.whole _ (isSome_intText? h)
  | float x => exact hr.number x
  | str s => exact ⟨.str s, rfl⟩
  | list h ih => exact exists_toJson_list ih
  | map h ih => exact exists_toJson_map hr ih

end Finding

end Runbook.Value
