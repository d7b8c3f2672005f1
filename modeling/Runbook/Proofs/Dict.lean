import Runbook.Dict
import Mathlib.Data.List.Forall2

namespace Runbook.Dict

section Entries

variable {κ α β : Type} [BEq κ]

theorem putIn_cases (k : κ) (a : α) (es : List (κ × α)) :
    (putIn k a es).length = es.length ∨ putIn k a es = es ++ [(k, a)] := by
  induction es with
  | nil => exact .inr rfl
  | cons e es ih =>
    obtain ⟨x, b⟩ := e
    by_cases hx : (x == k) = true
    · simp [putIn, hx]
    · simpa [putIn, hx] using ih

theorem putIn_of_new {k : κ} {es : List (κ × α)} (h : ∀ e ∈ es, (e.1 == k) = false) (a : α) :
    putIn k a es = es ++ [(k, a)] := by
  induction es with
  | nil => rfl
  | cons e es ih =>
    obtain ⟨he, hes⟩ := List.forall_mem_cons.1 h
    simp [putIn, he, ih hes]

theorem size_putAll_le (d : Dict κ α) (es : List (κ × α)) :
    (d.putAll es).size ≤ d.size + es.length := by
  induction es generalizing d with
  | nil => exact Nat.le_refl _
  | cons e es ih =>
    have hes : (d.putAll (e :: es)).size ≤ (d.put e.1 e.2).size + es.length := ih _
    have he : (d.put e.1 e.2).size ≤ d.size + 1 := by
      rcases putIn_cases e.1 e.2 d.entries with h | h <;> simp [put, size, h]
    rw [List.length_cons]
    omega

theorem size_ofList_le (es : List (κ × α)) : (ofList es).size ≤ es.length := by
  have h := size_putAll_le (empty : Dict κ α) es
  have hempty : (empty : Dict κ α).size = 0 := rfl
  rwa [hempty, Nat.zero_add] at h

theorem entries_putAll_of_size {d : Dict κ α} {es : List (κ × α)}
    (h : (d.putAll es).size = d.size + es.length) : (d.putAll es).entries = d.entries ++ es := by
  induction es generalizing d with
  | nil => exact (List.append_nil _).symm
  | cons e es ih =>
    have hle := size_putAll_le (d.put e.1 e.2) es
    have hput : (d.putAll (e :: es)) = (d.put e.1 e.2).putAll es := rfl
    rw [hput, List.length_cons] at h
    rcases putIn_cases e.1 e.2 d.entries with hold | hnew
    · have hsize : (d.put e.1 e.2).size = d.size := hold
      omega
    · have hentries : (d.put e.1 e.2).entries = d.entries ++ [e] := hnew
      have hsize : (d.put e.1 e.2).size = d.size + 1 := by simp [size, hentries]
      rw [hput, ih (by omega), hentries, List.append_assoc]
      rfl

theorem entries_putAll_of_distinct {d : Dict κ α} {es : List (κ × α)}
    (h : (d.entries ++ es).Pairwise fun a b => (a.1 == b.1) = false) :
    (d.putAll es).entries = d.entries ++ es := by
  induction es generalizing d with
  | nil => exact (List.append_nil _).symm
  | cons e es ih =>
    have hput : (d.putAll (e :: es)) = (d.put e.1 e.2).putAll es := rfl
    have hnew : (d.put e.1 e.2).entries = d.entries ++ [e] :=
      putIn_of_new (fun x hx => (List.pairwise_append.1 h).2.2 x hx e List.mem_cons_self) e.2
    have hes : (d.entries ++ [e]) ++ es = d.entries ++ e :: es := by simp
    rw [hput, ih (by rw [hnew, hes]; exact h), hnew, hes]

theorem entries_ofList_of_distinct {es : List (κ × α)}
    (h : es.Pairwise fun a b => (a.1 == b.1) = false) : (ofList es).entries = es :=
  entries_putAll_of_distinct h

theorem eq_of_entries {d e : Dict κ α} (h : d.entries = e.entries) : d = e := by
  obtain ⟨es, hes⟩ := d
  obtain ⟨fs, hfs⟩ := e
  simpa only [mk.injEq] using h

theorem ofList_entries (d : Dict κ α) : ofList d.entries = d :=
  eq_of_entries (entries_ofList_of_distinct d.distinct)

theorem size_ofList_eq_iff {es : List (κ × α)} :
    (ofList es).size = es.length ↔ es.Pairwise fun a b => (a.1 == b.1) = false := by
  constructor
  · intro h
    have hentries : (ofList es).entries = es :=
      entries_putAll_of_size (h.trans (Nat.zero_add _).symm)
    rw [← hentries]
    exact (ofList es).distinct
  · intro h
    rw [size, entries_ofList_of_distinct h]

theorem key_mem_putAll {d : Dict κ α} {es : List (κ × α)} {e : κ × α}
    (h : e ∈ (d.putAll es).entries) : e.1 ∈ d.keys ++ es.map (·.1) := by
  induction es generalizing d with
  | nil => exact List.mem_append_left _ (List.mem_map_of_mem h)
  | cons x es ih =>
    rcases List.mem_append.1 (ih (d := d.put x.1 x.2) h) with hput | hes
    · obtain ⟨e', he', hkey⟩ := List.mem_map.1 hput
      rw [← hkey]
      rcases fst_of_mem_putIn he' with hx | ⟨e'', hmem, hold⟩
      · simp [hx]
      · exact List.mem_append_left _ (hold ▸ List.mem_map_of_mem hmem)
    · exact List.mem_append_right _ (List.mem_cons_of_mem _ hes)

theorem mem_values_put {d : Dict κ α} {k : κ} {a b : α} (h : b ∈ (d.put k a).values) :
    b = a ∨ b ∈ d.values := by
  obtain ⟨es, hes⟩ := d
  simp only [put, values] at h ⊢
  clear hes
  induction es with
  | nil => exact .inl (List.mem_singleton.1 h)
  | cons e es ih =>
    obtain ⟨x, c⟩ := e
    by_cases hx : (x == k) = true
    · rw [putIn, if_pos hx, List.map_cons, List.mem_cons] at h
      exact h.imp_right (List.mem_cons_of_mem c)
    · rw [putIn, if_neg hx, List.map_cons, List.mem_cons] at h
      rcases h with rfl | h
      · exact .inr List.mem_cons_self
      · exact (ih h).imp_right (List.mem_cons_of_mem c)

theorem exists_key_putIn (k : κ) (a : α) (es : List (κ × α)) :
    ∃ e ∈ putIn k a es, e.1 = k ∨ (e.1 == k) = true := by
  induction es with
  | nil => exact ⟨(k, a), List.mem_cons_self, .inl rfl⟩
  | cons e es ih =>
    obtain ⟨x, b⟩ := e
    by_cases hx : (x == k) = true
    · exact ⟨(x, a), by simp [putIn, hx], .inr hx⟩
    · obtain ⟨e, he, hk⟩ := ih
      exact ⟨e, by simp [putIn, hx, he], hk⟩

theorem key_mem_putIn {k : κ} {a : α} {es : List (κ × α)} {e : κ × α} (h : e ∈ es) :
    ∃ e' ∈ putIn k a es, e'.1 = e.1 := by
  induction es with
  | nil => cases h
  | cons x es ih =>
    obtain ⟨x, b⟩ := x
    by_cases hx : (x == k) = true
    · rcases List.mem_cons.1 h with rfl | h
      · exact ⟨(x, a), by simp [putIn, hx], rfl⟩
      · exact ⟨e, by simp [putIn, hx, h], rfl⟩
    · rcases List.mem_cons.1 h with rfl | h
      · exact ⟨(x, b), by simp [putIn, hx], rfl⟩
      · obtain ⟨e', he', hk⟩ := ih h
        exact ⟨e', by simp [putIn, hx, he'], hk⟩

theorem keys_subset_putAll (d : Dict κ α) (es : List (κ × α)) : d.keys ⊆ (d.putAll es).keys := by
  induction es generalizing d with
  | nil => exact List.Subset.refl _
  | cons x es ih =>
    refine List.Subset.trans (fun k hk => ?_) (ih (d.put x.1 x.2))
    obtain ⟨e, he, rfl⟩ := List.mem_map.1 hk
    obtain ⟨e', he', hkey⟩ := key_mem_putIn (k := x.1) (a := x.2) he
    exact hkey ▸ List.mem_map_of_mem he'

theorem exists_key_putAll (d : Dict κ α) {es : List (κ × α)} {k : κ} (h : k ∈ es.map (·.1)) :
    ∃ k' ∈ (d.putAll es).keys, k' = k ∨ (k' == k) = true := by
  induction es generalizing d with
  | nil => cases h
  | cons x es ih =>
    rcases List.mem_cons.1 h with rfl | h
    · obtain ⟨e, he, hk⟩ := exists_key_putIn x.1 x.2 d.entries
      exact ⟨e.1, keys_subset_putAll (d.put x.1 x.2) es (List.mem_map_of_mem he), hk⟩
    · exact ih (d.put x.1 x.2) h

theorem forall₂_putIn {R : α → β → Prop} {es : List (κ × α)} {fs : List (κ × β)}
    (h : List.Forall₂ (fun e f => e.1 = f.1 ∧ R e.2 f.2) es fs) (k : κ) {a : α} {b : β}
    (hab : R a b) :
    List.Forall₂ (fun e f => e.1 = f.1 ∧ R e.2 f.2) (putIn k a es) (putIn k b fs) := by
  induction h with
  | nil => exact .cons ⟨rfl, hab⟩ .nil
  | @cons e f es fs hef hes ih =>
    obtain ⟨x, c⟩ := e
    obtain ⟨y, c'⟩ := f
    obtain ⟨rfl, hc⟩ : x = y ∧ R c c' := hef
    by_cases hx : (x == k) = true
    · simpa [putIn, hx] using ⟨hab, hes⟩
    · simpa [putIn, hx] using ⟨hc, ih⟩

theorem forall₂_putAll {R : α → β → Prop} {es : List (κ × α)} {fs : List (κ × β)}
    (h : List.Forall₂ (fun e f => e.1 = f.1 ∧ R e.2 f.2) es fs) {d : Dict κ α} {d' : Dict κ β}
    (hd : List.Forall₂ (fun e f => e.1 = f.1 ∧ R e.2 f.2) d.entries d'.entries) :
    List.Forall₂ (fun e f => e.1 = f.1 ∧ R e.2 f.2)
      (d.putAll es).entries (d'.putAll fs).entries := by
  induction h generalizing d d' with
  | nil => exact hd
  | @cons e f es fs hef hes ih =>
    have hput : List.Forall₂ (fun e f => e.1 = f.1 ∧ R e.2 f.2)
        (d.put e.1 e.2).entries (d'.put f.1 f.2).entries := by
      simpa only [put, hef.1] using forall₂_putIn hd e.1 hef.2
    exact ih hput

/-- A key that is equal to itself and to nothing that is not equal to the same keys. -/
structure Proper (k : κ) : Prop where
  refl : (k == k) = true
  congr : ∀ x, (k == x) = true → ∀ y, (k == y) = (x == y)

theorem Proper.of_lawful [LawfulBEq κ] (k : κ) : Proper k where
  refl := beq_self_eq_true k
  congr x h y := by rw [eq_of_beq h]

theorem Proper.symm {k x : κ} (h : Proper k) (hx : (k == x) = true) : (x == k) = true := by
  rw [← h.congr x hx k, h.refl]

theorem find?_putIn_of_proper {k x : κ} {es : List (κ × α)} (hes : ∀ e ∈ es, Proper e.1)
    (hk : Proper k) (a : α) :
    find? x (putIn k a es) = if k == x then some a else find? x es := by
  induction es with
  | nil => rfl
  | cons e es ih =>
    obtain ⟨y, b⟩ := e
    obtain ⟨he, hes⟩ := List.forall_mem_cons.1 hes
    by_cases hy : (y == k) = true
    · simp only [putIn, hy, if_true, find?, he.congr k hy x]
      split <;> rfl
    · simp only [putIn, hy, if_false, Bool.false_eq_true, find?, ih hes]
      by_cases hyx : (y == x) = true
      · have hkx : (k == x) = false := by
          refine Bool.eq_false_iff.2 fun hkx => hy ?_
          rw [he.congr x hyx, hk.symm hkx]
        simp [hyx, hkx]
      · simp [hyx]

end Entries

variable {κ α : Type} [BEq κ] [LawfulBEq κ]

theorem find?_putIn (k k' : κ) (a : α) (es : List (κ × α)) :
    find? k' (putIn k a es) = if k == k' then some a else find? k' es :=
  find?_putIn_of_proper (fun e _ => .of_lawful e.1) (.of_lawful k) a

theorem get?_put (d : Dict κ α) (k k' : κ) (a : α) :
    (d.put k a).get? k' = if k == k' then some a else d.get? k' :=
  find?_putIn k k' a d.entries

omit [LawfulBEq κ] in
theorem mem_values_of_get? {d : Dict κ α} {k : κ} {a : α} (h : d.get? k = some a) :
    a ∈ d.values := by
  obtain ⟨es, hes⟩ := d
  simp only [values, get?] at h ⊢
  clear hes
  induction es with
  | nil => cases h
  | cons e es ih =>
    obtain ⟨x, b⟩ := e
    rw [find?] at h
    split at h
    · cases h
      exact List.mem_cons_self
    · exact List.mem_cons_of_mem _ (ih h)

theorem mem_keys_iff (d : Dict κ α) (k : κ) : k ∈ d.keys ↔ (d.get? k).isSome := by
  obtain ⟨es, hes⟩ := d
  simp only [keys, get?]
  clear hes
  induction es with
  | nil => simp [find?]
  | cons e es ih =>
    obtain ⟨x, b⟩ := e
    by_cases hx : x = k
    · simp [find?, hx]
    · have hx' : (x == k) = false := by simpa using hx
      simp only [List.map_cons, List.mem_cons, find?, hx', Bool.false_eq_true, if_false, ← ih]
      simp [Ne.symm hx]

theorem nodup_keys (d : Dict κ α) : d.keys.Nodup :=
  List.pairwise_map.2 (d.distinct.imp beq_eq_false_iff_ne.1)

theorem get?_eq_some_iff {d : Dict κ α} {k : κ} {a : α} :
    d.get? k = some a ↔ (k, a) ∈ d.entries := by
  obtain ⟨es, hes⟩ := d
  simp only [get?]
  induction es with
  | nil => simp [find?]
  | cons e es ih =>
    obtain ⟨x, b⟩ := e
    rw [List.pairwise_cons] at hes
    by_cases hx : x = k
    · subst x
      have hk : (k, a) ∉ es := fun h => by simpa using hes.1 _ h
      simp [find?, hk, eq_comm]
    · have hx' : (x == k) = false := by simpa using hx
      simp [find?, hx', ih hes.2, Ne.symm hx]

theorem values_of_get? {β : Type} {d : Dict κ α} {as : List β} {f : β → κ} {g : β → α}
    (hkeys : d.keys = as.map f) (hget : ∀ a ∈ as, d.get? (f a) = some (g a)) :
    d.values = as.map g := by
  have hmem : ∀ a ∈ as, (f a, g a) ∈ d.entries := fun a ha => get?_eq_some_iff.1 (hget a ha)
  obtain ⟨es, hes⟩ := d
  simp only [keys, values] at hkeys hmem ⊢
  clear hget
  induction es generalizing as with
  | nil =>
    obtain rfl : as = [] := List.map_eq_nil_iff.1 hkeys.symm
    rfl
  | cons e es ih =>
    cases as with
    | nil => cases hkeys
    | cons a as =>
      rw [List.map_cons, List.map_cons] at hkeys
      obtain ⟨hfirst, hrest⟩ := List.cons.inj hkeys
      obtain ⟨hne, hes⟩ := List.pairwise_cons.1 hes
      obtain ⟨ha, has⟩ := List.forall_mem_cons.1 hmem
      have hvalue : e.2 = g a := by
        rcases List.mem_cons.1 ha with he | he
        · rw [← he]
        · have hnot := hne _ he
          simp [hfirst] at hnot
      have htail : ∀ b ∈ as, (f b, g b) ∈ es := by
        intro b hb
        rcases List.mem_cons.1 (has b hb) with he | he
        · have hin : f b ∈ es.map (·.1) := hrest ▸ List.mem_map_of_mem hb
          obtain ⟨e', he', hkey⟩ := List.mem_map.1 hin
          have hnot := hne e' he'
          rw [hkey, ← he] at hnot
          simp at hnot
        · exact he
      rw [List.map_cons, List.map_cons, hvalue, ih hes hrest htail]

theorem entries_put_of_new {d : Dict κ α} {k : κ} (h : k ∉ d.keys) (a : α) :
    (d.put k a).entries = d.entries ++ [(k, a)] := by
  refine putIn_of_new (fun e he => beq_eq_false_iff_ne.2 fun hk => h ?_) a
  exact hk ▸ List.mem_map_of_mem he

omit [LawfulBEq κ] in
theorem length_keys (d : Dict κ α) : d.keys.length = d.size := List.length_map _

theorem putIn_of_find? {k : κ} {a : α} {es : List (κ × α)} (h : find? k es = some a) :
    putIn k a es = es := by
  induction es with
  | nil => simp [find?] at h
  | cons e es ih =>
    obtain ⟨x, b⟩ := e
    by_cases hx : x = k
    · simp_all [find?, putIn]
    · have hx' : (x == k) = false := by simpa using hx
      simp only [find?, hx', Bool.false_eq_true, if_false] at h
      simp [putIn, hx, ih h]

theorem put_of_get? {d : Dict κ α} {k : κ} {a : α} (h : d.get? k = some a) : d.put k a = d := by
  obtain ⟨es, hes⟩ := d
  simp only [put, mk.injEq]
  exact putIn_of_find? h

variable {β : Type}

theorem find?_map (f : α → β) (k : κ) (es : List (κ × α)) :
    find? k (es.map fun e => (e.1, f e.2)) = (find? k es).map f := by
  induction es with
  | nil => rfl
  | cons e es ih =>
    obtain ⟨x, b⟩ := e
    by_cases hx : x = k
    · simp [find?, hx]
    · simp [find?, hx, ih]

theorem get?_mapValues (f : α → β) (d : Dict κ α) (k : κ) :
    (d.mapValues f).get? k = (d.get? k).map f := find?_map f k d.entries

omit [LawfulBEq κ] in
theorem keys_mapValuesM {ε : Type} {f : α → Except ε β} {d : Dict κ α} {d' : Dict κ β}
    (h : d.mapValuesM f = .ok d') : d'.keys = d.keys := by
  unfold mapValuesM at h
  split at h
  · cases h
  · rename_i es hes
    cases h
    exact keys_traverse hes

omit [LawfulBEq κ] in
theorem map_putIn (f : α → β) (k : κ) (a : α) (es : List (κ × α)) :
    (putIn k a es).map (fun e => (e.1, f e.2)) = putIn k (f a) (es.map fun e => (e.1, f e.2)) := by
  induction es with
  | nil => rfl
  | cons e es ih =>
    obtain ⟨x, b⟩ := e
    by_cases hx : (x == k) = true
    · simp [putIn, hx]
    · simp [putIn, hx, ih]

omit [LawfulBEq κ] in
theorem mapValues_put (f : α → β) (d : Dict κ α) (k : κ) (a : α) :
    (d.put k a).mapValues f = (d.mapValues f).put k (f a) := by
  simp only [put, mapValues, mk.injEq]
  exact map_putIn f k a d.entries

theorem filter_putIn {p : κ → Bool} {k : κ} (hk : p k = false) (a : α) (es : List (κ × α)) :
    (putIn k a es).filter (fun e => p e.1) = es.filter fun e => p e.1 := by
  induction es with
  | nil => simp [putIn, hk]
  | cons e es ih =>
    obtain ⟨x, b⟩ := e
    by_cases hx : x = k
    · simp [putIn, hx, hk]
    · simp [putIn, hx, List.filter_cons, ih]

theorem filter_putAll {p : κ → Bool} {es : List (κ × α)} (hes : ∀ e ∈ es, p e.1 = false)
    (d : Dict κ α) : (d.putAll es).entries.filter (fun e => p e.1) =
      d.entries.filter fun e => p e.1 := by
  induction es generalizing d with
  | nil => rfl
  | cons e es ih =>
    obtain ⟨he, hes⟩ := List.forall_mem_cons.1 hes
    have hput : d.putAll (e :: es) = (d.put e.1 e.2).putAll es := rfl
    rw [hput, ih hes, put, filter_putIn he]

end Runbook.Dict
