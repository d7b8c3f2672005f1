import Runbook.Proofs.Dict

namespace Runbook.Dict

variable {κ α : Type} [BEq κ]

section Keys

theorem find?_isSome_iff {k : κ} {es : List (κ × α)} :
    (find? k es).isSome = es.any fun e => e.1 == k := by
  induction es with
  | nil => rfl
  | cons e es ih =>
    obtain ⟨x, b⟩ := e
    by_cases hx : (x == k) = true <;> simp [find?, hx, ih]

theorem find?_eq_none_iff {k : κ} {es : List (κ × α)} :
    find? k es = none ↔ ∀ e ∈ es, (e.1 == k) = false := by
  rw [← Option.not_isSome_iff_eq_none, find?_isSome_iff]
  simp

theorem contains_eq_any (d : Dict κ α) (k : κ) : d.contains k = d.keys.any (· == k) := by
  rw [contains, get?, find?_isSome_iff, keys, List.any_map]
  rfl

theorem find?_append (k : κ) (es fs : List (κ × α)) :
    find? k (es ++ fs) = (find? k es).or (find? k fs) := by
  induction es with
  | nil => rfl
  | cons e es ih =>
    obtain ⟨x, b⟩ := e
    by_cases hx : (x == k) = true <;> simp [find?, hx, ih]

theorem putIn_keys (k : κ) (a : α) (es : List (κ × α)) :
    (putIn k a es).map (·.1) =
      es.map (·.1) ++ if es.any (fun e => e.1 == k) then [] else [k] := by
  induction es with
  | nil => rfl
  | cons e es ih =>
    obtain ⟨x, b⟩ := e
    cases hx : x == k with
    | true => simp [putIn, hx]
    | false => simp only [putIn, hx, Bool.false_eq_true, if_false, List.map_cons, ih,
        List.any_cons, Bool.false_or, List.cons_append]

theorem keys_put (d : Dict κ α) (k : κ) (a : α) :
    (d.put k a).keys = d.keys ++ if d.contains k then [] else [k] := by
  rw [contains, get?, find?_isSome_iff]
  exact putIn_keys k a d.entries

theorem contains_put_of_ne (d : Dict κ α) {k x : κ} (h : (k == x) = false) (a : α) :
    (d.put k a).contains x = d.contains x := by
  rw [contains_eq_any, keys_put, List.any_append, ← contains_eq_any]
  cases d.contains k <;> simp [h]

theorem keys_putAll (d : Dict κ α) {es : List (κ × α)}
    (h : es.Pairwise fun a b => (a.1 == b.1) = false) :
    (d.putAll es).keys = d.keys ++ (es.map (·.1)).filter fun k => !d.contains k := by
  induction es generalizing d with
  | nil => simp [putAll]
  | cons e es ih =>
    obtain ⟨he, hes⟩ := List.pairwise_cons.1 h
    have hrest : (es.map (·.1)).filter (fun k => !(d.put e.1 e.2).contains k) =
        (es.map (·.1)).filter fun k => !d.contains k := by
      refine List.filter_congr fun k hk => ?_
      obtain ⟨x, hx, rfl⟩ := List.mem_map.1 hk
      rw [contains_put_of_ne d (he x hx)]
    have hput : d.putAll (e :: es) = (d.put e.1 e.2).putAll es := rfl
    rw [hput, ih _ hes, hrest, keys_put, List.map_cons]
    by_cases hc : d.contains e.1 = true <;> simp [hc]

theorem keys_combine (d s : Dict κ α) :
    (d.combine s).keys = d.keys ++ s.keys.filter fun k => !d.contains k :=
  keys_putAll d s.distinct

theorem put_of_not_contains {d : Dict κ α} {k : κ} (h : d.contains k = false) (a : α) :
    (d.put k a).entries = d.entries ++ [(k, a)] := by
  have hnone : find? k d.entries = none := by simpa [contains, get?] using h
  exact putIn_of_new (find?_eq_none_iff.1 hnone) a

theorem entries_fill (d s : Dict κ α) :
    (d.fill s).entries = d.entries ++ s.entries.filter fun e => !d.contains e.1 := by
  obtain ⟨es, hes⟩ := s
  rw [fill]
  dsimp only
  induction es generalizing d with
  | nil => simp
  | cons e es ih =>
    obtain ⟨he, hes⟩ := List.pairwise_cons.1 hes
    rw [List.foldl_cons, ih _ hes]
    by_cases hc : d.contains e.1 = true
    · simp [hc]
    · have hnew := put_of_not_contains (Bool.eq_false_iff.2 hc) e.2
      have hrest : es.filter (fun x => !(d.put e.1 e.2).contains x.1) =
          es.filter fun x => !d.contains x.1 :=
        List.filter_congr fun x hx => by rw [contains_put_of_ne d (he x hx)]
      simp [hc, hnew, hrest]

theorem keys_fill (d s : Dict κ α) :
    (d.fill s).keys = d.keys ++ s.keys.filter fun k => !d.contains k := by
  simp [keys, entries_fill, List.filter_map, Function.comp_def]

end Keys

section Values

variable {k x : κ} {es : List (κ × α)}

theorem find?_congr (hes : ∀ e ∈ es, Proper e.1) (hk : Proper k) (h : (k == x) = true) :
    find? k es = find? x es := by
  induction es with
  | nil => rfl
  | cons e es ih =>
    obtain ⟨y, b⟩ := e
    obtain ⟨he, hes⟩ := List.forall_mem_cons.1 hes
    have hy : (y == k) = (y == x) := by
      refine Bool.eq_iff_iff.2 ⟨fun hyk => ?_, fun hyx => ?_⟩
      · rw [he.congr k hyk, h]
      · rw [he.congr x hyx, hk.symm h]
    simp only [find?, hy, ih hes]

def Sound (d : Dict κ α) : Prop := ∀ k ∈ d.keys, Proper k

theorem Sound.of_lawful [LawfulBEq κ] (d : Dict κ α) : d.Sound := fun k _ => .of_lawful k

variable {d s : Dict κ α}

theorem Sound.of_keys (h : d.Sound) {e : κ × α} (he : e ∈ d.entries) : Proper e.1 :=
  h e.1 (List.mem_map_of_mem he)

theorem get?_put_of_sound (hd : d.Sound) (hk : Proper k) (a : α) (x : κ) :
    (d.put k a).get? x = if k == x then some a else d.get? x :=
  find?_putIn_of_proper (fun _ he => hd.of_keys he) hk a

theorem Sound.put (hd : d.Sound) (hk : Proper k) (a : α) : (d.put k a).Sound := by
  intro x hx
  rw [keys_put] at hx
  rcases List.mem_append.1 hx with hx | hx
  · exact hd x hx
  · cases hc : d.contains k with
    | true => simp [hc] at hx
    | false =>
      obtain rfl : x = k := by simpa [hc] using hx
      exact hk

theorem get?_putAll (hd : d.Sound) (hes : ∀ e ∈ es, Proper e.1)
    (h : es.Pairwise fun a b => (a.1 == b.1) = false) (x : κ) :
    (d.putAll es).get? x = (find? x es).or (d.get? x) := by
  induction es generalizing d with
  | nil => rfl
  | cons e es ih =>
    obtain ⟨hne, hrest⟩ := List.pairwise_cons.1 h
    obtain ⟨k, a⟩ := e
    obtain ⟨hk, hes⟩ := List.forall_mem_cons.1 hes
    have hput : d.putAll ((k, a) :: es) = (d.put k a).putAll es := rfl
    rw [hput, ih (hd.put hk a) hes hrest, get?_put_of_sound hd hk, find?]
    cases hkx : k == x with
    | false => simp
    | true =>
      -- The same key does not come again.
      have hnone : find? x es = none := by
        rw [find?_eq_none_iff]
        intro e he
        refine Bool.eq_false_iff.2 fun hex => ?_
        have hke : (k == e.1) = true := by rw [hk.congr x hkx, (hes e he).symm hex]
        rw [hne e he] at hke
        cases hke
      simp [hnone]

theorem get?_combine (hd : d.Sound) (hs : s.Sound) (x : κ) :
    (d.combine s).get? x = (s.get? x).or (d.get? x) :=
  get?_putAll hd (fun _ he => hs.of_keys he) s.distinct x

theorem Sound.combine (hd : d.Sound) (hs : s.Sound) : (d.combine s).Sound := by
  intro x hx
  rw [keys_combine] at hx
  rcases List.mem_append.1 hx with hx | hx
  · exact hd x hx
  · exact hs x (List.mem_filter.1 hx).1

theorem contains_combine (hd : d.Sound) (hs : s.Sound) (x : κ) :
    (d.combine s).contains x = (d.contains x || s.contains x) := by
  rw [contains, get?_combine hd hs, Option.isSome_or, Bool.or_comm]
  rfl

theorem find?_filter_of_congr (p : κ → Bool) (h : ∀ e ∈ es, (e.1 == x) = true → p e.1 = true) :
    find? x (es.filter fun e => p e.1) = find? x es := by
  induction es with
  | nil => rfl
  | cons e es ih =>
    obtain ⟨y, b⟩ := e
    obtain ⟨hy, hes⟩ := List.forall_mem_cons.1 h
    cases hyx : y == x with
    | true => simp [hy hyx, find?, hyx]
    | false => cases hp : p y <;> simp [hp, find?, hyx, ih hes]

theorem get?_fill (hd : d.Sound) (hs : s.Sound) (x : κ) :
    (d.fill s).get? x = (d.get? x).or (s.get? x) := by
  rw [get?, entries_fill, find?_append]
  cases hx : find? x d.entries with
  | some a => simp [get?, hx]
  | none =>
    rw [get?, hx, Option.none_or, Option.none_or]
    refine find?_filter_of_congr (fun k => !d.contains k) fun e he hex => ?_
    have hnone : d.get? e.1 = none := by
      rw [get?, find?_congr (fun _ => hd.of_keys) (hs.of_keys he) hex, hx]
    simp [contains, hnone]

end Values

end Runbook.Dict
