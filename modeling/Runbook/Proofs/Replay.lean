import Runbook.Proofs.Params

namespace Runbook

namespace Dict

variable {κ α β : Type} [BEq κ]

section Extensionality

variable {d d' : Dict κ α}

theorem get?_of_mem (hd : d.Sound) {e : κ × α} (he : e ∈ d.entries) : d.get? e.1 = some e.2 := by
  have hrefl : (e.1 == e.1) = true := (hd.of_keys he).refl
  obtain ⟨es, hes⟩ := d
  simp only [get?] at he ⊢
  clear hd
  induction es with
  | nil => cases he
  | cons x es ih =>
    obtain ⟨hx, hes⟩ := List.pairwise_cons.1 hes
    obtain rfl | he := List.mem_cons.1 he
    · simp [find?, hrefl]
    · simp [find?, hx e he, ih hes he]

theorem entries_eq_filterMap (hd : d.Sound) :
    d.entries = d.keys.filterMap fun k => (d.get? k).map fun a => (k, a) := by
  rw [keys, List.filterMap_map]
  calc d.entries = d.entries.filterMap some := List.filterMap_some.symm
    _ = _ := List.filterMap_congr fun e he => by simp [get?_of_mem hd he]

theorem eq_of_get? (hd : d.Sound) (hkeys : d'.keys = d.keys) (hget : ∀ k, d'.get? k = d.get? k) :
    d' = d := by
  have hd' : d'.Sound := fun k hk => hd k (hkeys ▸ hk)
  apply eq_of_entries
  rw [entries_eq_filterMap hd', entries_eq_filterMap hd, hkeys]
  simp only [hget]

end Extensionality

section Keys

variable {d s : Dict κ α}

theorem contains_of_keys (hkeys : d.keys = s.keys) (k : κ) : d.contains k = s.contains k := by
  rw [contains_eq_any, contains_eq_any, hkeys]

theorem keys_combine_of_contained (h : ∀ k ∈ s.keys, d.contains k = true) :
    (d.combine s).keys = d.keys := by
  have hnew : (s.keys.filter fun k => !d.contains k) = [] :=
    List.filter_eq_nil_iff.2 fun k hk => by simp [h k hk]
  rw [keys_combine, hnew, List.append_nil]

end Keys

def combineAll (g : β → Dict κ α) (d : Dict κ α) (bs : List β) : Dict κ α :=
  bs.foldl (fun d b => d.combine (g b)) d

variable {g : β → Dict κ α} {d : Dict κ α} {bs : List β}

theorem combineAll_cons (g : β → Dict κ α) (d : Dict κ α) (b : β) (bs : List β) :
    combineAll g d (b :: bs) = combineAll g (d.combine (g b)) bs := rfl

theorem Sound.combineAll (hd : d.Sound) (hbs : ∀ b ∈ bs, (g b).Sound) :
    (combineAll g d bs).Sound := by
  induction bs generalizing d with
  | nil => exact hd
  | cons b bs ih =>
    obtain ⟨hb, hbs⟩ := List.forall_mem_cons.1 hbs
    exact ih (hd.combine hb) hbs

theorem get?_combineAll (hd : d.Sound) (hbs : ∀ b ∈ bs, (g b).Sound) (k : κ) :
    (combineAll g d bs).get? k =
      (bs.reverse.findSome? fun b => (g b).get? k).or (d.get? k) := by
  induction bs generalizing d with
  | nil => rfl
  | cons b bs ih =>
    obtain ⟨hb, hbs⟩ := List.forall_mem_cons.1 hbs
    have hlast : ([b].findSome? fun b => (g b).get? k) = (g b).get? k := by
      rw [List.findSome?_cons]
      cases (g b).get? k <;> rfl
    rw [combineAll_cons, ih (hd.combine hb) hbs, get?_combine hd hb, List.reverse_cons,
      List.findSome?_append, hlast, Option.or_assoc]

theorem contains_combineAll (hd : d.Sound) (hbs : ∀ b ∈ bs, (g b).Sound) {b : β} (hb : b ∈ bs)
    {k : κ} (hk : k ∈ (g b).keys) : (combineAll g d bs).contains k = true := by
  have hrefl : (k == k) = true := (hbs b hb k hk).refl
  have hfound : ((g b).get? k).isSome = true := by
    have hany := contains_eq_any (g b) k
    rw [contains] at hany
    rw [hany]
    exact List.any_eq_true.2 ⟨k, hk, hrefl⟩
  have hlast : (bs.reverse.findSome? fun b => (g b).get? k).isSome = true :=
    List.findSome?_isSome_iff.2 ⟨b, List.mem_reverse.2 hb, hfound⟩
  rw [contains, get?_combineAll hd hbs, Option.isSome_or, hlast, Bool.true_or]

theorem keys_combineAll_of_contained (h : ∀ b ∈ bs, ∀ k ∈ (g b).keys, d.contains k = true) :
    (combineAll g d bs).keys = d.keys := by
  induction bs generalizing d with
  | nil => rfl
  | cons b bs ih =>
    obtain ⟨hb, hbs⟩ := List.forall_mem_cons.1 h
    have hkeys := keys_combine_of_contained hb
    have hrest : ∀ b' ∈ bs, ∀ k ∈ (g b').keys, (d.combine (g b)).contains k = true := by
      intro b' hb' k hk
      rw [contains_of_keys hkeys, hbs b' hb' k hk]
    rw [combineAll_cons, ih hrest, hkeys]

/-- Dictionaries that are laid over a first one are all there: to lay some of them over it again, and
then all of them, changes nothing. -/
theorem combineAll_replay {cs : List β} (hd : d.Sound) (hbs : ∀ b ∈ bs, (g b).Sound)
    (hcs : cs ⊆ bs) :
    combineAll g (combineAll g (combineAll g d bs) cs) bs = combineAll g d bs := by
  have hsound := hd.combineAll hbs
  have hsound' := hsound.combineAll fun b hb => hbs b (hcs hb)
  have hthere : ∀ b ∈ bs, ∀ k ∈ (g b).keys, (combineAll g d bs).contains k = true :=
    fun b hb k hk => contains_combineAll hd hbs hb hk
  have hkeys : (combineAll g (combineAll g d bs) cs).keys = (combineAll g d bs).keys :=
    keys_combineAll_of_contained fun b hb => hthere b (hcs hb)
  refine eq_of_get? hsound ?_ fun k => ?_
  · rw [keys_combineAll_of_contained fun b hb k hk => ?_, hkeys]
    rw [contains_of_keys hkeys, hthere b hb k hk]
  · rw [get?_combineAll hsound' hbs, get?_combineAll hsound fun b hb => hbs b (hcs hb),
      get?_combineAll hd hbs]
    -- Either one of all these has the key, or none of them has it.
    cases hlast : bs.reverse.findSome? fun b => (g b).get? k with
    | some a => rfl
    | none =>
      have hnone : (cs.reverse.findSome? fun b => (g b).get? k) = none :=
        List.findSome?_eq_none_iff.2 fun b hb =>
          List.findSome?_eq_none_iff.1 hlast b (List.mem_reverse.2 (hcs (List.mem_reverse.1 hb)))
      rw [hnone, Option.none_or, Option.none_or, Option.none_or]

end Dict

namespace Body

def entries : Body → Dict Value Value
  | mapping d => d
  | _ => .empty

theorem Keyed.entries {b : Body} (h : b.Keyed) : b.entries.Sound := by
  cases b with
  | mapping d => exact h.sound
  | _ => exact fun k hk => absurd hk List.not_mem_nil

theorem foldl_copyFrom_mapping {bs : List Body} (h : ∀ b ∈ bs, b.isMapping = true)
    (d : Dict Value Value) :
    bs.foldl copyFrom (mapping d) = mapping (Dict.combineAll entries d bs) := by
  induction bs generalizing d with
  | nil => rfl
  | cons b bs ih =>
    obtain ⟨hb, hbs⟩ := List.forall_mem_cons.1 h
    cases b with
    | mapping a => exact ih hbs (d.combine a)
    | _ => cases hb

/-- A body that is no mapping forgets what was there before it. -/
theorem foldl_copyFrom_forgets {bs : List Body} (h : ∃ b ∈ bs, b.isMapping = false) (x y : Body) :
    bs.foldl copyFrom x = bs.foldl copyFrom y := by
  induction bs generalizing x y with
  | nil => simp at h
  | cons b bs ih =>
    rw [List.foldl_cons, List.foldl_cons]
    by_cases hrest : ∃ b' ∈ bs, b'.isMapping = false
    · exact ih hrest _ _
    · obtain ⟨b', hb', hmapping⟩ := h
      obtain rfl | hb' := List.mem_cons.1 hb'
      · cases b' with
        | mapping d => cases hmapping
        | _ => cases x <;> cases y <;> rfl
      · exact (hrest ⟨b', hb', hmapping⟩).elim

/-- Over a body that is no mapping the first mapping stands as it does over one without entries. -/
theorem copyFrom_eq_entries (x : Body) {b : Body} (hb : b.isMapping = true) :
    x.copyFrom b = (mapping x.entries).copyFrom b := by
  cases b with
  | mapping d =>
    have hself : Dict.empty.combine d = d := Dict.ofList_entries d
    cases x with
    | mapping a => rfl
    | _ =>
      refine congrArg mapping ?_
      exact hself.symm
  | _ => cases hb

theorem foldl_copyFrom_replay {bs cs : List Body} {x : Body} (hx : x.Keyed)
    (hbs : ∀ b ∈ bs, b.Keyed) (hcs : cs ⊆ bs) :
    bs.foldl copyFrom (cs.foldl copyFrom (bs.foldl copyFrom x)) = bs.foldl copyFrom x := by
  by_cases h : ∃ b ∈ bs, b.isMapping = false
  · exact foldl_copyFrom_forgets h _ _
  · have hmapping : ∀ b ∈ bs, b.isMapping = true := fun b hb =>
      Bool.eq_true_of_not_eq_false fun hfalse => h ⟨b, hb, hfalse⟩
    cases bs with
    | nil =>
      rw [List.subset_nil.1 hcs]
      rfl
    | cons b bs =>
      have hstart : (b :: bs).foldl copyFrom x = (b :: bs).foldl copyFrom (mapping x.entries) := by
        rw [List.foldl_cons, List.foldl_cons, copyFrom_eq_entries x (hmapping b List.mem_cons_self)]
      rw [hstart, foldl_copyFrom_mapping hmapping,
        foldl_copyFrom_mapping fun c hc => hmapping c (hcs hc), foldl_copyFrom_mapping hmapping,
        Dict.combineAll_replay hx.entries (fun b hb => (hbs b hb).entries) hcs]

end Body

namespace Params

theorem slot_foldl_copyFrom {slot : Params → Slot} (hslot : slot ∈ slots) (p : Params)
    (ps : List Params) : slot (ps.foldl copyFrom p) = Dict.combineAll slot (slot p) ps := by
  induction ps generalizing p with
  | nil => rfl
  | cons q ps ih =>
    rw [List.foldl_cons, ih, slot_copyFrom hslot]
    rfl

theorem body_foldl_copyFrom (p : Params) (ps : List Params) :
    (ps.foldl copyFrom p).body = (ps.map (·.body)).foldl Body.copyFrom p.body := by
  induction ps generalizing p with
  | nil => rfl
  | cons q ps ih => exact ih (p.copyFrom q)

theorem eq_of_slots {p q : Params} (hslots : ∀ slot ∈ slots, slot p = slot q)
    (hbody : p.body = q.body) : p = q := by
  simp only [slots, List.forall_mem_cons, List.not_mem_nil, false_implies, implies_true,
    and_true] at hslots
  obtain ⟨hquery, hform, hpath, hheader⟩ := hslots
  cases p
  cases q
  simp_all

/-- Arguments that are laid over others are all there: to lay some of them over these again, and then
all of them, changes nothing. -/
theorem foldl_copyFrom_replay {ps qs : List Params} {p : Params} (hp : p.body.Keyed)
    (hps : ∀ q ∈ ps, q.body.Keyed) (hqs : qs ⊆ ps) :
    ps.foldl copyFrom (qs.foldl copyFrom (ps.foldl copyFrom p)) = ps.foldl copyFrom p := by
  refine eq_of_slots (fun slot hslot => ?_) ?_
  · rw [slot_foldl_copyFrom hslot, slot_foldl_copyFrom hslot, slot_foldl_copyFrom hslot]
    exact Dict.combineAll_replay (.of_lawful _) (fun q _ => .of_lawful _) hqs
  · rw [body_foldl_copyFrom, body_foldl_copyFrom, body_foldl_copyFrom]
    refine Body.foldl_copyFrom_replay hp ?_ (List.map_subset _ hqs)
    simpa using hps

end Params

end Runbook
