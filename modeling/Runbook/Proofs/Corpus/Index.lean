import Runbook.Proofs.Corpus.Appending

namespace Runbook

namespace Check

variable {es : List (String × Json)} {j : Json}

theorem field?_ofJsonEntries {names : List String} {v : Value}
    (h : field? (Value.ofJsonEntries es) names = some v) : ∃ e ∈ es, v = .ofJson e.2 := by
  obtain ⟨n, -, hn⟩ := List.exists_of_findSome?_eq_some h
  obtain ⟨e, he, rfl⟩ := Option.map_eq_some_iff.1 hn
  have hmem := List.mem_of_find?_eq_some he
  rw [Value.ofJsonEntries_eq_map] at hmem
  obtain ⟨e', he', rfl⟩ := List.mem_map.1 hmem
  exact ⟨e', he', rfl⟩

theorem value_of_payload {x : Payload} (hj : j.Textual) (h : payload (.ofJson j) = .ok x) :
    ∃ k : Json, k.Textual ∧ x.value = .ofJson k := by
  cases j with
  | map es =>
    obtain ⟨f0, metadata, h, -, e0⟩ := Checked.seq_eq_ok h
    obtain ⟨f1, fuzzType, h, -, e1⟩ := Checked.seq_eq_ok h
    obtain ⟨f2, value, h, hvalue, e2⟩ := Checked.seq_eq_ok h
    obtain ⟨f3, name, h, -, e3⟩ := Checked.seq_eq_ok h
    obtain ⟨f4, method, h, -, e4⟩ := Checked.seq_eq_ok h
    obtain ⟨endpoint, -, e5⟩ := Checked.map_eq_ok h
    subst e5 e4 e3 e2 e1 e0
    rw [field] at hvalue
    split at hvalue
    · rename_i w hw
      obtain ⟨e', he', rfl⟩ := field?_ofJsonEntries hw
      obtain rfl := Checked.ok.inj (Checked.within_eq_ok hvalue)
      cases hj with
      | map hes => exact ⟨e'.2, hes e' he', rfl⟩
    · obtain rfl := Checked.ok.inj (Checked.within_eq_ok hvalue)
      exact ⟨.null, .null, rfl⟩
  | _ => cases h

end Check

namespace Corpus

variable {s s' : Storage} {directory directory' : String} {xs ys : List Payload} {o : Plan.Options}

theorem exists_key_of_readLine {line : String} {x : Payload} (h : Payload.readLine line = .ok x) :
    ∃ k, x.fuzzValue.key = .ok k := by
  rw [Payload.readLine] at h
  split at h
  · rename_i j hj
    obtain ⟨k, hk, hv⟩ := Check.value_of_payload (Json.textual_read hj) h
    exact exists_fuzzKey hk hv
  · cases h

theorem keyed_of_records? {ls : List (List Char)} (h : records? ls = some xs) :
    ∀ x ∈ xs, ∃ k, x.fuzzValue.key = .ok k := by
  induction ls generalizing xs with
  | nil =>
    obtain rfl := Option.some.inj h
    exact List.forall_mem_nil _
  | cons l ls ih =>
    rw [records?] at h
    split at h
    · exact ih h
    · split at h
      · rename_i hread
        obtain ⟨xs', hxs, rfl⟩ := Option.map_eq_some_iff.1 h
        exact List.forall_mem_cons.2 ⟨exists_key_of_readLine hread, ih hxs⟩
      · cases h

theorem isOwn_iff {x : Payload} : isOwn (.ofOptions o) x = true ↔
    o.fuzzType = everyType ∨ x.fuzzType = o.fuzzType := by
  have hown : isOwn (.ofOptions o) x = (o.fuzzType == x.fuzzType || o.fuzzType == everyType) := rfl
  rw [hown, Bool.or_eq_true, beq_iff_eq, beq_iff_eq, or_comm, eq_comm (a := x.fuzzType)]

theorem readFailures_items (h : contents? s directory failuresName = some xs) (o : Plan.Options) :
    ∃ i notice, readFailures s directory (.ofOptions o) = ({ Plan.ofOptions o with
      oldFailures := i
      otherFailures := xs.filter fun x => !isOwn (.ofOptions o) x }, .ok notice) ∧
    ∀ y, y ∈ i.items ↔ ∃ x ∈ xs.filter (isOwn (.ofOptions o)), x.item? = some y := by
  obtain ⟨cs, -, hrecords⟩ := text_of_contents? h
  obtain ⟨i, htake, hitems⟩ :=
    takeAll_keyed (keyed_of_records? hrecords) (.ofOptions o) ⟨0, 0⟩
  refine ⟨i, _, readFailures_of_takeAll h htake, fun y => ?_⟩
  have hempty : y ∉ (Plan.ofOptions o).oldFailures.items := List.not_mem_nil
  simp [hitems, hempty, and_assoc]

/-- A record is in the index of a plan's own ones if it is one of them, but for its value, which need
only be equal. -/
theorem mem_items_own {i : FailureIndex} {x : Payload} {k : FuzzKey}
    (hkeyed : ∀ y ∈ xs, ∃ l, y.fuzzValue.key = .ok l)
    (hitems : ∀ y, y ∈ i.items ↔ ∃ x ∈ xs.filter (isOwn (.ofOptions o)), x.item? = some y)
    (hk : x.fuzzValue.key = .ok k) :
    (x.endpoint, x.method, x.field, k) ∈ i.items ↔
      (o.fuzzType = everyType ∨ x.fuzzType = o.fuzzType) ∧
        ∃ y ∈ xs, y.endpoint = x.endpoint ∧ y.method = x.method ∧ y.field = x.field ∧
          y.fuzzType = x.fuzzType ∧ y.fuzzValue.equals x.fuzzValue = .ok true := by
  rw [hitems, ← Payload.item?_of_key hk]
  constructor
  · rintro ⟨y, hy, hitem⟩
    obtain ⟨hy, hown⟩ := List.mem_filter.1 hy
    obtain ⟨l, hl⟩ := hkeyed y hy
    have hsame := (Payload.item?_eq_iff hl hk).1 hitem
    exact ⟨hsame.2.2.2.1 ▸ isOwn_iff.1 hown, y, hy, hsame⟩
  · rintro ⟨hown, y, hy, hsame⟩
    obtain ⟨l, hl⟩ := hkeyed y hy
    have hown : isOwn (.ofOptions o) y = true := isOwn_iff.2 (hsame.2.2.2.1.symm ▸ hown)
    exact ⟨y, List.mem_filter.2 ⟨hy, hown⟩, (Payload.item?_eq_iff hl hk).2 hsame⟩

/-- Reading a corpus of records into a fresh plan succeeds, and makes of it exactly what it says. A
record is known if the plan has to do with its type and the corpus holds one of its place and type
with an equal fuzz value; what is known is counted once for each place and value; and the records of
other types are kept in their order. Another corpus with the same records, in any order and any number
of times, makes the same records known. -/
theorem readFailures_index (h : contents? s directory failuresName = some xs) (o : Plan.Options) :
    ∃ q notice, readFailures s directory (.ofOptions o) = (q, .ok notice) ∧
      (∀ (x : Payload) (j : Json), j.Textual → x.value = .ofJson j →
        ∃ known, q.isKnownFailure x = .ok known ∧ (known = true ↔
          (o.fuzzType = everyType ∨ x.fuzzType = o.fuzzType) ∧
            ∃ y ∈ xs, y.endpoint = x.endpoint ∧ y.method = x.method ∧ y.field = x.field ∧
              y.fuzzType = x.fuzzType ∧ y.fuzzValue.equals x.fuzzValue = .ok true)) ∧
      q.oldFailures.size =
        ((xs.filter fun x => o.fuzzType = everyType ∨ x.fuzzType = o.fuzzType).map
          Payload.item?).toFinset.card ∧
      q.otherFailures =
        xs.filter (fun x => ¬ (o.fuzzType = everyType ∨ x.fuzzType = o.fuzzType)) ∧
      ∀ (s' : Storage) (directory' : String) (ys : List Payload),
        contents? s' directory' failuresName = some ys → (∀ x, x ∈ ys ↔ x ∈ xs) →
          ∃ q' notice', readFailures s' directory' (.ofOptions o) = (q', .ok notice') ∧
            q'.oldFailures.size = q.oldFailures.size ∧
            ∀ x, q'.isKnownFailure x = q.isKnownFailure x := by
  obtain ⟨cs, -, hrecords⟩ := text_of_contents? h
  have hkeyed := keyed_of_records? hrecords
  have hown : isOwn (.ofOptions o) = fun x =>
      decide (o.fuzzType = everyType ∨ x.fuzzType = o.fuzzType) := by
    funext x
    rw [Bool.eq_iff_iff, isOwn_iff, decide_eq_true_eq]
  obtain ⟨i, notice, hread, hitems⟩ := readFailures_items h o
  refine ⟨_, notice, hread, fun x j hj hv => ?_, ?_, ?_, fun s' directory' ys hys hsame => ?_⟩
  · obtain ⟨k, hk⟩ := exists_fuzzKey hj hv
    refine ⟨_, FailureIndex.contains_eq hk, ?_⟩
    rw [decide_eq_true_eq]
    exact mem_items_own hkeyed hitems hk
  · rw [← hown]
    exact FailureIndex.size_of_records (fun x hx => hkeyed x (List.mem_filter.1 hx).1) hitems
  · simp [hown]
  · obtain ⟨i', notice', hread', hitems'⟩ := readFailures_items hys o
    have hboth : ∀ y, y ∈ i'.items ↔ y ∈ i.items := by
      intro y
      rw [hitems, hitems']
      simp only [List.mem_filter, hsame]
    exact ⟨_, notice', hread', FailureIndex.same_of_items hboth⟩

def one : Binary64 := .finite false ⟨Nat.pow 2 52, 1022, by decide, .inr (by decide), by decide⟩

theorem equals_one : sample.fuzzValue.equals ⟨.float one, "t"⟩ = .ok true := by
  have hone : one.toInt? = some 1 := by decide +kernel
  have htext : (⟨.float one, "t"⟩ : FuzzValue).keyText = .ok "1" := by
    rw [FuzzValue.keyText, Value.toJson]
    change (Except.ok (one.toInt?.elim (Json.float one) Json.int)).map FuzzValue.style.text = _
    rw [hone]
    rfl
  rw [FuzzValue.equals, FuzzValue.key, FuzzValue.key, htext]
  rfl

/-- A failure that was found with a whole number is known with the same number with a point. -/
theorem readFailures_index_one : ∃ q notice,
    readFailures unended "" (.ofOptions { Plan.Options.default with fuzzType := "t" }) =
        (q, .ok notice) ∧
      q.isKnownFailure { sample with value := .float one } = .ok true ∧
      q.oldFailures.size = 1 ∧ q.otherFailures = [] := by
  have hcontents : contents? unended "" failuresName = some [sample] :=
    (contents?_of_text unended_readText).trans unended_contents
  obtain ⟨q, notice, hread, hknown, hsize, hothers, -⟩ :=
    readFailures_index hcontents { Plan.Options.default with fuzzType := "t" }
  refine ⟨q, notice, hread, ?_, hsize.trans (by rfl), hothers.trans (by rfl)⟩
  obtain ⟨known, heq, hiff⟩ := hknown { sample with value := .float one } _ (.float _) rfl
  have hequal : known = true :=
    hiff.2 ⟨.inr rfl, sample, List.mem_singleton_self sample, rfl, rfl, rfl, rfl, equals_one⟩
  rw [heq, hequal]

end Corpus

end Runbook
