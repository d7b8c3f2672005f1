import Runbook.Proofs.Corpus.Files
import Runbook.Proofs.Corpus.Records
import Runbook.Proofs.FailureIndex

namespace Runbook.Corpus

open Storage (inDirectory)

variable {s : Storage} {directory name : String} {base : FilePath} {p q : Plan} {n : Tally}
  {m : Dict Value Value} {notices : List Notice} {xs ys : List Payload} {ls ms : List (List Char)}

section Lines

theorem exists_isLine {x : Payload} (h : x.IsData) :
    ∃ l, x.line = .ok (String.ofList l) ∧ IsLine l x := by
  obtain ⟨line, hline, hread, hshown, hstart⟩ := Payload.exists_line h
  refine ⟨line.toList, by rw [String.ofList_toList, hline], ?_, hshown, hstart⟩
  rw [String.ofList_toList, hread]

theorem lines_of_each {R : List Char → Payload → Prop}
    (h : ∀ x ∈ xs, ∃ l, x.line = .ok (String.ofList l) ∧ R l x) :
    ∃ ls, List.Forall₂ R ls xs ∧ lines xs = (String.ofList (joined ls), none) := by
  induction xs with
  | nil => exact ⟨[], .nil, rfl⟩
  | cons x xs ih =>
    obtain ⟨⟨l, hl, hline⟩, hxs⟩ := List.forall_mem_cons.1 h
    obtain ⟨ls, hls, htext⟩ := ih hxs
    refine ⟨l :: ls, .cons hline hls, ?_⟩
    have hjoined : String.ofList (joined (l :: ls)) =
        String.ofList l ++ "\n" ++ String.ofList (joined ls) := by
      change String.ofList (l ++ ['\n'] ++ joined ls) = _
      rw [String.ofList_append, String.ofList_append]
    rw [lines, hl, htext, hjoined]

theorem lines_data (h : ∀ x ∈ xs, x.IsData) :
    ∃ ls, List.Forall₂ IsLine ls xs ∧ lines xs = (String.ofList (joined ls), none) :=
  lines_of_each fun x hx => exists_isLine (h x hx)

theorem isData_of_metadata {x : Payload} {d : Option (Dict Value Value)}
    (h : x.value.IsData (Payload.depthLimit - 1))
    (hd : (d.elim .null fun d => Value.map d.entries).IsData (Payload.depthLimit - 1)) :
    Payload.IsData { x with metadata := d } := ⟨h, hd⟩

def noted (m : Dict Value Value) : Option (Dict Value Value) := if m.isEmpty then none else some m

def stampAll (m : Dict Value Value) (xs : List Payload) : List Payload :=
  xs.map fun x => { x with metadata := noted m }

theorem isData_noted (h : Value.IsData (Payload.depthLimit - 1) (.map m.entries)) :
    ((noted m).elim .null fun d => Value.map d.entries).IsData (Payload.depthLimit - 1) := by
  rw [noted]
  split
  · exact ⟨.null, .null, rfl⟩
  · exact h

theorem stamp_of_each {d : Option (Dict Value Value)}
    (h : ∀ x ∈ xs, ∃ line, Payload.line { x with metadata := d } = .ok line) :
    stamp d xs = xs.map fun x => { x with metadata := d } := by
  induction xs with
  | nil => rfl
  | cons x xs ih =>
    obtain ⟨⟨line, hline⟩, hxs⟩ := List.forall_mem_cons.1 h
    rw [stamp, hline, List.map_cons, ih hxs]

theorem stamp_data {d : Option (Dict Value Value)}
    (hd : (d.elim .null fun d => Value.map d.entries).IsData (Payload.depthLimit - 1))
    (h : ∀ x ∈ xs, x.value.IsData (Payload.depthLimit - 1)) :
    stamp d xs = xs.map fun x => { x with metadata := d } := by
  refine stamp_of_each fun x hx => ?_
  obtain ⟨l, hl, -⟩ := exists_isLine (isData_of_metadata (h x hx) hd)
  exact ⟨_, hl⟩

theorem isData_stampAll (hm : Value.IsData (Payload.depthLimit - 1) (.map m.entries))
    (h : ∀ x ∈ xs, x.value.IsData (Payload.depthLimit - 1)) : ∀ x ∈ stampAll m xs, x.IsData := by
  intro y hy
  obtain ⟨x, hx, rfl⟩ := List.mem_map.1 hy
  exact isData_of_metadata (h x hx) (isData_noted hm)

theorem texts_data (hold : ∀ x ∈ rewritten p, x.IsData)
    (hm : Value.IsData (Payload.depthLimit - 1) (.map m.entries))
    (h : ∀ x ∈ p.newFailures, x.value.IsData (Payload.depthLimit - 1)) :
    ∃ ls ms, List.Forall₂ IsLine ls (rewritten p) ∧
      List.Forall₂ IsLine ms (stampAll m p.newFailures) ∧
      texts m p = ⟨String.ofList (joined (ls ++ ms)), String.ofList (joined ms), none⟩ := by
  obtain ⟨ls, hls, hold⟩ := lines_data hold
  obtain ⟨ms, hms, hnew⟩ := lines_data (isData_stampAll hm h)
  have hstamped : stamped m p = stampAll m p.newFailures := stamp_data (isData_noted hm) h
  refine ⟨ls, ms, hls, hms, ?_⟩
  rw [texts, hold, hstamped, hnew]
  simp [joined, String.ofList_append]

end Lines

section Taking

theorem exists_fuzzKey {x : Payload} {j : Json} (hj : j.Textual) (hv : x.value = .ofJson j) :
    ∃ k, x.fuzzValue.key = .ok k := by
  have hfinds : FuzzValue.rules.Finds :=
    ⟨fun _ hn => ⟨_, if_pos hn⟩, fun _ => ⟨_, rfl⟩, fun s => ⟨s, rfl⟩⟩
  obtain ⟨j', hj'⟩ := Value.exists_toJson hfinds hj
  have hkey : x.fuzzValue.keyText = .ok (FuzzValue.style.text j') := by
    rw [FuzzValue.keyText, Payload.fuzzValue, hv, hj']
    rfl
  exact ⟨_, by rw [FuzzValue.key, hkey]; rfl⟩

/-- Records whose values can be told apart all find their place: a plan's own ones in the index of
what is known, and the others, in their order, behind the other ones. -/
theorem takeAll_keyed (h : ∀ x ∈ xs, ∃ k, x.fuzzValue.key = .ok k) (p : Plan) (n : Tally) : ∃ i,
    takeAll p n xs = ({ p with
      oldFailures := i
      otherFailures := p.otherFailures ++ xs.filter fun x => !isOwn p x },
        .ok ⟨n.own + xs.countP (isOwn p), n.others + xs.countP fun x => !isOwn p x⟩) ∧
    ∀ y, y ∈ i.items ↔
      y ∈ p.oldFailures.items ∨ ∃ x ∈ xs, isOwn p x = true ∧ x.item? = some y := by
  -- Where a record belongs is a matter of the fuzz type alone, which stays as records are taken.
  induction xs generalizing p n with
  | nil => exact ⟨p.oldFailures, by rw [takeAll, List.filter_nil, List.append_nil]; rfl, by simp⟩
  | cons x xs ih =>
    obtain ⟨⟨k, hk⟩, hxs⟩ := List.forall_mem_cons.1 h
    rw [takeAll, take]
    cases hown : isOwn p x with
    | true =>
      obtain ⟨i, hrest, hitems⟩ := ih hxs
        { p with oldFailures := p.oldFailures.insert x.endpoint x.method x.field k }
        { n with own := n.own + 1 }
      refine ⟨i, ?_, fun y => ?_⟩
      · have hcount : n.own + (x :: xs).countP (isOwn p) = n.own + 1 + xs.countP (isOwn p) := by
          rw [List.countP_cons_of_pos hown]
          omega
        rw [if_pos rfl, FailureIndex.add, hk, List.filter_cons_of_neg (by simp [hown]), hcount,
          List.countP_cons_of_neg (by simp [hown])]
        exact hrest
      · have hx : y = (x.endpoint, x.method, x.field, k) ↔ x.item? = some y := by
          rw [Payload.item?_of_key hk, Option.some.injEq, eq_comm]
        have hsame (z : Payload) : isOwn
          { p with oldFailures := p.oldFailures.insert x.endpoint x.method x.field k } z =
            isOwn p z := rfl
        simp only [hitems, FailureIndex.mem_items_insert, hx, hsame, List.exists_mem_cons_iff, hown]
        tauto
    | false =>
      obtain ⟨i, hrest, hitems⟩ := ih hxs { p with otherFailures := p.otherFailures ++ [x] }
        { n with others := n.others + 1 }
      refine ⟨i, ?_, fun y => ?_⟩
      · have hcount : n.others + (x :: xs).countP (fun x => !isOwn p x) =
            n.others + 1 + xs.countP fun x => !isOwn p x := by
          rw [List.countP_cons_of_pos (by simp [hown])]
          omega
        rw [if_neg (by simp), List.filter_cons_of_pos (by simp [hown]), hcount,
          List.countP_cons_of_neg (by simp [hown])]
        refine hrest.trans ?_
        rw [List.append_assoc, List.singleton_append]
        rfl
      · have hsame (z : Payload) : isOwn { p with otherFailures := p.otherFailures ++ [x] } z =
            isOwn p z := rfl
        simp [hitems, hsame, hown]

theorem takeAll_data (h : ∀ x ∈ xs, x.IsData) (p : Plan) (n : Tally) : ∃ i n',
    takeAll p n xs = ({ p with
      oldFailures := i
      otherFailures := p.otherFailures ++ xs.filter fun x => !isOwn p x }, .ok n') := by
  have hkeyed : ∀ x ∈ xs, ∃ k, x.fuzzValue.key = .ok k := fun x hx => by
    obtain ⟨j, hj, hv⟩ := (h x hx).value
    exact exists_fuzzKey hj.textual hv
  obtain ⟨i, htake, -⟩ := takeAll_keyed hkeyed p n
  exact ⟨i, _, htake⟩

theorem takeAll_eq_ok {n' : Tally} (h : takeAll p n xs = (q, .ok n')) : ∃ i, q = { p with
    oldFailures := i
    otherFailures := p.otherFailures ++ xs.filter fun x => !isOwn p x } := by
  induction xs generalizing p n with
  | nil =>
    cases h
    exact ⟨q.oldFailures, by rw [List.filter_nil, List.append_nil]⟩
  | cons x xs ih =>
    rw [takeAll, take] at h
    cases hown : isOwn p x with
    | true =>
      rw [hown, if_pos rfl] at h
      cases hadd : p.oldFailures.add x with
      | error f =>
        rw [hadd] at h
        cases h
      | ok i =>
        rw [hadd] at h
        obtain ⟨j, rfl⟩ := ih h
        refine ⟨j, ?_⟩
        rw [List.filter_cons_of_neg (by simp [hown])]
        rfl
    | false =>
      rw [hown, if_neg (by simp)] at h
      obtain ⟨j, rfl⟩ := ih h
      refine ⟨j, ?_⟩
      rw [List.filter_cons_of_pos (by simp [hown]), List.append_assoc, List.singleton_append]
      rfl

theorem takeAll_append (p : Plan) (n : Tally) (xs ys : List Payload) :
    takeAll p n (xs ++ ys) = match takeAll p n xs with
      | (p, .ok n) => takeAll p n ys
      | (p, .error f) => (p, .error f) := by
  induction xs generalizing p n with
  | nil => rfl
  | cons x xs ih =>
    rw [List.cons_append, takeAll, takeAll]
    cases take p n x with
    | error f => rfl
    | ok r => exact ih r.1 r.2

end Taking

section Contents

def contents? (s : Storage) (directory name : String) : Option (List Payload) :=
  (s.readText (inDirectory directory name)).toOption.bind fun cs => records? (Text.cutAt '\n' cs)

theorem contents?_of_text {cs : List Char} (h : s.readText (inDirectory directory name) = .ok cs) :
    contents? s directory name = records? (Text.cutAt '\n' cs) := by
  rw [contents?, h]
  rfl

theorem text_of_contents? (h : contents? s directory name = some xs) :
    ∃ cs, s.readText (inDirectory directory name) = .ok cs ∧
      records? (Text.cutAt '\n' cs) = some xs := by
  obtain ⟨cs, hcs, hrecords⟩ := Option.bind_eq_some_iff.1 h
  refine ⟨cs, ?_, hrecords⟩
  cases hread : s.readText (inDirectory directory name) with
  | error f =>
    rw [hread] at hcs
    cases hcs
  | ok cs' =>
    rw [hread] at hcs
    exact congrArg _ (Option.some.inj hcs)

theorem readFailures_of_text {cs : List Char}
    (h : s.readText (inDirectory directory failuresName) = .ok cs) (p : Plan) :
    readFailures s directory p =
      ((takeLines (inDirectory directory failuresName) (Text.cutAt '\n' cs) 1 p ⟨0, 0⟩).1,
        (takeLines (inDirectory directory failuresName) (Text.cutAt '\n' cs) 1 p ⟨0, 0⟩).2.map
          fun n => .readFailures n.own (takeLines (inDirectory directory failuresName)
            (Text.cutAt '\n' cs) 1 p ⟨0, 0⟩).1.fuzzType n.others) := by
  unfold readFailures
  simp only [h]

theorem readFailures_of_takeAll (h : contents? s directory failuresName = some xs)
    (htake : takeAll p ⟨0, 0⟩ xs = (q, .ok n)) :
    readFailures s directory p = (q, .ok (.readFailures n.own q.fuzzType n.others)) := by
  obtain ⟨cs, hcs, hrecords⟩ := text_of_contents? h
  rw [readFailures_of_text hcs, takeLines_eq hrecords, htake]
  rfl

theorem contents?_of_readFailures {notice : Notice}
    (h : readFailures s directory p = (q, .ok notice)) :
    ∃ cs xs, s.readText (inDirectory directory failuresName) = .ok cs ∧
      records? (Text.cutAt '\n' cs) = some xs ∧ ∃ n, takeAll p ⟨0, 0⟩ xs = (q, .ok n) := by
  cases hcs : s.readText (inDirectory directory failuresName) with
  | error f =>
    unfold readFailures at h
    simp only [hcs] at h
    cases h
  | ok cs =>
    rw [readFailures_of_text hcs] at h
    cases htake : takeLines (inDirectory directory failuresName) (Text.cutAt '\n' cs) 1 p ⟨0, 0⟩ with
    | mk q' r =>
      rw [htake] at h
      obtain ⟨rfl, hr⟩ := Prod.mk.inj h
      obtain ⟨n, rfl, -⟩ := map_eq_ok_iff.1 hr
      obtain ⟨xs, hxs⟩ := records?_of_takeLines htake
      exact ⟨cs, xs, rfl, hxs, n, by rw [← takeLines_eq hxs, htake]⟩

theorem readFailures_none (h : contents? s directory failuresName = none) (p q : Plan)
    (notice : Notice) : readFailures s directory p ≠ (q, .ok notice) := by
  intro hread
  obtain ⟨cs, xs, hcs, hxs, -⟩ := contents?_of_readFailures hread
  rw [contents?_of_text hcs, hxs] at h
  cases h

theorem Usable.readText {data : List UInt8} {cs : List Char} (h : Usable s directory base)
    (hname : name ∈ written) (hfile : s.file? (base ++ [name]) = some data)
    (hdecode : Text.Utf8.decode? data = some cs) :
    s.readText (inDirectory directory name) = .ok (Text.unifyNewlines cs) :=
  Storage.readText_eq (h.locate hname) hfile hdecode

theorem not_mem_joined (h : List.Forall₂ IsLine ls xs) : '\r' ∉ joined ls := by
  induction h with
  | nil => exact List.not_mem_nil
  | cons hl _ ih =>
    change '\r' ∉ _ ++ ['\n'] ++ joined _
    simp [hl.not_mem (c := '\r') rfl, ih]

theorem head?_joined (h : List.Forall₂ IsLine ls xs) : (joined ls).head? ≠ some '\n' := by
  cases h with
  | nil => simp [joined]
  | @cons l x ls xs hl _ =>
    obtain ⟨cs, hcs⟩ := List.head?_eq_some_iff.1 hl.start
    rw [hcs]
    simp [joined]

/-- Lines that are written behind a text do not change how its own line ends are read. -/
theorem unifyNewlines_append_joined (raw : List Char) (h : List.Forall₂ IsLine ls xs) :
    Text.unifyNewlines (raw ++ joined ls) = Text.unifyNewlines raw ++ joined ls := by
  rw [Text.unifyNewlines_append raw (head?_joined h),
    Text.unifyNewlines_of_not_mem (not_mem_joined h)]

end Contents

section Appending

variable {p₀ : Plan} {notice : Notice} {cs : List Char} {old : List Payload}

/-- A corpus that new records are appended to holds the old ones and the new ones, if there are none
or the corpus ended with a whole line, up to blanks; else it holds a line that is none. -/
theorem contents?_append (hs : Usable s directory base)
    (hcs : s.readText (inDirectory directory failuresName) = .ok cs)
    (hold : records? (Text.cutAt '\n' cs) = some old) (hmode : p.repro = false)
    (hm : (readMetadata s directory).run [] = (.ok m, notices))
    (hmeta : Value.IsData (Payload.depthLimit - 1) (.map m.entries))
    (hdata : ∀ x ∈ p.newFailures, x.value.IsData (Payload.depthLimit - 1)) :
    (writeFailures s directory p).fault = none ∧
      contents? (writeFailures s directory p).storage directory failuresName =
        if p.newFailures = [] ∨ EndsLine cs then some (old ++ stampAll m p.newFailures)
        else none := by
  obtain ⟨data, raw, hfile, hdecode, rfl⟩ :=
    Storage.file_of_readText (hs.locate failures_mem_written) hcs
  have hrewritten := rewritten_of_append hmode
  obtain ⟨ls, ms, hls, hms, htexts⟩ := texts_data (p := p)
    (by rw [hrewritten]; exact List.forall_mem_nil _) hmeta hdata
  obtain ⟨hfault, hleaves⟩ := writeFailures_usable hs hm p
  have hkept : kept s base p = data := by rw [kept_of_append hmode, hfile, Option.getD_some]
  rw [hrewritten] at hls
  cases hls
  rw [htexts, List.nil_append] at hfault hleaves
  rw [hkept, String.toList_ofList] at hleaves
  have hafter := hleaves.usable.readText failures_mem_written hleaves.corpus
    (Text.Utf8.decode?_append hdecode (joined ms))
  rw [unifyNewlines_append_joined raw hms] at hafter
  have hempty : stampAll m p.newFailures = [] ↔ p.newFailures = [] := List.map_eq_nil_iff
  have hrecords := records?_append_lines hold hms
  simp only [hempty] at hrecords
  exact ⟨hfault, (contents?_of_text hafter).trans hrecords⟩

/-- A corpus that is written from its start holds the records in front of the new ones and
these. -/
theorem contents?_fresh (hs : Usable s directory base) (hkept : kept s base p = [])
    (hm : (readMetadata s directory).run [] = (.ok m, notices))
    (hmeta : Value.IsData (Payload.depthLimit - 1) (.map m.entries))
    (hold : ∀ x ∈ rewritten p, x.IsData)
    (hdata : ∀ x ∈ p.newFailures, x.value.IsData (Payload.depthLimit - 1)) :
    contents? (writeFailures s directory p).storage directory failuresName =
      some (rewritten p ++ stampAll m p.newFailures) := by
  obtain ⟨ls, ms, hls, hms, htexts⟩ := texts_data hold hmeta hdata
  obtain ⟨-, hleaves⟩ := writeFailures_usable hs hm p
  have hboth := List.rel_append hls hms
  have hcorpus := hleaves.corpus
  rw [hkept, List.nil_append, htexts, String.toList_ofList] at hcorpus
  have htext := hleaves.usable.readText failures_mem_written hcorpus (Text.Utf8.decode?_encode _)
  rw [Text.unifyNewlines_of_not_mem (not_mem_joined hboth)] at htext
  rw [contents?_of_text htext, records?_joined hboth]

/-- What appending does to a corpus that was read. Its records are followed by the new ones if there
are none or the corpus ended with a whole line, up to blanks; else it is not read any more. -/
theorem append_exact (hs : Usable s directory base)
    (hread : readFailures s directory p₀ = (q, .ok notice)) (hmode : p.repro = false)
    (hm : (readMetadata s directory).run [] = (.ok m, notices))
    (hmeta : Value.IsData (Payload.depthLimit - 1) (.map m.entries))
    (hdata : ∀ x ∈ p.newFailures, x.value.IsData (Payload.depthLimit - 1)) :
    ∃ cs old, s.readText (inDirectory directory failuresName) = .ok cs ∧
      contents? s directory failuresName = some old ∧
      (writeFailures s directory p).fault = none ∧
      contents? (writeFailures s directory p).storage directory failuresName =
        (if p.newFailures = [] ∨ EndsLine cs then some (old ++ stampAll m p.newFailures) else none) ∧
      ((∃ q' notice', readFailures (writeFailures s directory p).storage directory p₀ =
          (q', .ok notice')) ↔ p.newFailures = [] ∨ EndsLine cs) := by
  obtain ⟨cs, old, hcs, hold, n, htake⟩ := contents?_of_readFailures hread
  obtain ⟨hfault, hcontents⟩ := contents?_append hs hcs hold hmode hm hmeta hdata
  refine ⟨cs, old, hcs, (contents?_of_text hcs).trans hold, hfault, hcontents, ?_⟩
  by_cases hends : p.newFailures = [] ∨ EndsLine cs
  · rw [if_pos hends] at hcontents
    obtain ⟨i, n', hnew⟩ := takeAll_data (isData_stampAll hmeta hdata) q n
    have hall := takeAll_append p₀ ⟨0, 0⟩ old (stampAll m p.newFailures)
    rw [htake] at hall
    dsimp only at hall
    rw [hnew] at hall
    exact iff_of_true ⟨_, _, readFailures_of_takeAll hcontents hall⟩ hends
  · rw [if_neg hends] at hcontents
    exact iff_of_false (fun ⟨q', notice', h⟩ => readFailures_none hcontents p₀ q' notice' h) hends

def sample : Payload := ⟨"/a", "post", "f", .int 1, "t", none⟩

theorem sample_isData : sample.IsData :=
  ⟨⟨.int 1, .int (by decide), rfl⟩, ⟨.null, .null, rfl⟩⟩

def sampleLine : List Char :=
  "\x7b\"endpoint\":\"/a\",\"method\":\"post\",\"field\":\"f\",\"value\":1,\"fuzzType\":\"t\"\x7d".toList

theorem sampleLine_isLine : IsLine sampleLine sample := by
  obtain ⟨l, hline, hl⟩ := exists_isLine sample_isData
  have hsample : sample.line = .ok (String.ofList sampleLine) := by rfl
  have heq := congrArg String.toList (Except.ok.inj (hline.symm.trans hsample))
  rw [String.toList_ofList, String.toList_ofList] at heq
  exact heq ▸ hl

def unended : Storage := ⟨.ofList [([failuresName], .file (Text.Utf8.encode sampleLine))], []⟩

def finding : Plan := { Plan.ofOptions .default with newFailures := [sample] }

theorem unended_usable : Usable unended "" [] := ⟨by rfl, by rfl, by decide⟩

theorem unended_readText : unended.readText (inDirectory "" failuresName) = .ok sampleLine := by rfl

theorem unended_metadata :
    (readMetadata unended "").run [] = (.ok .empty, [.noMetadata metadataName]) := by rfl

theorem unended_contents : records? (Text.cutAt '\n' sampleLine) = some [sample] := by
  rw [Text.cutAt_of_not_mem (sampleLine_isLine.not_mem rfl), records?_cons sampleLine_isLine]
  rfl

theorem unended_read : readFailures unended "" (.ofOptions .default) =
    ({ Plan.ofOptions .default with otherFailures := [sample] },
      .ok (.readFailures 0 "none" 1)) := by
  have htake : takeAll (.ofOptions .default) ⟨0, 0⟩ [sample] =
      ({ Plan.ofOptions .default with otherFailures := [sample] }, .ok ⟨0, 1⟩) := rfl
  exact readFailures_of_takeAll ((contents?_of_text unended_readText).trans unended_contents) htake

theorem empty_isData : Value.IsData (Payload.depthLimit - 1)
    (.map (Dict.empty : Dict Value Value).entries) :=
  ⟨.map [], .emptyMap, rfl⟩

theorem finding_isData : ∀ x ∈ finding.newFailures, x.value.IsData (Payload.depthLimit - 1) :=
  List.forall_mem_singleton.2 sample_isData.value

/-- Behind a line that has no end the record is lost with the one before it. -/
theorem append_exact_unended : ∃ cs old,
    unended.readText (inDirectory "" failuresName) = .ok cs ∧
      contents? unended "" failuresName = some old ∧
      (writeFailures unended "" finding).fault = none ∧
      contents? (writeFailures unended "" finding).storage "" failuresName =
        (if finding.newFailures = [] ∨ EndsLine cs then
          some (old ++ stampAll .empty finding.newFailures) else none) ∧
      ((∃ q' notice', readFailures (writeFailures unended "" finding).storage ""
          (.ofOptions .default) = (q', .ok notice')) ↔ finding.newFailures = [] ∨ EndsLine cs) :=
  append_exact unended_usable unended_read rfl unended_metadata empty_isData finding_isData

/-- Appending to a corpus that is read does not always leave one that is read. -/
theorem append_not_always_read : ¬ ∀ (s : Storage) (directory : String) (base : FilePath)
    (p p₀ q : Plan) (notice : Notice) (m : Dict Value Value) (notices : List Notice),
    Usable s directory base → readFailures s directory p₀ = (q, .ok notice) → p.repro = false →
    (readMetadata s directory).run [] = (.ok m, notices) →
    Value.IsData (Payload.depthLimit - 1) (.map m.entries) →
    (∀ x ∈ p.newFailures, x.value.IsData (Payload.depthLimit - 1)) →
    ∃ q' notice', readFailures (writeFailures s directory p).storage directory p₀ =
      (q', .ok notice') := by
  intro h
  obtain ⟨q', notice', hread⟩ := h unended "" [] finding (.ofOptions .default) _ _ .empty _
    unended_usable unended_read rfl unended_metadata empty_isData finding_isData
  obtain ⟨-, hcontents⟩ := contents?_append unended_usable unended_readText unended_contents rfl
    unended_metadata empty_isData finding_isData
  rw [if_neg (by decide)] at hcontents
  exact readFailures_none hcontents _ _ _ hread

end Appending

end Runbook.Corpus
