import Runbook.Proofs.Corpus.Appending

namespace Runbook.Corpus

open Storage (inDirectory)

/-- One run as far as it concerns the corpus: what its plan is opened with and what it finds. -/
structure Round where
  options : Plan.Options
  found : List Payload

namespace Round

variable {r : Round} {s s' : Storage} {directory : String} {base : FilePath}
  {m : Dict Value Value} {xs : List Payload}

def plan (r : Round) (s : Storage) (directory : String) : Except Fault Plan :=
  if s.exists? (inDirectory directory failuresName) then
    match readFailures s directory (.ofOptions r.options) with
    | (p, .ok _) => .ok p
    | (_, .error f) => .error f
  else .ok (.ofOptions r.options)

def run (r : Round) (s : Storage) (directory : String) : Except Fault Written :=
  (r.plan s directory).map fun p => writeFailures s directory { p with newFailures := r.found }

/-- Whether a record stays in the corpus when failures are reproduced. -/
def spares (r : Round) (x : Payload) : Bool :=
  r.options.fuzzType != everyType && x.fuzzType != r.options.fuzzType

/-- The records that a round leaves, of those that it found and those that were there. -/
def after (xs : List Payload) (r : Round × Dict Value Value) : List Payload :=
  (if r.1.options.repro then xs.filter r.1.spares else xs) ++ stampAll r.2 r.1.found

/-- What a round finds: the directory and the corpus that the round before has left, failures of
data, and metadata `m` that is data. -/
structure Finds (r : Round) (directory : String) (base : FilePath) (s s' : Storage)
    (m : Dict Value Value) : Prop where
  usable : Usable s' directory base
  same : s'.file? (base ++ [failuresName]) = s.file? (base ++ [failuresName])
  found : ∀ x ∈ r.found, x.value.IsData (Payload.depthLimit - 1)
  metadata : ∃ notices, (readMetadata s' directory).run [] = (.ok m, notices)
  isData : Value.IsData (Payload.depthLimit - 1) (.map m.entries)

end Round

/-- The storages that rounds in one directory lead to, from one without a corpus. Between two rounds
all but the corpus may change. -/
inductive Rounds (directory : String) (base : FilePath) :
    List (Round × Dict Value Value) → Storage → Prop
  | start {s : Storage} (h : s.file? (base ++ [failuresName]) = none) : Rounds directory base [] s
  | next {rs : List (Round × Dict Value Value)} {s s' : Storage} {r : Round} {m : Dict Value Value}
    {w : Written} (hs : Rounds directory base rs s) (hr : r.Finds directory base s s' m)
    (hw : r.run s' directory = .ok w) : Rounds directory base (rs ++ [(r, m)]) w.storage

/-- A file of the directory holds these records, one on each line. -/
def Held (s : Storage) (base : FilePath) (name : String) (xs : List Payload) : Prop :=
  ∃ ls, List.Forall₂ IsLine ls xs ∧
    s.file? (base ++ [name]) = some (Text.Utf8.encode (joined ls))

/-- The corpus holds these records, which are data; without records it may be absent. -/
structure Stored (s : Storage) (base : FilePath) (xs : List Payload) : Prop where
  isData : ∀ x ∈ xs, x.IsData
  file : s.file? (base ++ [failuresName]) = none ∧ xs = [] ∨ Held s base failuresName xs

section

variable {r : Round} {s s' : Storage} {directory name : String} {base : FilePath}
  {m : Dict Value Value} {xs : List Payload} {rs : List (Round × Dict Value Value)}

theorem Held.contents (h : Held s base name xs) (hs : Usable s directory base)
    (hname : name ∈ written) : contents? s directory name = some xs := by
  obtain ⟨ls, hls, hfile⟩ := h
  have htext := hs.readText hname hfile (Text.Utf8.decode?_encode _)
  rw [Text.unifyNewlines_of_not_mem (not_mem_joined hls)] at htext
  rw [contents?_of_text htext, records?_joined hls]

theorem Stored.same (h : Stored s base xs)
    (hsame : s'.file? (base ++ [failuresName]) = s.file? (base ++ [failuresName])) :
    Stored s' base xs := by
  refine ⟨h.isData, ?_⟩
  rw [Held, hsame]
  exact h.file

theorem spares_eq (r : Round) : r.spares = fun x => !isOwn (.ofOptions r.options) x := by
  funext x
  have hown : isOwn (.ofOptions r.options) x =
      (r.options.fuzzType == x.fuzzType || r.options.fuzzType == everyType) := rfl
  rw [hown, Bool.not_or, Round.spares, Bool.and_comm]
  congr 1
  rw [bne, BEq.comm]

theorem Stored.plan (h : Stored s base xs) (hs : Usable s directory base) (r : Round) :
    ∃ i, r.plan s directory = .ok { Plan.ofOptions r.options with
      oldFailures := i
      otherFailures := xs.filter r.spares } := by
  rw [Round.plan, hs.exists?_eq failures_mem_written]
  rcases h.file with ⟨hnone, rfl⟩ | hheld
  · exact ⟨.empty, by rw [hnone, if_neg (by simp)]; rfl⟩
  · obtain ⟨i, n, htake⟩ := takeAll_data h.isData (.ofOptions r.options) ⟨0, 0⟩
    have hread := readFailures_of_takeAll (hheld.contents hs failures_mem_written) htake
    obtain ⟨ls, -, hfile⟩ := hheld
    refine ⟨i, ?_⟩
    rw [hfile, Option.isSome_some, if_pos rfl, hread, spares_eq]
    rfl

theorem Stored.kept_eq {p : Plan} (h : Stored s base xs) (hp : p.repro = false) :
    ∃ ls, List.Forall₂ IsLine ls xs ∧ kept s base p = Text.Utf8.encode (joined ls) := by
  rw [kept_of_append hp]
  rcases h.file with ⟨hnone, rfl⟩ | ⟨ls, hls, hfile⟩
  · exact ⟨[], .nil, by rw [hnone]; rfl⟩
  · exact ⟨ls, hls, by rw [hfile]; rfl⟩

theorem encode_joined_append (ls ms : List (List Char)) :
    Text.Utf8.encode (joined (ls ++ ms)) =
      Text.Utf8.encode (joined ls) ++ Text.Utf8.encode (joined ms) := by
  rw [joined, List.flatMap_append, Text.Utf8.encode, List.flatMap_append]
  rfl

theorem isData_after (h : ∀ x ∈ xs, x.IsData) (hr : r.Finds directory base s s' m) :
    ∀ x ∈ Round.after xs (r, m), x.IsData := by
  rw [Round.after, List.forall_mem_append]
  refine ⟨fun x hx => ?_, isData_stampAll hr.isData hr.found⟩
  split at hx
  · exact h x (List.mem_filter.1 hx).1
  · exact h x hx

theorem Stored.round (h : Stored s base xs) (hr : r.Finds directory base s s' m) :
    ∃ w, r.run s' directory = .ok w ∧ w.fault = none ∧ Usable w.storage directory base ∧
      Held w.storage base failuresName (Round.after xs (r, m)) ∧
      Held w.storage base newFailuresName (stampAll m r.found) := by
  obtain ⟨notices, hm⟩ := hr.metadata
  have hstored := h.same hr.same
  obtain ⟨i, hplan⟩ := hstored.plan hr.usable r
  generalize hp : { Plan.ofOptions r.options with
    oldFailures := i
    otherFailures := xs.filter r.spares
    newFailures := r.found } = p
  have hrun : r.run s' directory = .ok (writeFailures s' directory p) := by
    rw [Round.run, hplan, ← hp]
    rfl
  have hnew : p.newFailures = r.found := hp ▸ rfl
  have hrepro : p.repro = r.options.repro := hp ▸ rfl
  have hrewritten : rewritten p = if r.options.repro then xs.filter r.spares else [] := hp ▸ rfl
  have hold : ∀ x ∈ rewritten p, x.IsData := by
    rw [hrewritten]
    split
    · exact fun x hx => h.isData x (List.mem_filter.1 hx).1
    · exact List.forall_mem_nil _
  obtain ⟨ls, ms, hls, hms, htexts⟩ := texts_data hold hr.isData (by rw [hnew]; exact hr.found)
  obtain ⟨hfault, hleaves⟩ := writeFailures_usable hr.usable hm p
  rw [htexts, String.toList_ofList, String.toList_ofList] at hleaves
  rw [htexts] at hfault
  rw [hnew] at hms
  refine ⟨_, hrun, hfault, hleaves.usable, ?_, ms, hms, hleaves.latest⟩
  rw [Round.after]
  -- A round that reproduces failures keeps what it spares, any other one keeps all.
  cases hmode : r.options.repro with
  | true =>
    rw [hrewritten, hmode, if_pos rfl] at hls
    refine ⟨ls ++ ms, List.rel_append hls hms, ?_⟩
    rw [hleaves.corpus, kept_of_repro (hrepro.trans hmode), List.nil_append]
  | false =>
    obtain ⟨ks, hks, hkept⟩ := hstored.kept_eq (hrepro.trans hmode)
    rw [hrewritten, hmode, if_neg (by simp)] at hls
    cases hls
    refine ⟨ks ++ ms, List.rel_append hks hms, ?_⟩
    rw [hleaves.corpus, hkept, List.nil_append, encode_joined_append]

/-- After any number of rounds the corpus holds what they leave. -/
theorem Rounds.stored (h : Rounds directory base rs s) :
    Stored s base (rs.foldl Round.after []) := by
  induction h with
  | start hnone => exact ⟨List.forall_mem_nil _, .inl ⟨hnone, rfl⟩⟩
  | next hs hr hw ih =>
    obtain ⟨w, hrun, -, -, hheld, -⟩ := ih.round hr
    obtain rfl := Except.ok.inj (hrun.symm.trans hw)
    rw [List.foldl_append]
    exact ⟨isData_after ih.isData hr, .inr hheld⟩

/-- A round that comes after any number of rounds in its directory reads the corpus and writes it.
The corpus then holds the records that all the rounds leave, and the file of the latest failures
those of this round; every plan reads them all. -/
theorem rounds_exact (h : Rounds directory base rs s) (hr : r.Finds directory base s s' m) :
    ∃ w, r.run s' directory = .ok w ∧ w.fault = none ∧
      contents? w.storage directory failuresName =
        some ((rs ++ [(r, m)]).foldl Round.after []) ∧
      contents? w.storage directory newFailuresName = some (stampAll m r.found) ∧
      ∀ p : Plan, ∃ i notice, readFailures w.storage directory p = ({ p with
        oldFailures := i
        otherFailures := p.otherFailures ++
          ((rs ++ [(r, m)]).foldl Round.after []).filter fun x => !isOwn p x }, .ok notice) := by
  have hstored := h.stored
  obtain ⟨w, hrun, hfault, husable, hheld, hlatest⟩ := hstored.round hr
  have hdata := isData_after hstored.isData hr
  have hcontents := hheld.contents husable failures_mem_written
  have hfold : (rs ++ [(r, m)]).foldl Round.after [] =
      Round.after (rs.foldl Round.after []) (r, m) := by
    rw [List.foldl_append]
    rfl
  rw [← hfold] at hcontents hdata
  refine ⟨w, hrun, hfault, hcontents, hlatest.contents husable newFailures_mem_written, fun p => ?_⟩
  obtain ⟨i, n, htake⟩ := takeAll_data hdata p ⟨0, 0⟩
  exact ⟨i, _, readFailures_of_takeAll hcontents htake⟩

def adding : Round := ⟨.default, [sample]⟩

/-- A round that tries the failures of the type of that record again. -/
def trying : Round := ⟨{ Plan.Options.default with fuzzType := "t", repro := true }, []⟩

def ended : Storage :=
  ⟨.ofList [([failuresName], .file (Text.Utf8.encode (joined [sampleLine])))], []⟩

theorem adding_finds : adding.Finds "" [] .empty .empty .empty where
  usable := ⟨by rfl, by rfl, by decide⟩
  same := rfl
  found := finding_isData
  metadata := ⟨[.noMetadata metadataName], by rfl⟩
  isData := empty_isData

theorem adding_rounds : Rounds "" [] [(adding, .empty)] (writeFailures .empty ""
    { Plan.ofOptions .default with newFailures := [sample] }).storage :=
  .next (.start (by rfl)) adding_finds (by rfl)

theorem trying_finds : trying.Finds "" [] (writeFailures .empty ""
    { Plan.ofOptions .default with newFailures := [sample] }).storage ended .empty where
  usable := ⟨by rfl, by rfl, by decide⟩
  same := by rfl
  found := List.forall_mem_nil _
  metadata := ⟨[.noMetadata metadataName], by rfl⟩
  isData := empty_isData

/-- A failure that is found once and not found again when it is tried is no longer known. -/
theorem rounds_exact_twice : ∃ w, trying.run ended "" = .ok w ∧ w.fault = none ∧
    contents? w.storage "" failuresName =
      some ([(adding, .empty), (trying, .empty)].foldl Round.after []) ∧
    contents? w.storage "" newFailuresName = some (stampAll .empty trying.found) ∧
    ∀ p : Plan, ∃ i notice, readFailures w.storage "" p = ({ p with
      oldFailures := i
      otherFailures := p.otherFailures ++
        ([(adding, .empty), (trying, .empty)].foldl Round.after []).filter
          fun x => !isOwn p x }, .ok notice) :=
  rounds_exact adding_rounds trying_finds

end

end Runbook.Corpus
