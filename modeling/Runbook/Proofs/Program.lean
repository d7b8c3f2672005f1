import Runbook.Program
import Runbook.Proofs.Corpus.Appending
import Runbook.Proofs.Engine.Recursion
import Runbook.Proofs.PlanFile.Order

namespace Runbook

namespace Program

open Corpus (Usable failuresName contents? readFailures readMetadata writeFailures stampAll isOwn)
open Storage (inDirectory)

variable {σ : Type} {p : Program σ} {s s' : State σ}

def executed (p : Program σ) (s : Engine.State σ) : Engine.State σ :=
  ((p.engine.runPlan p.settings.suites).run s).2

def dumped (p : Program σ) (s : Storage) (q : Plan) : Storage × Except Fault Unit :=
  if p.settings.resultPath ≠ "" then
    PlanFile.store s p.settings.resultPath (PlanFile.resultsPieces q p.now)
  else (s, .ok ())

def persisted (p : Program σ) (s : Storage) (q : Plan) : Storage :=
  match p.dumped s q with
  | (s, .ok ()) => (writeFailures s p.settings.directory q).storage
  | (s, .error _) => s

theorem persisted_of_ok {q : Plan} {st storage : Storage}
    (h : p.dumped st q = (storage, .ok ())) :
    p.persisted st q = (writeFailures storage p.settings.directory q).storage := by
  unfold persisted
  simp only [h]

theorem persisted_of_error {q : Plan} {st storage : Storage} {f : Fault}
    (h : p.dumped st q = (storage, .error f)) : p.persisted st q = storage := by
  unfold persisted
  simp only [h]

section Running

theorem run_halting_ok {act : Act σ Unit} (h : act.run s = (.ok (), s')) :
    (p.halting act).run s = (.ok true, s') := by
  rw [halting, run_tryCatch, run_bind, h]
  rfl

theorem run_halting (p : Program σ) (act : Act σ Unit) (s : State σ) : ∃ r screen,
    (p.halting act).run s =
      (r, { (act.run s).2 with work := { (act.run s).2.work with screen := screen } }) := by
  rw [halting, run_tryCatch, run_bind]
  rcases act.run s with ⟨f | _, s'⟩
  · dsimp only
    by_cases hhalts : halts f = true
    · rw [if_pos hhalts, run_bind]
      cases Screen.halt p.console f.message with
      | error g => exact ⟨.error g, s'.work.screen, rfl⟩
      | ok text => exact ⟨.ok false, s'.work.screen ++ text, rfl⟩
    · rw [if_neg hhalts]
      exact ⟨.error f, s'.work.screen, rfl⟩
  · exact ⟨.ok true, s'.work.screen, rfl⟩

theorem run_onWork {α : Type} (act : Engine.Act σ α) (s : State σ) :
    (onWork act).run s = ((act.run s.work).1, { s with work := (act.run s.work).2 }) := rfl

theorem run_execute (p : Program σ) (s : State σ) :
    (p.execute.run s).2 = { s with work := p.executed s.work } := by
  rw [execute, run_bind, run_onWork, executed]
  cases ((p.engine.runPlan p.settings.suites).run s.work).1 <;> rfl

theorem run_writeResults (p : Program σ) (s : State σ) :
    p.writeResults.run s = ((p.dumped s.storage s.work.plan).2,
      { s with storage := (p.dumped s.storage s.work.plan).1 }) := by
  unfold writeResults dumped
  by_cases hpath : p.settings.resultPath ≠ ""
  · rw [if_pos hpath, if_pos hpath, run_get_bind]
    rcases PlanFile.store s.storage p.settings.resultPath
      (PlanFile.resultsPieces s.work.plan p.now) with ⟨storage, f | ⟨⟩⟩ <;> rfl
  · rw [if_neg hpath, if_neg hpath]
    rfl

theorem storage_writeCorpus (p : Program σ) (s : State σ) : (p.writeCorpus.run s).2.storage =
    (writeFailures s.storage p.settings.directory s.work.plan).storage := by
  rw [writeCorpus, run_get_bind]
  dsimp only
  generalize writeFailures s.storage p.settings.directory s.work.plan = w
  obtain ⟨storage, plan, notices, _ | f⟩ := w <;> rfl

theorem storage_persist (p : Program σ) (s : State σ) :
    (p.persist.run s).2.storage = p.persisted s.storage s.work.plan := by
  rw [persist, run_bind, run_writeResults, persisted]
  rcases p.dumped s.storage s.work.plan with ⟨storage, f | ⟨⟩⟩
  · rfl
  · have hcorpus := storage_writeCorpus p { s with storage := storage }
    dsimp only at hcorpus ⊢
    rw [hcorpus]

theorem storage_report (p : Program σ) (s : State σ) : (p.report.run s).2.storage = s.storage := by
  rw [report, run_get_bind, run_onWork]

theorem snd_run_thenAlways {α : Type} (act : Act σ α) (after : Act σ Unit) (s : State σ) :
    ((thenAlways act after).run s).2 = (after.run (act.run s).2).2 := by
  simp only [thenAlways, ExceptT.run, ExceptT.mk]
  rcases after (act s).2 with ⟨_ | ⟨⟩, s'⟩ <;> rfl

/-- What is persisted does not hang on how the run of the plan has ended. -/
theorem storage_run {runner : σ} {s₀ : State σ} {st : Storage}
    (hload : p.load.run (.start st p.settings.options runner) = (.ok (), s₀)) :
    (p.run st runner).2.storage = p.persisted s₀.storage (p.executed s₀.work).plan := by
  obtain ⟨r, screen, hexecute⟩ := run_halting p p.execute s₀
  rw [run_execute] at hexecute
  have hpersist := storage_persist p
    { s₀ with work := { p.executed s₀.work with screen := screen } }
  have hafter := snd_run_thenAlways (p.halting p.execute) p.persist s₀
  rw [hexecute] at hafter
  dsimp only at hafter hpersist
  rw [run, toEnd, run_bind, run_halting_ok hload]
  dsimp only
  -- nothing that comes behind the persisting touches the storage
  rw [if_pos rfl, run_bind]
  rcases hboth : (thenAlways (p.halting p.execute) p.persist).run s₀ with ⟨f | done, s₁⟩
  · rw [hboth] at hafter
    dsimp only at hafter ⊢
    rw [hafter, hpersist]
  · rw [hboth] at hafter
    dsimp only at hafter ⊢
    rw [← hpersist, ← hafter]
    cases done with
    | true =>
      rw [if_pos rfl, run_bind]
      have hreport := storage_report p s₁
      rcases hrun : p.report.run s₁ with ⟨f | ⟨⟩, s₂⟩
      · rw [hrun] at hreport
        exact hreport
      · rw [hrun] at hreport
        exact hreport
    | false => rfl

end Running

/-- The records of the corpus of a directory, none if there is no corpus. -/
inductive Known (s : Storage) (directory : String) : List Payload → Prop where
  | none (h : s.exists? (inDirectory directory failuresName) = false) : Known s directory []
  | some {xs : List Payload} (h : contents? s directory failuresName = some xs) :
      Known s directory xs

def isOther (p : Program σ) (x : Payload) : Bool := !isOwn (.ofOptions p.settings.options) x

/-- A plan that was loaded with these records in the corpus. -/
structure Opened (p : Program σ) (xs : List Payload) (q : Plan) : Prop where
  repro : q.repro = p.settings.repro
  others : q.otherFailures = xs.filter p.isOther
  new : q.newFailures = []

section Loading

theorem run_logged {α : Type} (act : Logged α) (s : State σ) : (logged act).run s =
    ((act.run []).1, { s with
      work := { s.work with notices := s.work.notices ++ (act.run []).2 } }) := rfl

theorem run_updatePlan (f : Plan → Plan) (s : State σ) : (onWork (Engine.updatePlan f)).run s =
    (.ok (), { s with work := { s.work with plan := f s.work.plan } }) := rfl

theorem readCorpus_eq_ok (h : p.readCorpus.run s = (.ok (), s')) :
    s'.storage = s.storage ∧ ∃ xs, Known s.storage p.settings.directory xs ∧
      ∃ i, s'.work.plan = { s.work.plan with
        oldFailures := i
        otherFailures :=
          s.work.plan.otherFailures ++ xs.filter fun x => !isOwn s.work.plan x } := by
  rw [readCorpus, run_get_bind] at h
  by_cases hexists : s.storage.exists? (inDirectory p.settings.directory failuresName) = true
  · rw [if_pos hexists] at h
    rcases hread : readFailures s.storage p.settings.directory s.work.plan with ⟨q, f | notice⟩
    · rw [hread] at h
      dsimp only at h
      rw [run_bind, run_updatePlan] at h
      cases h
    · rw [hread] at h
      dsimp only at h
      rw [run_bind, run_updatePlan] at h
      cases h
      obtain ⟨cs, xs, hcs, hxs, n, htake⟩ := Corpus.contents?_of_readFailures hread
      obtain ⟨i, hq⟩ := Corpus.takeAll_eq_ok htake
      exact ⟨rfl, xs, .some ((Corpus.contents?_of_text hcs).trans hxs), i, hq⟩
  · rw [if_neg hexists] at h
    cases h
    exact ⟨rfl, [], .none (by simpa using hexists), s.work.plan.oldFailures, by
      rw [List.filter_nil, List.append_nil]⟩

theorem opened_of_load {st : Storage} {runner : σ} {s₀ : State σ}
    (h : p.load.run (.start st p.settings.options runner) = (.ok (), s₀)) :
    s₀.storage = st ∧ ∃ xs, Known st p.settings.directory xs ∧ Opened p xs s₀.work.plan := by
  rw [load, run_get_bind] at h
  obtain ⟨q, s₁, hplan, h⟩ := run_bind_eq_ok h
  rw [run_logged] at hplan
  obtain ⟨hq, rfl⟩ := Prod.mk.inj hplan
  obtain ⟨-, lists, -, hloaded⟩ := PlanFile.loaded_of_load (Prod.ext hq rfl)
  rw [run_bind, run_updatePlan] at h
  obtain ⟨hstorage, xs, hknown, i, hread⟩ := readCorpus_eq_ok h
  refine ⟨hstorage, xs, hknown, ?_⟩
  dsimp only at hread
  rw [hread, hloaded.others]
  exact ⟨rfl, rfl, rfl⟩

end Loading

section Executing

def found (visits : List (Engine.Visit σ)) : List Payload :=
  visits.flatMap fun v => (Engine.Deed.effects v.deeds).flatMap Engine.Effect.payloads

theorem found_of_performsAll {e : Engine σ} {names : List String} {w w' : Engine.State σ}
    {visits : List (Engine.Visit σ)} {result : Except Fault (List SuiteResult)}
    (h : Engine.PerformsAll e names w visits result w') :
    w'.plan.newFailures = w.plan.newFailures ++ found visits ∧
      w'.plan.declared = w.plan.declared := by
  induction h with
  | done => exact ⟨(List.append_nil _).symm, rfl⟩
  | raised hrun =>
    refine ⟨?_, hrun.trail.declared⟩
    rw [hrun.trail.newFailures, found, List.flatMap_singleton]
  | next hrun _ ih =>
    obtain ⟨hnew, hdeclared⟩ := ih
    have hold := hrun.trail.newFailures
    refine ⟨?_, hdeclared.trans hrun.trail.declared⟩
    rw [hnew, found, found, List.flatMap_cons, ← List.append_assoc, ← hold]
    rfl

/-- The plan that is persisted holds all that was found until the run ended. -/
theorem executed_opened {w : Engine.State σ} {xs : List Payload} (h : Opened p xs w.plan) :
    ∃ visits result, Engine.PerformsAll p.engine (p.settings.suites.getD w.plan.suiteNames) w visits
        result (p.executed w) ∧
      (p.executed w).plan.newFailures = found visits ∧
      (p.executed w).plan.repro = p.settings.repro ∧
      (p.executed w).plan.otherFailures = xs.filter p.isOther := by
  obtain ⟨visits, hall⟩ := Engine.performs_runAll p.engine
    (p.settings.suites.getD w.plan.suiteNames) w
  have hrun : (p.engine.runAll (p.settings.suites.getD w.plan.suiteNames)).run w =
      (p.engine.runPlan p.settings.suites).run w := by
    rw [Engine.runPlan, run_get_bind]
  rw [hrun] at hall
  obtain ⟨hnew, hdeclared⟩ := found_of_performsAll hall
  refine ⟨visits, _, hall, ?_, ?_, ?_⟩
  · rw [executed, hnew, h.new, List.nil_append]
  · exact (congrArg Plan.repro hdeclared).trans h.repro
  · exact (congrArg Plan.otherFailures hdeclared).trans h.others

end Executing

/-- The results, if they are wanted, are written elsewhere than the records. -/
def Elsewhere (p : Program σ) (s : Storage) (base : FilePath) : Prop :=
  p.settings.resultPath ≠ "" → ∀ q, s.locate p.settings.resultPath = .ok q →
    ∀ n ∈ Corpus.written, q ≠ base ++ [n]

section Persisting

variable {st storage : Storage} {directory path : String} {base : FilePath}

/-- What is written elsewhere leaves the files of the corpus alone. -/
theorem usable_store (h : Usable st directory base)
    (hplace : ∀ q, st.locate path = .ok q → ∀ n ∈ Corpus.written, q ≠ base ++ [n])
    (pieces : List PlanFile.Piece) :
    Usable (PlanFile.store st path pieces).1 directory base ∧ ∀ n ∈ Corpus.written,
      (PlanFile.store st path pieces).1.file? (base ++ [n]) = st.file? (base ++ [n]) := by
  rw [PlanFile.store]
  cases hopen : st.openFor false path with
  | error f => exact ⟨h, fun _ _ => rfl⟩
  | ok st₁ =>
    obtain ⟨q, hq, hdir, hparent, rfl⟩ := Storage.openFor_eq_ok hopen
    obtain ⟨hq₁, hdir₁⟩ := Storage.locate_opened hq hdir
    have hparent₁ := (Storage.isDirectory_putFile hdir []).2 (.inl hparent)
    dsimp only
    rw [Storage.append_eq hq₁]
    refine ⟨(h.putFile hdir hparent []).putFile hdir₁ hparent₁ _, fun n hn => ?_⟩
    have hne := (hplace q hq n hn).symm
    rw [Storage.file?_putFile_of_ne hne, Storage.file?_putFile_of_ne hne]

theorem usable_dumped (h : Usable st p.settings.directory base) (hplace : p.Elsewhere st base)
    (q : Plan) :
    Usable (p.dumped st q).1 p.settings.directory base ∧ ∀ n ∈ Corpus.written,
      (p.dumped st q).1.file? (base ++ [n]) = st.file? (base ++ [n]) := by
  rw [dumped]
  split
  · rename_i hpath
    exact usable_store h (hplace hpath) (PlanFile.resultsPieces q p.now)
  · exact ⟨h, fun _ _ => rfl⟩

theorem readText_left (h : Usable st directory base) (h' : Usable storage directory base)
    (hsame : storage.file? (base ++ [failuresName]) = st.file? (base ++ [failuresName]))
    {cs : List Char} (hcs : st.readText (inDirectory directory failuresName) = .ok cs) :
    storage.readText (inDirectory directory failuresName) = .ok cs := by
  obtain ⟨data, raw, hfile, hdecode, rfl⟩ :=
    Storage.file_of_readText (h.locate Corpus.failures_mem_written) hcs
  exact h'.readText Corpus.failures_mem_written (hsame.trans hfile) hdecode

/-- A plan that appends leaves all that the corpus holds in its place, whatever else fails. -/
theorem file?_persisted {q : Plan} {data : List UInt8} (h : Usable st p.settings.directory base)
    (hplace : p.Elsewhere st base) (hmode : q.repro = false)
    (hfile : st.file? (base ++ [failuresName]) = some data) :
    ∃ more, (p.persisted st q).file? (base ++ [failuresName]) = some (data ++ more) := by
  obtain ⟨hs, hsame⟩ := usable_dumped h hplace q
  have hfile := (hsame _ Corpus.failures_mem_written).trans hfile
  rcases hdump : p.dumped st q with ⟨storage, f | ⟨⟩⟩
  · rw [hdump] at hfile
    rw [persisted_of_error hdump]
    exact ⟨[], by rw [hfile, List.append_nil]⟩
  · rw [hdump] at hs hfile
    rw [persisted_of_ok hdump]
    exact Corpus.writeFailures_prefix hs hmode hfile

theorem contents?_known {q : Plan} {xs : List Payload} {m : Dict Value Value}
    {notices : List Notice} (hs : Usable st directory base) (hknown : Known st directory xs)
    (hmode : q.repro = false) (hm : (readMetadata st directory).run [] = (.ok m, notices))
    (hmeta : Value.IsData (Payload.depthLimit - 1) (.map m.entries))
    (hdata : ∀ x ∈ q.newFailures, x.value.IsData (Payload.depthLimit - 1))
    (hends : ∀ cs, st.readText (inDirectory directory failuresName) = .ok cs →
      q.newFailures = [] ∨ Corpus.EndsLine cs) :
    contents? (writeFailures st directory q).storage directory failuresName =
      some (xs ++ stampAll m q.newFailures) := by
  cases hknown with
  | none hnone =>
    rw [hs.exists?_eq Corpus.failures_mem_written, Option.isSome_eq_false_iff,
      Option.isNone_iff_eq_none] at hnone
    have hkept : Corpus.kept st base q = [] := by
      rw [Corpus.kept_of_append hmode, hnone, Option.getD_none]
    have hrewritten := Corpus.rewritten_of_append hmode
    have hall := Corpus.contents?_fresh hs hkept hm hmeta
      (by rw [hrewritten]; exact List.forall_mem_nil _) hdata
    rwa [hrewritten] at hall
  | some hxs =>
    obtain ⟨cs, hcs, hrecords⟩ := Corpus.text_of_contents? hxs
    rw [(Corpus.contents?_append hs hcs hrecords hmode hm hmeta hdata).2, if_pos (hends cs hcs)]

theorem Known.left {xs : List Payload} (hknown : Known st directory xs)
    (h : Usable st directory base) (h' : Usable storage directory base)
    (hsame : storage.file? (base ++ [failuresName]) = st.file? (base ++ [failuresName])) :
    Known storage directory xs := by
  cases hknown with
  | none hnone =>
    rw [h.exists?_eq Corpus.failures_mem_written, ← hsame,
      ← h'.exists?_eq Corpus.failures_mem_written] at hnone
    exact .none hnone
  | some hxs =>
    obtain ⟨cs, hcs, hrecords⟩ := Corpus.text_of_contents? hxs
    exact .some ((Corpus.contents?_of_text (readText_left h h' hsame hcs)).trans hrecords)

end Persisting

/-- Nothing keeps the failures of a plan from being written: the results, if they are wanted, are,
the metadata can be read, and this and the failures are data. -/
structure Writes (p : Program σ) (s : Storage) (q : Plan) (m : Dict Value Value) : Prop where
  results : (p.dumped s q).2 = .ok ()
  metadata : ∃ notices,
    (readMetadata (p.dumped s q).1 p.settings.directory).run [] = (.ok m, notices)
  isData : Value.IsData (Payload.depthLimit - 1) (.map m.entries)
  failures : ∀ x ∈ q.newFailures, x.value.IsData (Payload.depthLimit - 1)

/-- Known failures outlive a run of the program, however it ends. A run that appends leaves all that
the corpus holds in its place, whatever fails, and if nothing keeps it from writing, all that was
found until it ended stands behind the records that were known, unless the corpus ends within a
line. A run that reproduces failures leaves the records of other types instead, if they are data. -/
theorem run_keeps_failures {p : Program σ} {st : Storage} {runner : σ} {s₀ : State σ}
    {base : FilePath} (hload : p.load.run (.start st p.settings.options runner) = (.ok (), s₀))
    (hs : Usable st p.settings.directory base) (hplace : p.Elsewhere st base) :
    (p.settings.repro = false → ∀ data, st.file? (base ++ [failuresName]) = some data →
      ∃ more, (p.run st runner).2.storage.file? (base ++ [failuresName]) = some (data ++ more)) ∧
    ∃ xs visits result, Known st p.settings.directory xs ∧
      Engine.PerformsAll p.engine (p.settings.suites.getD s₀.work.plan.suiteNames) s₀.work visits
        result (p.executed s₀.work) ∧
      (p.executed s₀.work).plan.newFailures = found visits ∧
      ∀ m, p.Writes st (p.executed s₀.work).plan m →
        (p.settings.repro = false →
          (∀ cs, st.readText (inDirectory p.settings.directory failuresName) = .ok cs →
            found visits = [] ∨ Corpus.EndsLine cs) →
          contents? (p.run st runner).2.storage p.settings.directory failuresName =
            some (xs ++ stampAll m (found visits))) ∧
        (p.settings.repro = true → (∀ x ∈ xs.filter p.isOther, x.IsData) →
          contents? (p.run st runner).2.storage p.settings.directory failuresName =
            some (xs.filter p.isOther ++ stampAll m (found visits))) := by
  obtain ⟨hstorage, xs, hknown, hopened⟩ := opened_of_load hload
  obtain ⟨visits, result, hall, hnew, hrepro, hothers⟩ := executed_opened hopened
  obtain ⟨hs', hsame⟩ := usable_dumped hs hplace (p.executed s₀.work).plan
  have hsame := hsame _ Corpus.failures_mem_written
  rw [storage_run hload, hstorage]
  refine ⟨fun hmode data hfile => file?_persisted hs hplace (hrepro.trans hmode) hfile, xs, visits,
    result, hknown, hall, hnew, fun m hwrites => ?_⟩
  obtain ⟨notices, hm⟩ := hwrites.metadata
  have hpersisted := persisted_of_ok (Prod.ext rfl hwrites.results)
  rw [hpersisted, ← hnew]
  refine ⟨fun hmode hends => ?_, fun hmode hold => ?_⟩
  · exact contents?_known hs' (hknown.left hs hs' hsame) (hrepro.trans hmode) hm hwrites.isData
      hwrites.failures fun cs hcs => hends cs (readText_left hs' hs hsame.symm hcs)
  · have hmode := hrepro.trans hmode
    have hrewritten := (Corpus.rewritten_of_repro hmode).trans hothers
    rw [Corpus.contents?_fresh hs' (Corpus.kept_of_repro hmode) hm hwrites.isData
      (by rwa [hrewritten]) hwrites.failures, hrewritten]

def finder : Runner Unit where
  run _ _ s := ((.ok ⟨none, [Corpus.sample], none, none, 1⟩, []), s)

def seeker (suite : String) (repro : Bool) : Program Unit where
  settings := ⟨"", "plan.yml", "", suite, "", .none, "t", repro, "INFO"⟩
  runner := finder
  console := .narrow
  now := ⟨⟨2026, 1, 1, by decide⟩, 0, 0, 0, 0, none⟩

def holding (plan : String) : Storage :=
  ⟨.ofList [([failuresName], .file (Text.Utf8.encode (Corpus.joined [Corpus.sampleLine]))),
    (["plan.yml"], .file (Text.Utf8.encode plan.toList))], []⟩

theorem holding_usable (plan : String) : Usable (holding plan) "" [] where
  place := by rfl
  isDirectory := by rfl
  files := List.forall_mem_cons.2 ⟨by rfl, List.forall_mem_singleton.2 (by rfl)⟩

theorem holding_readText (plan : String) : (holding plan).readText (inDirectory "" failuresName) =
    .ok (Corpus.joined [Corpus.sampleLine]) := by rfl

theorem holding_metadata (plan : String) : (readMetadata (holding plan) "").run [] =
    (.ok .empty, [.noMetadata Corpus.metadataName]) := by rfl

theorem holding_contents (plan : String) :
    contents? (holding plan) "" failuresName = some [Corpus.sample] :=
  (Corpus.contents?_of_text (holding_readText plan)).trans
    (Corpus.records?_joined (.cons Corpus.sampleLine_isLine .nil))

theorem holding_known {plan : String} {xs : List Payload} (h : Known (holding plan) "" xs) :
    xs = [Corpus.sample] := by
  cases h with
  | none hnone =>
    rw [(holding_usable plan).exists?_eq Corpus.failures_mem_written] at hnone
    cases hnone
  | some hxs => exact Option.some.inj (hxs.symm.trans (holding_contents plan))

theorem holding_endsLine {plan : String} {cs : List Char}
    (h : (holding plan).readText (inDirectory "" failuresName) = .ok cs) : Corpus.EndsLine cs := by
  obtain rfl := Except.ok.inj ((holding_readText plan).symm.trans h)
  decide

def reached (p : Program Unit) (plan : String) : State Unit :=
  (p.load.run (.start (holding plan) p.settings.options ())).2

theorem run_load_holding {p : Program Unit} {plan : String}
    (h : (p.load.run (.start (holding plan) p.settings.options ())).1.toOption = some ()) :
    p.load.run (.start (holding plan) p.settings.options ()) = (.ok (), reached p plan) := by
  rw [reached]
  rcases hrun : p.load.run (.start (holding plan) p.settings.options ()) with ⟨f | ⟨⟩, s⟩
  · rw [hrun] at h
    cases h
  · rfl

def isOne (x : Payload) : Bool := x.value matches .int 1

theorem isData_of_isOne {x : Payload} (h : isOne x = true) :
    x.value.IsData (Payload.depthLimit - 1) := by
  obtain ⟨endpoint, method, field, value, fuzzType, metadata⟩ := x
  rw [isOne] at h
  split at h
  · rename_i hvalue
    rw [hvalue]
    exact Corpus.sample_isData.value
  · cases h

def looping : String := "s:\n- {name: a}\nu:\n- {ref: u}\n"

def foundBy (p : Program Unit) (plan : String) : List Payload :=
  (p.executed (reached p plan).work).plan.newFailures

theorem looping_breaks :
    ((seeker "all" false).load.run
      (.start (holding looping) (seeker "all" false).settings.options ())).1.toOption = some () ∧
    ((seeker "all" false).run (holding looping) ()).1.toOption = some false ∧
    (foundBy (seeker "all" false) looping).map isOne = [true] := by decide +kernel

theorem writes_holding {suite plan : String} {repro : Bool}
    (h : ∀ x ∈ foundBy (seeker suite repro) plan, isOne x = true) :
    (seeker suite repro).Writes (holding plan)
      ((seeker suite repro).executed (reached (seeker suite repro) plan).work).plan .empty where
  results := rfl
  metadata := ⟨_, holding_metadata plan⟩
  isData := Corpus.empty_isData
  failures x hx := isData_of_isOne (h x hx)

/-- The first suite finds the record again before the second breaks off the run. -/
theorem run_keeps_failures_looping :
    ((seeker "all" false).run (holding looping) ()).1.toOption = some false ∧
    (foundBy (seeker "all" false) looping).length = 1 ∧
    contents? ((seeker "all" false).run (holding looping) ()).2.storage "" failuresName =
      some (Corpus.sample :: stampAll .empty (foundBy (seeker "all" false) looping)) := by
  obtain ⟨hload, hhalts, hones⟩ := looping_breaks
  have hlength : (foundBy (seeker "all" false) looping).length = 1 := by
    rw [← List.length_map, hones]
    rfl
  have hall : ∀ x ∈ foundBy (seeker "all" false) looping, isOne x = true := by
    intro x hx
    have hone := List.mem_map_of_mem (f := isOne) hx
    rwa [hones, List.mem_singleton] at hone
  obtain ⟨-, xs, visits, result, hknown, -, hnew, hkeeps⟩ :=
    run_keeps_failures (run_load_holding hload) (holding_usable looping) fun h => absurd rfl h
  obtain rfl := holding_known hknown
  have hafter := (hkeeps .empty (writes_holding hall)).1 rfl fun _ hcs =>
    .inr (holding_endsLine hcs)
  rw [← hnew, List.singleton_append] at hafter
  exact ⟨hhalts, hlength, hafter⟩

/-- A run that reproduces failures and is broken off, here by the name of a suite that the plan does
not have, loses what was known. -/
theorem run_loses_failures : ¬ ∀ (p : Program Unit) (st : Storage) (s₀ : State Unit)
    (old : List Payload), p.load.run (.start st p.settings.options ()) = (.ok (), s₀) →
    (p.run st ()).1 ≠ .ok true → contents? st p.settings.directory failuresName = some old →
    ∃ now, contents? (p.run st ()).2.storage p.settings.directory failuresName = some now ∧
      (∀ x ∈ old, x ∈ now) ∧ ∀ x ∈ (p.executed s₀.work).plan.newFailures,
        ∃ y ∈ now, x = { y with metadata := x.metadata } := by
  intro h
  obtain ⟨hload, hhalts, hempty⟩ : ((seeker "u" true).load.run
        (.start (holding "") (seeker "u" true).settings.options ())).1.toOption = some () ∧
      ((seeker "u" true).run (holding "") ()).1.toOption = some false ∧
      (contents? ((seeker "u" true).run (holding "") ()).2.storage "" failuresName).map (·.length) =
        some 0 := by decide +kernel
  obtain ⟨now, hnow, hold, -⟩ := h (seeker "u" true) (holding "") _ _ (run_load_holding hload)
    (fun hend => by rw [hend] at hhalts; cases hhalts) (holding_contents "")
  obtain ⟨now', hnow', hlength⟩ := Option.map_eq_some_iff.1 hempty
  obtain rfl := Option.some.inj (hnow.symm.trans hnow')
  rw [List.length_eq_zero_iff.1 hlength] at hold
  exact absurd (hold _ (List.mem_singleton.2 rfl)) List.not_mem_nil

end Program

end Runbook
