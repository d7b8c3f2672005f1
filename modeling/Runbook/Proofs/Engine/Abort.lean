import Runbook.Proofs.Engine.Call
import Runbook.Proofs.Engine.Recursion
import Runbook.Proofs.Screen.Report

namespace Runbook

/-- What cannot be shown of a run is a path that is no text, or a method that opens a bracket. -/
theorem Screen.stepResult_error {k : Console} {r : Run} {f : Fault}
    (h : stepResult k r = .error f) :
    (f = .data .kind ∧ ∀ t, r.path ≠ .str t) ∨
      (Markup.IsUnshown f ∧ '[' ∈ (Text.upper r.method).toList) := by
  by_cases hp : ∃ t, r.path = .str t
  · obtain ⟨t, hp⟩ := hp
    right
    by_cases hm : '[' ∈ (Text.upper r.method).toList
    · refine ⟨?_, hm⟩
      unfold stepResult at h
      rw [hp] at h
      simp only [pathText] at h
      exact isUnshown_of_print h
    · obtain ⟨shown, hs⟩ := exists_stepResult hp hm k
      rw [hs] at h
      cases h
  · left
    have hp : ∀ t, r.path ≠ .str t := fun t ht => hp ⟨t, ht⟩
    rw [stepResult_of_path hp] at h
    cases h
    exact ⟨rfl, hp⟩

namespace Engine

variable {σ : Type} {e : Engine σ}

/-- A step breaks a run off: its references lead to another fault than that they have no value, or
its run cannot be shown. -/
def Effect.Aborts (k : Screen.Console) (x : Effect) (f : Fault) : Prop :=
  x = .stuck f ∨ ∃ r ∈ x.recorded, Screen.stepResult k r = .error f

/-- Why the data of a step breaks a run off. -/
inductive AbortCause (m : Moment σ) (x : Effect) : Fault → Prop
  | value {expr : String} (stuck : x = .stuck (.data .value))
      (mention : (Run.ofTest m.step m.now m.parent).Mentions expr)
      (untakeable : Reference.Untakeable m.before.history expr) : AbortCause m x (.data .value)
  | path {r : Run} (recorded : r ∈ x.recorded) (noText : ∀ t, r.path ≠ .str t) :
      AbortCause m x (.data .kind)
  | method {r : Run} {f : Fault} (recorded : r ∈ x.recorded)
      (bracket : '[' ∈ (Text.upper r.method).toList) (unshown : Screen.Markup.IsUnshown f) :
      AbortCause m x f

theorem AbortCause.ofData {m : Moment σ} {x : Effect} {f : Fault} (h : AbortCause m x f) :
    f.OfData := by
  cases h with
  | value stuck mention untakeable => trivial
  | path recorded noText => trivial
  | method recorded bracket unshown => exact unshown.ofData

theorem effect_stuck {m : Moment σ} {f : Fault} (h : e.effect m = .stuck f) :
    AbortCause m (e.effect m) f := by
  obtain ⟨r, -, hx⟩ | ⟨r, cause, -, hx⟩ | ⟨r, g, hr, hn, hx⟩ := effect_cases e m
  · cases h.symm.trans hx
  · cases h.symm.trans hx
  · cases h.symm.trans hx
    have hf := Reference.resolveRun_error hr
    unfold Fault.OfReference at hf
    split at hf
    · exact (hn _ rfl).elim
    · obtain ⟨expr, hm, hu⟩ := hf
      exact .value h hm hu
    · exact hf.elim

theorem Effect.eq_stuck {m : Moment σ} {f : Fault} (hrunner : ¬ e.runner.Raises f)
    (h : (e.effect m).result = .error f) : e.effect m = .stuck f := by
  cases hx : e.effect m with
  | unresolved r =>
    rw [hx] at h
    cases h
  | stuck g =>
    rw [hx] at h
    cases h
    rfl
  | called r suite answer =>
    cases answer with
    | ok o =>
      rw [hx] at h
      cases h
    | error g =>
      rw [hx] at h
      cases h
      have hc : (⟨r, suite, .error f⟩ : Call) ∈ (e.effect m).call? := by
        rw [hx]
        rfl
      obtain ⟨-, -, ha⟩ := effect_call hc
      exact absurd ⟨r, m.now, m.before.runner, ha.symm⟩ hrunner

/-- Apart from what the runner raises, a step is not carried out exactly if it breaks the run off. -/
theorem carryOut_error_iff {m : Moment σ} {f : Fault} (hrunner : ¬ e.runner.Raises f) :
    ((e.carryOut m).run m.before).1 = .error f ↔ (e.effect m).Aborts e.console f := by
  rw [carryOut_eq_error_iff]
  constructor
  · rintro (hr | ⟨r, hr, hs⟩)
    · exact .inl (Effect.eq_stuck hrunner hr)
    · exact .inr ⟨r, Effect.mem_recorded_iff.2 hr, hs⟩
  · rintro (hstuck | ⟨r, hr, hs⟩)
    · left
      rw [hstuck]
      rfl
    · exact .inr ⟨r, Effect.mem_recorded_iff.1 hr, hs⟩

/-- A step that is done is not carried out, and this is its fault. -/
def Breaks (e : Engine σ) (ds : List (Deed σ)) (f : Fault) : Prop :=
  ∃ m x, .executed m x ∈ Deed.allOf ds ∧ ((e.carryOut m).run m.before).1 = .error f

namespace Breaks

variable {ds ds' below : List (Deed σ)} {m : Moment σ} {f : Fault}

theorem not_nil (e : Engine σ) (f : Fault) : ¬ Breaks e [] f := by
  rintro ⟨m, x, hm, -⟩
  cases hm

theorem append_iff : Breaks e (ds ++ ds') f ↔ Breaks e ds f ∨ Breaks e ds' f := by
  unfold Breaks
  simp only [Deed.allOf_append, List.mem_append, or_and_right, exists_or]

theorem cons_iff {d : Deed σ} : Breaks e (d :: ds) f ↔ Breaks e [d] f ∨ Breaks e ds f := by
  have hcons : d :: ds = [d] ++ ds := rfl
  rw [hcons, append_iff]

theorem reached_iff {result : Except Fault SuiteResult} :
    Breaks e [.reached m below result] f ↔ Breaks e below f := by
  unfold Breaks
  simp [Deed.allOf_reached]

theorem not_defaults (m : Moment σ) (f : Fault) : ¬ Breaks e [.defaults m] f := by
  rintro ⟨m', x, hm, -⟩
  cases List.mem_singleton.1 hm

theorem executed_iff {x : Effect} :
    Breaks e [.executed m x] f ↔ ((e.carryOut m).run m.before).1 = .error f := by
  constructor
  · rintro ⟨m', x', hm, h⟩
    cases List.mem_singleton.1 hm
    exact h
  · intro h
    exact ⟨m, x, List.mem_singleton.2 rfl, h⟩

end Breaks

/-- What leaves a task is the fault of a step that is not carried out, unless it is one of the
engine's own. -/
theorem Performs.error_iff {task : Task} {s s' : State σ} {ds : List (Deed σ)}
    {result : Except Fault SuiteResult} (h : Performs e task s ds result s') {f : Fault}
    (hn : ∀ n, f ≠ .suiteNotFound n) (hc : ∀ chain, f ≠ .recursion chain) :
    result = .error f ↔ Breaks e ds f := by
  have hsettled : settled (.error f) = .error f := by
    cases f with
    | suiteNotFound n => exact (hn n rfl).elim
    | _ => rfl
  -- Where a suite has come to a result for the step that reached it, no step has broken it off.
  have hsound : ∀ {below : List (Deed σ)} {result : Except Fault SuiteResult} {y : SuiteResult},
      (result = .error f ↔ Breaks e below f) → settled result = .ok y → ¬ Breaks e below f := by
    intro below result y hb hy hbreaks
    rw [hb.2 hbreaks, hsettled] at hy
    cases hy
  induction h with
  | refused hready =>
    obtain ⟨-, ⟨-, hf⟩ | ⟨-, -, hf⟩⟩ := ready_error hready
    · simp [hf, (hn _).symm, Breaks.not_nil]
    · simp [hf, (hc _).symm, Breaks.not_nil]
  | @untitled name parent suite g s s₁ s₂ hready htitle =>
    obtain ⟨t, ht⟩ := Screen.exists_suiteStart e.console name (parent.map (·.name))
    have hg := display_error htitle
    rw [ht] at hg
    cases hg
  | visited hready htitle hsteps ih => exact ih
  | done => simp [Breaks.not_nil]
  | raised href hbelow hf ih =>
    obtain ⟨rfl, -⟩ := settled_error hf
    rw [Breaks.reached_iff]
    exact ih
  | handed href hbelow hy hx ih =>
    rw [Breaks.reached_iff]
    simp [hsound ih hy]
  | resumed href hbelow hy hx hrest ihb ihr =>
    rw [Breaks.cons_iff, Breaks.reached_iff, or_iff_right (hsound ihb hy)]
    exact ihr
  | defaults href hinit hrest ih =>
    rw [Breaks.cons_iff, or_iff_right (Breaks.not_defaults _ f)]
    exact ih
  | @failed name parent ts x g t s s' href hinit hrun =>
    have hg : ((e.carryOut ⟨s, name, parent, t⟩).run s).1 = .error g := by rw [hrun]
    rw [Breaks.executed_iff, hg]
    simp
  | @cut name parent x r shown result t ts s s₁ s' href hinit hrun hcut hshown hresult =>
    have hg : ((e.carryOut ⟨s, name, parent, t⟩).run s).1 = .ok r := by rw [hrun]
    obtain ⟨text, ht⟩ := Screen.exists_skipping e.console ts.length
    rw [Breaks.executed_iff, hg, hresult]
    rw [ht, run_display] at hshown
    cases hshown
    simp [Except.map]
  | @executed name parent ts x r ds result t s s₁ s' href hinit hrun hcut hrest ih =>
    have hg : ((e.carryOut ⟨s, name, parent, t⟩).run s).1 = .ok r := by rw [hrun]
    rw [Breaks.cons_iff, Breaks.executed_iff, hg, or_iff_right (by simp)]
    exact ih

/-- How a suite goes on after a step whose run has failed: the run is counted, and then the rest is
skipped or gone through from there. -/
structure GoesOn (e : Engine σ) (m : Moment σ) (r : Run) : Prop where
  failed : ∀ x : SuiteResult, (x.add r).counts.failed = x.counts.failed + 1
  passed : ∀ x : SuiteResult, (x.add r).counts.passed = x.counts.passed
  error : ∀ x : SuiteResult, (x.add r).error = x.error.or r.error
  rest : ∀ {ts : List Test} {x : SuiteResult} {y : Effect} {ds : List (Deed σ)}
    {result : Except Fault SuiteResult} {s' : State σ},
    Performs e (.steps m.suite m.parent (m.step :: ts) x) m.before (.executed m y :: ds) result s' →
      if failsRest r then ds = [] ∧ result = .ok ((x.add r).skip ts.length)
      else Performs e (.steps m.suite m.parent ts (x.add r)) ((e.carryOut m).run m.before).2 ds
        result s'

theorem carryOut_of_shown {m : Moment σ} {r : Run} {text : String}
    (hr : (e.effect m).result = .ok r) (hs : Screen.stepResult e.console r = .ok text) :
    ((e.carryOut m).run m.before).1 = .ok r :=
  carryOut_eq_ok_iff.2 ⟨hr, text, hs⟩

theorem goesOn_of_shown {m : Moment σ} {r : Run} {text : String} (hr : (e.effect m).result = .ok r)
    (herror : r.error.isSome) (hs : Screen.stepResult e.console r = .ok text) : GoesOn e m r := by
  obtain ⟨f, hf⟩ := Option.isSome_iff_exists.1 herror
  constructor
  · intro x
    simp [SuiteResult.add, hf]
  · intro x
    simp [SuiteResult.add, hf]
  · intro x
    simp [SuiteResult.add, hf]
  · intro ts x y ds result s' h
    have hx := carryOut_of_shown hr hs
    obtain ⟨s, name, parent, t⟩ := m
    cases h with
    | failed href hinit hrun =>
      rw [hrun] at hx
      cases hx
    | @cut _ _ _ _ shown _ _ _ _ _ _ href hinit hrun hcut hshown hresult =>
      rw [hrun] at hx
      cases hx
      obtain ⟨line, hl⟩ := Screen.exists_skipping e.console ts.length
      rw [hl, run_display] at hshown
      cases hshown
      rw [if_pos hcut]
      exact ⟨rfl, hresult⟩
    | executed href hinit hrun hcut hrest =>
      rw [hrun] at hx
      cases hx
      rw [if_neg (by simp [hcut]), hrun]
      exact hrest

/-- A step of which a reference has no value. -/
structure Unresolved (e : Engine σ) (m : Moment σ) (r : Run) : Prop where
  error : ∃ cause, r.error = some (.unresolved cause)
  path : r.path = .str m.step.path
  response : r.response = none
  runner : ((e.carryOut m).run m.before).2.runner = m.before.runner
  results : ((e.carryOut m).run m.before).2.plan.results = m.before.plan.results ++ [r]
  goesOn : '[' ∉ (Text.upper r.method).toList → GoesOn e m r

theorem unresolved_of_effect {m : Moment σ} {r : Run} (h : e.effect m = .unresolved r) :
    Unresolved e m r := by
  have hresult : (e.effect m).result = .ok r := by
    rw [h]
    rfl
  have hrun : (∃ cause, r.error = some (.unresolved cause)) ∧ r.path = .str m.step.path ∧
      r.response = none := by
    obtain ⟨q, -, hx⟩ | ⟨q, cause, hr, hx⟩ | ⟨q, f, -, -, hx⟩ := effect_cases e m
    · cases h.symm.trans hx
    · cases h.symm.trans hx
      refine ⟨⟨cause, rfl⟩, (Reference.path_resolveRun hr).trans (Run.path_ofTest _ _ _), ?_⟩
      obtain ⟨params, path, rfl⟩ := Reference.resolveRun_eq hr
      exact Run.response_ofTest _ _ _
    · cases h.symm.trans hx
  obtain ⟨⟨cause, hcause⟩, hpath, hresponse⟩ := hrun
  constructor
  · exact ⟨cause, hcause⟩
  · exact hpath
  · exact hresponse
  · have hs := serves_carryOut e m
    rw [h] at hs
    exact hs.eq_of_nil
  · have ht := (frame_trail e).of_carryOut m
    rw [ht.results, Deed.runs_executed hresult]
  · intro hm
    obtain ⟨text, ht⟩ := Screen.exists_stepResult hpath hm e.console
    exact goesOn_of_shown hresult (by rw [hcause]; rfl) ht

theorem Deed.mem_runs {ds : List (Deed σ)} {m : Moment σ} {x : Effect} {r : Run}
    (h : .executed m x ∈ allOf ds) (hr : r ∈ x.recorded) : r ∈ runs ds :=
  List.mem_flatMap.2 ⟨x, List.mem_filterMap.2 ⟨_, h, rfl⟩, hr⟩

theorem Effect.Aborts.cause {m : Moment σ} {f : Fault} {k : Screen.Console}
    (h : (e.effect m).Aborts k f) : AbortCause m (e.effect m) f := by
  obtain hs | ⟨r, hr, hs⟩ := h
  · exact effect_stuck hs
  · obtain ⟨rfl, hp⟩ | ⟨hf, hm⟩ := Screen.stepResult_error hs
    · exact .path hr hp
    · exact .method hr hm hf

/-- A suite that is there is not said to be missing. -/
theorem Performs.ne_suiteNotFound (hrunner : ∀ f, ¬ e.runner.Raises f) {name : String}
    {parent : Option Test} {s s' : State σ} {ds : List (Deed σ)}
    {result : Except Fault SuiteResult} (h : Performs e (.suite name parent) s ds result s')
    (hname : (s.plan.runnable? name).isSome) (n : String) :
    result ≠ .error (.suiteNotFound n) := by
  rintro rfl
  obtain hraised | ⟨hs, -⟩ := h.suiteNotFound
  · exact hrunner _ (h.raises hraised)
  · rw [hs] at hname
    cases hname

def emptyHanded : Runner Unit where
  run _ _ s := ((.ok ⟨some ⟨200, .list [], ""⟩, [], none, none, 0⟩, []), s)

theorem emptyHanded_answers (f : Fault) : ¬ emptyHanded.Raises f := by
  rintro ⟨run, suite, s, h⟩
  cases h

def petKeeping : Engine Unit := ⟨emptyHanded, .replace, .narrow⟩

/-- A list of pets, and then the pet at this place of it. -/
def petShop (place : String) : Plan :=
  let step (name path : String) : Test :=
    { Test.empty with name := name, method := "get", path := path }
  { (default : Plan) with
    suites := .ofList [("pets", (default : Plan).createSuite "pets"
      [step "list" "/pets", step "show" ("/pets/\x7b\x7blist.outputs." ++ place ++ "\x7d\x7d")])] }

theorem petShop_squared : ∃ s', (petKeeping.run "pets" none).run (.start (petShop "²") ()) =
    (.error (.data .value), s') := by
  have hr : (((petKeeping.run "pets" none).run (.start (petShop "²") ())).1.map fun _ => ()) =
      .error (.data .value) := by decide +kernel
  rcases h : (petKeeping.run "pets" none).run (.start (petShop "²") ()) with ⟨result, s'⟩
  rw [h] at hr
  exact ⟨s', congrArg (·, s') (map_eq_error hr)⟩

end Engine

end Runbook
