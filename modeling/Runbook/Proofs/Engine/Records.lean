import Mathlib.Algebra.Ring.Int.Defs
import Runbook.Proofs.Engine.Call
import Runbook.Proofs.Engine.Recursion

namespace Runbook

namespace Counts

def ofFuzz (n : Int) : Counts := { zero with fuzzTotal := n }

theorem add_def (a b : Counts) : a + b = ⟨a.total + b.total, a.passed + b.passed,
    a.failed + b.failed, a.skipped + b.skipped, a.schemaMismatch + b.schemaMismatch,
    a.fuzzTotal + b.fuzzTotal⟩ := rfl

instance : Zero Counts := ⟨zero⟩

theorem zero_def : (0 : Counts) = ⟨0, 0, 0, 0, 0, 0⟩ := rfl

instance : AddCommMonoid Counts where
  nsmul := nsmulRec
  add_assoc a b c := by simp only [add_def, Int.add_assoc]
  zero_add a := by simp only [add_def, zero_def, Int.zero_add]
  add_zero a := by simp only [add_def, zero_def, Int.add_zero]
  add_comm a b := by simp only [add_def, Int.add_comm]

theorem ofFuzz_zero : ofFuzz 0 = 0 := rfl

theorem ofFuzz_add (m n : Int) : ofFuzz (m + n) = ofFuzz m + ofFuzz n := rfl

theorem add_ofFuzz (c : Counts) (n : Int) :
    c + ofFuzz n = { c with fuzzTotal := c.fuzzTotal + n } := by
  simp only [add_def, ofFuzz, zero, Int.add_zero]

end Counts

namespace Run

/-- A run that the runner has not got, because a reference in it has no value. -/
def isUnresolved (r : Run) : Bool :=
  match r.error with
  | some (.unresolved _) => true
  | _ => false

theorem isUnresolved_withOutcome (r : Run) (o : Outcome) :
    (r.withOutcome o).isUnresolved = false := by
  unfold isUnresolved withOutcome
  cases o.responseError with
  | some failure => rfl
  | none =>
    cases r.strict with
    | false => rfl
    | true => cases o.schemaError <;> rfl

end Run

namespace Engine

variable {σ : Type} {e : Engine σ}

def Call.logged (c : Call) : Run :=
  match c.answer with
  | .ok o => c.run.withOutcome o
  | .error _ => c.run

def Call.outcome? (c : Call) : Option Outcome := c.answer.toOption

def Deed.outcomes (ds : List (Deed σ)) : List Outcome := (Deed.calls ds).filterMap Call.outcome?

def Deed.logged (ds : List (Deed σ)) : List Run := (Deed.effects ds).flatMap Effect.logged

namespace Effect

/-- A step that leaves no result leaves nothing in the history either, unless its call has raised. -/
theorem logged_eq (x : Effect) : x.logged = x.recorded ∨ ∃ c f, x.call? = some c ∧
    c.answer = .error f ∧ x.result = .error f ∧ x.logged = [c.run] ∧ x.recorded = [] := by
  cases x with
  | unresolved r => exact .inl rfl
  | stuck f => exact .inl rfl
  | called r suite answer =>
    cases answer with
    | ok o => exact .inl rfl
    | error f => exact .inr ⟨⟨r, suite, .error f⟩, f, rfl, rfl, rfl, rfl, rfl⟩

theorem length_logged (x : Effect) : x.logged.length =
    x.recorded.length + x.call?.toList.countP (·.outcome?.isNone) := by
  cases x with
  | unresolved r => rfl
  | stuck f => rfl
  | called r suite answer => cases answer <;> rfl

theorem payloads_eq (x : Effect) :
    x.payloads = (x.call?.toList.filterMap Call.outcome?).flatMap (·.payloads) := by
  cases x with
  | unresolved r => rfl
  | stuck f => rfl
  | called r suite answer =>
    cases answer with
    | ok o => exact (List.append_nil _).symm
    | error f => rfl

theorem fuzz_eq (x : Effect) :
    x.fuzz = ((x.call?.toList.filterMap Call.outcome?).map (·.fuzzTotal)).sum := by
  cases x with
  | unresolved r => rfl
  | stuck f => rfl
  | called r suite answer =>
    cases answer with
    | ok o => exact (Int.add_zero _).symm
    | error f => rfl

end Effect

/-- What the runner is called for is in the history, and apart from it only what could not be
resolved is. -/
theorem filter_logged_effect (e : Engine σ) (m : Moment σ) :
    (e.effect m).logged.filter (fun r => !r.isUnresolved) =
      (e.effect m).call?.toList.map Call.logged := by
  unfold effect
  split
  · rename_i r hr
    obtain ⟨params, path, hr⟩ := Reference.resolveRun_eq hr
    have hn : r.error = none := by
      rw [hr]
      exact Run.error_ofTest _ _ _
    cases (e.runner.run r m.now m.before.runner).1.1 with
    | ok o => simp [Effect.logged, Effect.call?, Call.logged, Run.isUnresolved_withOutcome]
    | error f => simp [Effect.logged, Effect.call?, Call.logged, Run.isUnresolved, hn]
  · simp [Effect.logged, Effect.call?, Run.isUnresolved]
  · rfl

namespace Deed

theorem calls_eq_flatMap (ds : List (Deed σ)) :
    calls ds = (effects ds).flatMap fun x => x.call?.toList := by
  rw [calls]
  induction effects ds with
  | nil => rfl
  | cons x xs ih =>
    rw [List.filterMap_cons, List.flatMap_cons, ← ih]
    cases x.call? <;> rfl

theorem payloads_eq (ds : List (Deed σ)) :
    (effects ds).flatMap Effect.payloads = (outcomes ds).flatMap (·.payloads) := by
  rw [outcomes, calls_eq_flatMap]
  induction effects ds with
  | nil => rfl
  | cons x xs ih =>
    rw [List.flatMap_cons, List.flatMap_cons, List.filterMap_append, List.flatMap_append, ← ih,
      ← Effect.payloads_eq]

theorem fuzzTotal_eq (ds : List (Deed σ)) :
    fuzzTotal ds = ((outcomes ds).map (·.fuzzTotal)).sum := by
  rw [fuzzTotal, outcomes, calls_eq_flatMap]
  induction effects ds with
  | nil => rfl
  | cons x xs ih =>
    rw [List.foldr_cons, List.flatMap_cons, List.filterMap_append, List.map_append, List.sum_append,
      ih, ← Effect.fuzz_eq]

/-- Beyond the results the history has the runs whose calls have raised. -/
theorem length_logged (ds : List (Deed σ)) :
    (logged ds).length = (runs ds).length + (calls ds).countP (·.outcome?.isNone) := by
  rw [logged, runs, calls_eq_flatMap]
  induction effects ds with
  | nil => rfl
  | cons x xs ih =>
    rw [List.flatMap_cons, List.flatMap_cons, List.flatMap_cons, List.length_append, ih,
      x.length_logged, List.length_append, List.countP_append]
    omega

theorem runs_sublist_logged (ds : List (Deed σ)) : (runs ds).Sublist (logged ds) := by
  rw [logged, runs]
  induction effects ds with
  | nil => exact .slnil
  | cons x xs ih =>
    rw [List.flatMap_cons, List.flatMap_cons]
    apply List.Sublist.append _ ih
    obtain h | ⟨c, f, -, -, -, -, h⟩ := x.logged_eq
    · rw [h]
    · rw [h]
      exact List.nil_sublist _

theorem mem_effects {ds : List (Deed σ)} {x : Effect} (h : x ∈ effects ds) :
    ∃ m, executed m x ∈ allOf ds := by
  obtain ⟨d, hd, hx⟩ := List.mem_filterMap.1 h
  cases d with
  | executed m y =>
    cases hx
    exact ⟨m, hd⟩
  | reached | defaults => cases hx

end Deed

theorem Performs.filter_logged {task : Task} {s s' : State σ} {ds : List (Deed σ)}
    {result : Except Fault SuiteResult} (h : Performs e task s ds result s') :
    (Deed.logged ds).filter (fun r => !r.isUnresolved) = (Deed.calls ds).map Call.logged := by
  have hx : ∀ x ∈ Deed.effects ds, x.logged.filter (fun r => !r.isUnresolved) =
      x.call?.toList.map Call.logged := by
    intro x hx
    obtain ⟨m, hm⟩ := Deed.mem_effects hx
    rw [h.effect_eq hm]
    exact filter_logged_effect e m
  rw [Deed.logged, Deed.calls_eq_flatMap, List.filter_flatMap, List.map_flatMap]
  exact List.flatMap_congr hx

/-- A step that has raised at most what a step that reaches a suite takes for the fault that there is
no such suite. -/
def Effect.Passes (x : Effect) : Prop := ∀ f, x.result = .error f → ∃ n, f = .suiteNotFound n

/-- All steps pass but possibly the last one, whose fault is the result. -/
def Ends (xs : List Effect) (result : Except Fault SuiteResult) : Prop :=
  (∀ x ∈ xs, x.Passes) ∨ ∃ ys x f, xs = ys ++ [x] ∧ (∀ y ∈ ys, y.Passes) ∧
    x.result = .error f ∧ result = .error f

namespace Ends

variable {xs ys : List Effect} {result result' : Except Fault SuiteResult} {f : Fault}
  {y : SuiteResult}

theorem nil : Ends [] result := .inl fun _ h => absurd h List.not_mem_nil

theorem raised (h : Ends xs result) (hf : settled result = .error f) : Ends xs (.error f) := by
  obtain ⟨rfl, -⟩ := settled_error hf
  exact h

theorem passes (h : Ends xs result) (hy : settled result = .ok y) : ∀ x ∈ xs, x.Passes := by
  obtain h | ⟨ys, x, f, rfl, hys, hx, rfl⟩ := h
  · exact h
  · apply List.forall_mem_append.2 ⟨hys, List.forall_mem_singleton.2 _⟩
    intro g hg
    obtain hr | ⟨n, hr, -⟩ := settled_eq_ok hy
    · cases hr
    · cases hr
      rw [hx] at hg
      cases hg
      exact ⟨n, rfl⟩

theorem append (hx : ∀ x ∈ xs, x.Passes) (h : Ends ys result) : Ends (xs ++ ys) result := by
  obtain h | ⟨zs, z, f, rfl, hzs, hz, hr⟩ := h
  · exact .inl (List.forall_mem_append.2 ⟨hx, h⟩)
  · right
    refine ⟨xs ++ zs, z, f, (List.append_assoc _ _ _).symm, ?_, hz, hr⟩
    exact List.forall_mem_append.2 ⟨hx, hzs⟩

theorem passed {x : Effect} {r : Run} (hx : x.result = .ok r) : ∀ y ∈ [x], y.Passes := by
  intro y hy f hf
  rw [List.mem_singleton.1 hy, hx] at hf
  cases hf

end Ends

theorem Performs.ends {task : Task} {s s' : State σ} {ds : List (Deed σ)}
    {result : Except Fault SuiteResult} (h : Performs e task s ds result s') :
    Ends (Deed.effects ds) result := by
  induction h with
  | refused hready | untitled hready htitle | done => exact .nil
  | visited hready htitle hsteps ih => exact ih
  | raised href hbelow hf ih =>
    rw [Deed.effects_reached]
    exact ih.raised hf
  | handed href hbelow hy hx ih =>
    rw [Deed.effects_reached]
    exact .inl (ih.passes hy)
  | resumed href hbelow hy hx hrest ihb ihr =>
    rw [Deed.effects_cons, Deed.effects_reached]
    exact .append (ihb.passes hy) ihr
  | defaults href hinit hrest ih => exact ih
  | @failed name parent ts x f t s s' href hinit hrun =>
    change Ends [e.effect _] _
    cases hx : (e.effect ⟨s, name, parent, t⟩).result with
    | ok r => exact .inl (Ends.passed hx)
    | error g =>
      right
      refine ⟨[], _, g, rfl, by simp, hx, ?_⟩
      have hg := carryOut_eq_error_iff.2 (.inl hx)
      rw [hrun] at hg
      exact congrArg Except.error (Except.error.inj hg)
  | cut href hinit hrun hcut hshown hresult => exact .inl (Ends.passed (result_of_carryOut hrun))
  | executed href hinit hrun hcut hrest ih =>
    exact .append (Ends.passed (result_of_carryOut hrun)) ih

theorem Effect.result_of_call {x : Effect} {c : Call} {f : Fault} (h : x.call? = some c)
    (hf : c.answer = .error f) : x.result = .error f := by
  cases x with
  | called r suite answer =>
    cases h
    cases hf
    rfl
  | unresolved | stuck => cases h

/-- The call of a step that has passed is in the history as a result, unless it has raised that there
is no suite. -/
theorem Effect.Passes.logged_eq {x : Effect} (h : x.Passes)
    (hn : ∀ c ∈ x.call?, ∀ n, c.answer ≠ .error (.suiteNotFound n)) : x.logged = x.recorded := by
  obtain hx | ⟨c, f, hc, hf, hr, -, -⟩ := x.logged_eq
  · exact hx
  · obtain ⟨n, rfl⟩ := h f hr
    exact absurd hf (hn c hc n)

theorem Performs.getLast?_calls {task : Task} {s s' : State σ} {ds : List (Deed σ)}
    {result : Except Fault SuiteResult} (h : Performs e task s ds result s') {c : Call} {f : Fault}
    (hc : c ∈ Deed.calls ds) (hf : c.answer = .error f) (hn : ∀ n, f ≠ .suiteNotFound n) :
    (Deed.calls ds).getLast? = some c ∧ result = .error f := by
  rw [Deed.calls] at hc ⊢
  obtain ⟨x, hx, hxc⟩ := List.mem_filterMap.1 hc
  have hr := Effect.result_of_call hxc hf
  have hnot : ¬ x.Passes := fun hp => by
    obtain ⟨n, hfn⟩ := hp f hr
    exact hn n hfn
  obtain hp | ⟨ys, y, g, hys, hp, hy, rfl⟩ := h.ends
  · exact absurd (hp x hx) hnot
  · rw [hys] at hx ⊢
    obtain hx | hx := List.mem_append.1 hx
    · exact absurd (hp x hx) hnot
    · cases List.mem_singleton.1 hx
      rw [hr] at hy
      cases hy
      rw [List.filterMap_append, List.filterMap_cons_some hxc]
      exact ⟨List.getLast?_concat, rfl⟩

/-- The history has what the results have, and at most one run more: the last one, whose call has
raised what the task ends with. -/
theorem Performs.logged_eq {task : Task} {s s' : State σ} {ds : List (Deed σ)}
    {result : Except Fault SuiteResult} (h : Performs e task s ds result s')
    (hn : ∀ c ∈ Deed.calls ds, ∀ n, c.answer ≠ .error (.suiteNotFound n)) :
    Deed.logged ds = Deed.runs ds ∨ ∃ c f, Deed.logged ds = Deed.runs ds ++ [c.run] ∧
      (Deed.calls ds).getLast? = some c ∧ c.answer = .error f ∧ result = .error f := by
  have hpass : ∀ x ∈ Deed.effects ds, x.Passes → x.logged = x.recorded := fun x hx hp =>
    hp.logged_eq fun c hc => hn c (List.mem_filterMap.2 ⟨x, hx, hc⟩)
  -- All steps have passed, or all but the last one.
  obtain hp | ⟨ys, x, f, hys, hp, -, -⟩ := h.ends
  · left
    exact List.flatMap_congr fun x hx => hpass x hx (hp x hx)
  · rw [hys] at hpass
    have hinit : ys.flatMap Effect.logged = ys.flatMap Effect.recorded :=
      List.flatMap_congr fun y hy => hpass y (List.mem_append_left _ hy) (hp y hy)
    have hlogged : Deed.logged ds = ys.flatMap Effect.recorded ++ x.logged := by
      rw [Deed.logged, hys, List.flatMap_append, hinit, List.flatMap_singleton]
    have hruns : Deed.runs ds = ys.flatMap Effect.recorded ++ x.recorded := by
      rw [Deed.runs, hys, List.flatMap_append, List.flatMap_singleton]
    obtain hx | ⟨c, f, hc, hf, -, hx, hx'⟩ := x.logged_eq
    · left
      rw [hlogged, hruns, hx]
    · right
      have hmem : c ∈ Deed.calls ds := by
        apply List.mem_filterMap.2
        exact ⟨x, hys ▸ List.mem_append_right _ (List.mem_singleton.2 rfl), hc⟩
      obtain ⟨hlast, hresult⟩ := h.getLast?_calls hmem hf fun n hfn => hn c hmem n (hfn ▸ hf)
      refine ⟨c, f, ?_, hlast, hf, hresult⟩
      rw [hlogged, hruns, hx, hx', List.append_nil]

theorem Performs.fuzzTotal_eq_zero {task : Task} {s s' : State σ} {ds : List (Deed σ)}
    {result : Except Fault SuiteResult} (h : Performs e task s ds result s') {y : SuiteResult}
    (hx : task.origin.1.counts.fuzzTotal = 0) (hy : result = .ok y) : y.counts.fuzzTotal = 0 := by
  have hadd : ∀ (x : SuiteResult) (r : Run), (x.add r).counts.fuzzTotal = x.counts.fuzzTotal := by
    intro x r
    unfold SuiteResult.add
    cases r.error <;> rfl
  -- What a step gets of a suite that it reaches, if that has counted none.
  have hbelow : ∀ {result : Except Fault SuiteResult} {y : SuiteResult},
      (∀ z, result = .ok z → z.counts.fuzzTotal = 0) → settled result = .ok y →
        y.counts.fuzzTotal = 0 := by
    intro result y hz hs
    obtain hr | ⟨n, -, rfl⟩ := settled_eq_ok hs
    · exact hz y hr
    · rfl
  -- The result that a task starts from has counted none, and nothing that is added to it has.
  induction h generalizing y with
  | refused hready | untitled hready htitle | raised href hb hf ih | failed href hinit hrun =>
    cases hy
  | visited hready htitle hsteps ih => exact ih rfl hy
  | done =>
    cases hy
    exact hx
  | handed href hb hs hx' ih =>
    cases hy
    exact hbelow (fun z hz => ih rfl hz) hs
  | @resumed name parent ts x x' z below ds result result' t s s₁ s' href hb hs hr hrest ihb ihr =>
    apply ihr _ hy
    have hz : z.counts.fuzzTotal = 0 := hbelow (fun z hz => ihb rfl hz) hs
    unfold SuiteResult.resume at hr
    cases hm : e.nested with
    | replace =>
      rw [hm] at hr
      dsimp only at hr
      split at hr
      · cases hr
      · cases hr
        exact hx
    | accumulate =>
      rw [hm] at hr
      cases hr
      change x.counts.fuzzTotal + z.counts.fuzzTotal = 0
      have hx : x.counts.fuzzTotal = 0 := hx
      omega
  | defaults href hinit hrest ih => exact ih hx hy
  | @cut name parent x r shown result t ts s s₁ s' href hinit hrun hcut hshown hresult =>
    obtain ⟨-, -, rfl⟩ := map_eq_ok_iff.1 (hresult.symm.trans hy)
    exact (hadd x r).trans hx
  | executed href hinit hrun hcut hrest ih => exact ih ((hadd _ _).trans hx) hy

def outcomes (visits : List (Visit σ)) : List Outcome := visits.flatMap fun v => Deed.outcomes v.deeds

theorem PerformsAll.counts {names : List String} {s s' : State σ} {visits : List (Visit σ)}
    {result : Except Fault (List SuiteResult)} (h : PerformsAll e names s visits result s')
    {xs : List SuiteResult} (hr : result = .ok xs) :
    s'.plan.counts = s.plan.counts + (xs.map (·.counts)).sum +
        .ofFuzz ((outcomes visits).map (·.fuzzTotal)).sum ∧
      ∀ x ∈ xs, x.counts.fuzzTotal = 0 := by
  induction h generalizing xs with
  | done =>
    cases hr
    rw [outcomes, List.flatMap_nil, List.map_nil, List.map_nil, List.sum_nil, List.sum_nil,
      Counts.ofFuzz_zero, add_zero, add_zero]
    exact ⟨rfl, fun _ h => absurd h List.not_mem_nil⟩
  | raised hrun => cases hr
  | @next name names ds x visits result s s₁ s' hrun hrest ih =>
    cases result with
    | error f => cases hr
    | ok xs' =>
      obtain rfl : x :: xs' = xs := Except.ok.inj hr
      obtain ⟨hc, hz⟩ := ih rfl
      have hx : x.counts.fuzzTotal = 0 := hrun.fuzzTotal_eq_zero rfl rfl
      refine ⟨?_, List.forall_mem_cons.2 ⟨hx, hz⟩⟩
      have ht : s₁.plan.counts =
          s.plan.counts + .ofFuzz ((Deed.outcomes ds).map (·.fuzzTotal)).sum := by
        rw [hrun.trail.counts, Deed.fuzzTotal_eq, Counts.add_ofFuzz]
      have hs : (counted x s₁).plan.counts = s₁.plan.counts + x.counts := rfl
      have ho : outcomes (⟨name, s, ds⟩ :: visits) = Deed.outcomes ds ++ outcomes visits :=
        List.flatMap_cons
      rw [hc, hs, ht, ho, List.map_cons, List.sum_cons, List.map_append, List.sum_append,
        Counts.ofFuzz_add, add_assoc _ x.counts, add_right_comm s.plan.counts,
        add_assoc _ (Counts.ofFuzz _)]

/-- No run and no failure is lost or recorded twice, however a run of a suite ends. The results are
the history but for the runs whose calls have raised, of which there is at most one, the last, and
what it raised is what the run of the suite ends with; only where a runner raises that there is no
suite, a step that has reached one goes on, as if the engine had said so. The runner is called for
what is in the history and could be resolved, once each. The failures and the cases tried are those
of what the runner has returned. When suites are run one after the other, the plan counts their
results and these cases, which none of the results counts. -/
theorem records_agree (e : Engine σ) (s : State σ) :
    (∀ name parent, ∃ ds result s' logged recorded,
      Performs e (.suite name parent) s ds result s' ∧ (e.run name parent).run s = (result, s') ∧
      s'.history.runs = s.history.runs ++ logged ∧
      s'.plan.results = s.plan.results ++ recorded ∧
      recorded.Sublist logged ∧
      logged.length = recorded.length + (Deed.calls ds).countP (·.outcome?.isNone) ∧
      (∀ c ∈ Deed.calls ds, ∀ f, c.answer = .error f → (∀ n, f ≠ .suiteNotFound n) →
        (Deed.calls ds).getLast? = some c ∧ result = .error f) ∧
      ((∀ c ∈ Deed.calls ds, ∀ n, c.answer ≠ .error (.suiteNotFound n)) →
        logged = recorded ∨ ∃ c f, logged = recorded ++ [c.run] ∧
          (Deed.calls ds).getLast? = some c ∧ c.answer = .error f ∧ result = .error f) ∧
      e.runner.Serves s.runner (Deed.calls ds) s'.runner ∧
      logged.filter (fun r => !r.isUnresolved) = (Deed.calls ds).map Call.logged ∧
      s'.plan.newFailures = s.plan.newFailures ++ (Deed.outcomes ds).flatMap (·.payloads) ∧
      s'.plan.counts = { s.plan.counts with
        fuzzTotal := s.plan.counts.fuzzTotal + ((Deed.outcomes ds).map (·.fuzzTotal)).sum }) ∧
    ∀ names xs s', (e.runPlan names).run s = (.ok xs, s') → ∃ visits,
      PerformsAll e (names.getD s.plan.suiteNames) s visits (.ok xs) s' ∧
      s'.plan.counts = s.plan.counts + (xs.map (·.counts)).sum +
        .ofFuzz ((outcomes visits).map (·.fuzzTotal)).sum ∧
      ∀ x ∈ xs, x.counts.fuzzTotal = 0 := by
  refine ⟨fun name parent => ?_, fun names xs s' hrun => ?_⟩
  · obtain ⟨ds, h⟩ := performs_run e name parent s
    have ht := h.trail
    refine ⟨ds, _, _, Deed.logged ds, Deed.runs ds, h, rfl, ht.history, ht.results,
      Deed.runs_sublist_logged ds, Deed.length_logged ds, fun c hc f hf => h.getLast?_calls hc hf,
      h.logged_eq, h.serves, h.filter_logged, ?_, ?_⟩
    · rw [ht.newFailures, Deed.payloads_eq]
    · rw [ht.counts, Deed.fuzzTotal_eq]
  · obtain ⟨visits, h⟩ := performs_runAll e (names.getD s.plan.suiteNames) s
    have hall : (e.runAll (names.getD s.plan.suiteNames)).run s = (.ok xs, s') := hrun
    rw [hall] at h
    obtain ⟨hc, hz⟩ := h.counts rfl
    exact ⟨visits, h, hc, hz⟩

def halting : Runner Unit where
  run r _ s :=
    if r.method == "put" then ((.error (.runner "no answer"), []), s)
    else ((.ok ⟨some ⟨200, .null, ""⟩, [], none, none, 2⟩, []), s)

theorem halting_raises {f : Fault} (h : halting.Raises f) : f = .runner "no answer" := by
  obtain ⟨r, suite, s, h⟩ := h
  unfold halting at h
  dsimp only at h
  split at h
  · exact (Except.error.inj h).symm
  · cases h

def repairShop : Plan := planOf [
  ("orders", [("list", "", "get"), ("pets", "pets", "")]),
  ("pets", [("feed", "", "get")]),
  ("repairs", [("list", "", "get"), ("tool", "tools", ""), ("check", "", "get")]),
  ("tools", [("oil", "", "put")])]

def repairing : Engine Unit := ⟨halting, .replace, .narrow⟩

/-- What the repairs of the shop leave, which end at the tool, and what its orders count. -/
theorem records_agree_repairs :
    (∃ ds s' c recorded, Performs repairing (.suite "repairs" none) (.start repairShop ()) ds
        (.error (.runner "no answer")) s' ∧
      s'.history.runs = recorded ++ [c.run] ∧ s'.plan.results = recorded ∧ recorded.length = 1 ∧
      (Deed.calls ds).getLast? = some c ∧ c.answer = .error (.runner "no answer")) ∧
    ∃ visits xs s', PerformsAll repairing ["orders"] (.start repairShop ()) visits (.ok xs) s' ∧
      s'.plan.counts = ⟨2, 1, 0, 0, 0, 4⟩ ∧
      s'.plan.counts = repairShop.counts + (xs.map (·.counts)).sum +
        .ofFuzz ((outcomes visits).map (·.fuzzTotal)).sum ∧
      ∀ x ∈ xs, x.counts.fuzzTotal = 0 := by
  obtain ⟨hone, hplan⟩ := records_agree repairing (.start repairShop ())
  constructor
  · obtain ⟨ds, result, s', logged, recorded, hp, hrun, hlogged, hrecorded, -, -, -, hlast, hserves,
      -⟩ := hone "repairs" none
    have hsizes : ((repairing.run "repairs" none).run (.start repairShop ())).2.history.size = 2 ∧
        ((repairing.run "repairs" none).run (.start repairShop ())).2.plan.results.length = 1 := by
      decide +kernel
    rw [hrun, hrecorded] at hsizes
    obtain ⟨hsize, hlength⟩ := hsizes
    have hraised : ∀ c ∈ Deed.calls ds, ∀ f, c.answer = .error f → f = .runner "no answer" :=
      fun c hc f hf => halting_raises (hserves.raises hc hf)
    obtain heq | ⟨c, f, heq, hc, hf, rfl⟩ := hlast fun c hc n hf => nomatch hraised c hc _ hf
    · rw [History.size, hlogged, heq] at hsize
      exact absurd (hlength.symm.trans hsize) (by decide)
    · cases hraised c (List.mem_of_getLast? hc) f hf
      exact ⟨ds, s', c, recorded, hp, hlogged.trans heq, hrecorded, hlength, hc, hf⟩
  · have hc : (match (repairing.runPlan (some ["orders"])).run (.start repairShop ()) with
        | (.ok _, s') => some s'.plan.counts
        | (.error _, _) => none) = some ⟨2, 1, 0, 0, 0, 4⟩ := by decide +kernel
    rcases h : (repairing.runPlan (some ["orders"])).run (.start repairShop ()) with ⟨f | xs, s'⟩
    · rw [h] at hc
      cases hc
    · rw [h] at hc
      obtain ⟨visits, hp, hsum, hz⟩ := hplan _ _ _ h
      exact ⟨visits, xs, s', hp, Option.some.inj hc, hsum, hz⟩

/-- Where a runner raises that there is no such suite, the history has a run in its midst that is no
result. -/
theorem records_part :
    ¬ ∀ (e : Engine Unit) (s : State Unit) (name : String), ∃ logged recorded,
      ((e.run name none).run s).2.history.runs = s.history.runs ++ logged ∧
      ((e.run name none).run s).2.plan.results = s.plan.results ++ recorded ∧
      (logged = recorded ∨ ∃ r, logged = recorded ++ [r]) := by
  intro h
  obtain ⟨logged, recorded, hlogged, hrecorded, hagree⟩ :=
    h (mistaken .accumulate) (.start workshop ()) "repairs"
  have hnames : ((((mistaken .accumulate).run "repairs" none).run
        (.start workshop ())).2.history.runs.map (·.name) = ["list", "tool", "tool", "check"]) ∧
      (((mistaken .accumulate).run "repairs" none).run
        (.start workshop ())).2.plan.results.map (·.name) = ["list", "tool", "check"] := by
    decide +kernel
  rw [hlogged, hrecorded] at hnames
  obtain ⟨hl, hr⟩ : logged.map (·.name) = _ ∧ recorded.map (·.name) = _ := hnames
  obtain rfl | ⟨r, rfl⟩ := hagree
  · exact absurd (hl.symm.trans hr) (by decide)
  · rw [List.map_append, hr] at hl
    simp at hl

end Engine

end Runbook
