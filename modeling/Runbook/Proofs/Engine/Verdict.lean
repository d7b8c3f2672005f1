import Runbook.Proofs.Engine.Counting

namespace Runbook

namespace SuiteResult

variable {x x' y : SuiteResult} {mode : NestedCounts}

theorem resume_eq_none (h : x.resume mode y = none) : mode = .replace ∧ y.error.isSome := by
  cases mode with
  | replace =>
    refine ⟨rfl, ?_⟩
    cases hy : y.error with
    | none => simp [resume, hy] at h
    | some f => rfl
  | accumulate => cases h

theorem resume_replace (h : x.resume .replace y = some x') : x' = x ∧ y.error = none := by
  cases hy : y.error with
  | none =>
    simp only [resume, hy, Option.isSome_none, Bool.false_eq_true, if_false, Option.some.injEq] at h
    exact ⟨h.symm, rfl⟩
  | some f => simp [resume, hy] at h

/-- A suite that goes on has the errors of both, its own first. -/
theorem error_resume (h : x.resume mode y = some x') : x'.error = x.error.or y.error := by
  cases mode with
  | replace =>
    obtain ⟨rfl, hy⟩ := resume_replace h
    rw [hy, Option.or_none]
  | accumulate =>
    cases h
    rfl

theorem error_add (x : SuiteResult) (r : Run) : (x.add r).error = x.error.or r.error := by
  cases hr : r.error <;> simp [add, hr]

end SuiteResult

namespace Engine

variable {σ : Type} {e : Engine σ}

namespace Deed

def ownRuns (ds : List (Deed σ)) : List Run := (ds.filterMap effect?).flatMap Effect.recorded

def isReference : Deed σ → Bool
  | reached _ _ _ => true
  | _ => false

theorem fault?_eq_none_iff (d : Deed σ) :
    d.fault? = none ↔ (∀ x ∈ d.effect?, ∀ r ∈ x.recorded, r.error = none) ∧ d.misses = false := by
  cases d with
  | reached m below result =>
    cases h : misses (reached m below result) <;> simp [fault?, effect?, h]
  | defaults m => simp [fault?, effect?, misses]
  | executed m x =>
    cases hx : x.result <;> simp [fault?, effect?, misses, Effect.recorded, hx, Except.toOption]

theorem faults_eq_nil_iff (ds : List (Deed σ)) :
    faults ds = [] ↔ (∀ r ∈ runs ds, r.error = none) ∧ ∀ d ∈ allOf ds, d.misses = false := by
  simp only [faults, List.filterMap_eq_nil_iff, fault?_eq_none_iff, runs, effects,
    List.mem_flatMap, List.mem_filterMap]
  constructor
  · intro h
    refine ⟨?_, fun d hd => (h d hd).2⟩
    rintro r ⟨x, ⟨d, hd, hx⟩, hr⟩
    exact (h d hd).1 x hx r hr
  · rintro ⟨hr, hm⟩ d hd
    exact ⟨fun x hx r hxr => hr r ⟨x, ⟨d, hd, hx⟩, hxr⟩, hm d hd⟩

end Deed

/-- A step has a clean result if nothing went wrong below it and there is a suite of that name. -/
theorem Performs.faults_reached_eq_nil_iff {m : Moment σ} {below : List (Deed σ)}
    {result : Except Fault SuiteResult} {y : SuiteResult} {s' : State σ}
    (h : Performs e (.suite m.step.ref (some m.forwarded)) m.before below result s')
    (hcalls : ∀ n, ¬ Deed.Raised below (.suiteNotFound n))
    (ih : ∀ {y}, result = .ok y → (y.error = none ↔ Deed.faults below = []))
    (hy : settled result = .ok y) :
    Deed.faults [.reached m below (.ok y)] = [] ↔ y.error = none := by
  rw [Deed.faults_reached]
  obtain ⟨hn, rfl, rfl⟩ | ⟨hn, hr⟩ := h.settled_ok hcalls hy
  · simp [Deed.fault?, Deed.misses, hn]
  · have hm : Deed.misses (.reached m below (.ok y)) = false := by simpa [Deed.misses] using hn
    simp [Deed.fault?, hm, ih hr]

theorem Performs.error_eq_none_iff {task : Task} {s s' : State σ} {ds : List (Deed σ)}
    {result : Except Fault SuiteResult} {y : SuiteResult} (h : Performs e task s ds result s')
    (hcalls : ∀ n, ¬ Deed.Raised ds (.suiteNotFound n)) (hy : result = .ok y) :
    y.error = none ↔ task.origin.1.error = none ∧ Deed.faults ds = [] := by
  -- What a suite has come to so far may have an error already, which stays.
  induction h generalizing y with
  | refused hready => cases hy
  | untitled hready htitle => cases hy
  | visited hready htitle hsteps ih => exact ih hcalls hy
  | done =>
    cases hy
    exact ⟨fun h => ⟨h, rfl⟩, fun h => h.1⟩
  | raised href hbelow hs ih => cases hy
  | @handed name parent ts x z below result t s s' href hbelow hs hx ih =>
    cases hy
    have hbelowCalls := (Deed.Raised.forall_not_reached.1 hcalls).1
    have hf := hbelow.faults_reached_eq_nil_iff (m := ⟨s, name, parent, t⟩) hbelowCalls
      (fun hr => (ih hbelowCalls hr).trans (and_iff_right rfl)) hs
    obtain ⟨-, hz⟩ := SuiteResult.resume_eq_none hx
    rw [hf]
    simp [Option.isSome_iff_ne_none.1 hz]
  | @resumed name parent ts x x' z below ds result result' t s s₁ s' href hbelow hs hx hrest ihb
      ihr =>
    obtain ⟨hbelowCalls, hrestCalls⟩ := Deed.Raised.forall_not_reached.1 hcalls
    have hf := hbelow.faults_reached_eq_nil_iff (m := ⟨s, name, parent, t⟩) hbelowCalls
      (fun hr => (ihb hbelowCalls hr).trans (and_iff_right rfl)) hs
    have hr : y.error = none ↔ x'.error = none ∧ Deed.faults ds = [] := ihr hrestCalls hy
    rw [hr, SuiteResult.error_resume hx, Option.or_eq_none_iff, Deed.faults_cons,
      List.append_eq_nil_iff, hf, and_assoc]
    rfl
  | defaults href hinit hrest ih => exact ih (fun n hr => hcalls n (hr.tail _)) hy
  | failed href hinit hrun => cases hy
  | @cut name parent x r shown result t ts s s₁ s' href hinit hrun hcut hshown hresult =>
    obtain ⟨-, -, rfl⟩ := map_eq_ok_iff.1 (hresult.symm.trans hy)
    rw [Deed.faults_executed (result_of_carryOut hrun), Option.toList_eq_nil_iff]
    change (x.add r).error = none ↔ _
    rw [SuiteResult.error_add, Option.or_eq_none_iff]
    rfl
  | @executed name parent ts x r ds result t s s₁ s' href hinit hrun hcut hrest ih =>
    have hr : y.error = none ↔ (x.add r).error = none ∧ Deed.faults ds = [] :=
      ih (fun n hr => hcalls n (hr.tail _)) hy
    rw [hr, SuiteResult.error_add, Option.or_eq_none_iff, Deed.faults_cons,
      List.append_eq_nil_iff, Deed.faults_executed (result_of_carryOut hrun),
      Option.toList_eq_nil_iff, and_assoc]
    rfl

/-- Between the results `x` and `y` a suite that drops the counts of others has counted the steps
`ds` of its own, and skipped what they leave of `left` steps. -/
structure Owns (x y : SuiteResult) (left : Nat) (ds : List (Deed σ)) : Prop where
  error : y.error = x.error.or ((Deed.ownRuns ds).findSome? (·.error))
  total : y.counts.total = x.counts.total
  passed : y.counts.passed = x.counts.passed + (Deed.ownRuns ds).countP (·.error.isNone)
  failed : y.counts.failed = x.counts.failed + (Deed.ownRuns ds).countP (·.error.isSome)
  mismatches : y.counts.schemaMismatch =
    x.counts.schemaMismatch + (Deed.ownRuns ds).countP (·.schemaError.isSome)
  skipped : y.counts.skipped = x.counts.skipped + left - ds.length
  processed : ds.length =
    (Deed.ownRuns ds).length + ds.countP Deed.isDefaults + ds.countP Deed.isReference
  clean : ∀ m below z, Deed.reached m below (.ok z) ∈ ds → z.error = none

namespace Owns

variable {x y z : SuiteResult} {n : Nat} {d : Deed σ} {ds : List (Deed σ)}

theorem cons (h : Owns x y 1 [d]) (h' : Owns y z n ds) : Owns x z (n + 1) (d :: ds) := by
  have ho : Deed.ownRuns (d :: ds) = Deed.ownRuns [d] ++ Deed.ownRuns ds := by
    rw [← List.singleton_append, Deed.ownRuns, List.filterMap_append, List.flatMap_append]
    rfl
  constructor
  · rw [h'.error, h.error, ho, List.findSome?_append, Option.or_assoc]
  · rw [h'.total, h.total]
  · rw [h'.passed, h.passed, ho, List.countP_append]
    omega
  · rw [h'.failed, h.failed, ho, List.countP_append]
    omega
  · rw [h'.mismatches, h.mismatches, ho, List.countP_append]
    omega
  · have hs := h.skipped
    rw [h'.skipped, hs]
    simp only [List.length_cons, List.length_nil]
    omega
  · have hd := h.processed
    have hds := h'.processed
    rw [ho, List.length_append, ← List.singleton_append, List.length_append, List.countP_append,
      List.countP_append]
    omega
  · intro m below w hm
    obtain rfl | hm := List.mem_cons.1 hm
    · exact h.clean m below w (List.mem_singleton.2 rfl)
    · exact h'.clean m below w hm

theorem skip (x : SuiteResult) (n : Nat) : Owns x (x.skip n) n ([] : List (Deed σ)) where
  error := (Option.or_none).symm
  total := rfl
  passed := (Int.add_zero _).symm
  failed := (Int.add_zero _).symm
  mismatches := (Int.add_zero _).symm
  skipped := (Int.sub_zero _).symm
  processed := rfl
  clean := by simp

theorem idle (x : SuiteResult) (ds : List (Deed σ)) (hr : Deed.ownRuns ds = [])
    (hp : ds.length = ds.countP Deed.isDefaults + ds.countP Deed.isReference)
    (hc : ∀ m below z, Deed.reached m below (.ok z) ∈ ds → z.error = none) :
    Owns x x ds.length ds where
  error := by rw [hr, List.findSome?_nil, Option.or_none]
  total := rfl
  passed := by rw [hr, List.countP_nil, Int.natCast_zero, Int.add_zero]
  failed := by rw [hr, List.countP_nil, Int.natCast_zero, Int.add_zero]
  mismatches := by rw [hr, List.countP_nil, Int.natCast_zero, Int.add_zero]
  skipped := by omega
  processed := by rw [hr, List.length_nil, Nat.zero_add, hp]
  clean := hc

theorem refl (x : SuiteResult) : Owns x x 0 ([] : List (Deed σ)) :=
  idle x [] rfl rfl (by simp)

theorem defaults (x : SuiteResult) (m : Moment σ) : Owns x x 1 [.defaults m] :=
  idle x [.defaults m] rfl rfl (by simp)

theorem reached (x : SuiteResult) (m : Moment σ) (below : List (Deed σ)) (hy : y.error = none) :
    Owns x x 1 [.reached m below (.ok y)] := by
  refine idle x [.reached m below (.ok y)] rfl rfl fun m below w hm => ?_
  cases List.mem_singleton.1 hm
  exact hy

theorem add (x : SuiteResult) (m : Moment σ) {effect : Effect} {r : Run}
    (h : effect.result = .ok r) : Owns x (x.add r) 1 [.executed m effect] := by
  have ho : Deed.ownRuns [Deed.executed m effect] = [r] := by
    simp [Deed.ownRuns, Deed.effect?, Effect.recorded, h, Except.toOption]
  constructor
  · rw [ho, SuiteResult.error_add]
    cases hr : r.error <;> simp [hr]
  · cases hr : r.error <;> simp [SuiteResult.add, hr]
  · rw [ho]
    cases hr : r.error <;> simp [SuiteResult.add, hr]
  · rw [ho]
    cases hr : r.error <;> simp [SuiteResult.add, hr]
  · rw [ho]
    cases hr : r.error <;> cases hs : r.schemaError <;> simp [SuiteResult.add, hr, hs]
  · cases hr : r.error <;> simp [SuiteResult.add, hr]
  · rw [ho]
    rfl
  · simp

end Owns

/-- The deeds end with a step whose suite has handed on the result. -/
def HandedOn (e : Engine σ) (ds : List (Deed σ)) (y : SuiteResult) : Prop :=
  ∃ m below, ds.getLast? = some (.reached m below (.ok y)) ∧ y.error.isSome ∧
    (m.before.plan.runnable? m.step.ref = none ∧
        y = ⟨.zero, some (.suiteNotFound m.step.ref)⟩ ∨
      ∃ s', (e.run m.step.ref (some m.forwarded)).run m.before = (.ok y, s'))

theorem HandedOn.cons {ds : List (Deed σ)} {y : SuiteResult} (h : HandedOn e ds y) (d : Deed σ) :
    HandedOn e (d :: ds) y := by
  obtain ⟨m, below, hl, hm⟩ := h
  refine ⟨m, below, ?_, hm⟩
  rw [List.getLast?_cons, hl]
  rfl

theorem Performs.replaced (hmode : e.nested = .replace) {name : String} {parent : Option Test}
    {ts : List Test} {x y : SuiteResult} {s s' : State σ} {ds : List (Deed σ)}
    (h : Performs e (.steps name parent ts x) s ds (.ok y) s')
    (hcalls : ∀ n, ¬ Deed.Raised ds (.suiteNotFound n)) : HandedOn e ds y ∨ Owns x y ts.length ds := by
  induction ts generalizing x s ds with
  | nil =>
    cases h
    exact .inr (.refl _)
  | cons t ts ih =>
    cases h with
    | handed href hbelow hs hx =>
      left
      obtain ⟨-, hz⟩ := SuiteResult.resume_eq_none hx
      refine ⟨⟨s, name, parent, t⟩, _, rfl, hz, ?_⟩
      obtain ⟨hn, -, hy⟩ | ⟨-, hr⟩ :=
        hbelow.settled_ok (Deed.Raised.forall_not_reached.1 hcalls).1 hs
      · exact .inl ⟨hn, hy⟩
      · rw [hr] at hbelow
        exact .inr ⟨_, hbelow.run_eq⟩
    | resumed href hbelow hs hx hrest =>
      rw [hmode] at hx
      obtain ⟨rfl, hz⟩ := SuiteResult.resume_replace hx
      have hrestCalls := (Deed.Raised.forall_not_reached.1 hcalls).2
      exact (ih hrest hrestCalls).imp (fun h => h.cons _) (Owns.reached _ _ _ hz).cons
    | defaults href hinit hrest =>
      exact (ih hrest fun n hr => hcalls n (hr.tail _)).imp (fun h => h.cons _)
        (Owns.defaults _ _).cons
    | @cut _ _ _ r shown _ _ _ _ s₁ _ href hinit hrun hcut hshown hresult =>
      obtain ⟨-, -, rfl⟩ := map_eq_ok_iff.1 hresult.symm
      exact .inr ((Owns.add _ _ (result_of_carryOut hrun)).cons (.skip _ _))
    | executed href hinit hrun hcut hrest =>
      exact (ih hrest fun n hr => hcalls n (hr.tail _)).imp (fun h => h.cons _)
        (Owns.add _ _ (result_of_carryOut hrun)).cons

/-- The result of a suite of `n` steps that is its own, as the steps `ds` make it that it has come
to. No step has reached a suite that failed. -/
structure OwnResult (n : Nat) (ds : List (Deed σ)) (x : SuiteResult) : Prop where
  error : x.error = (Deed.ownRuns ds).findSome? (·.error)
  total : x.counts.total = n
  sum : x.counts.total = x.counts.passed + x.counts.failed + x.counts.skipped +
    ds.countP Deed.isDefaults + ds.countP Deed.isReference
  passed : x.counts.passed = (Deed.ownRuns ds).countP (·.error.isNone)
  failed : x.counts.failed = (Deed.ownRuns ds).countP (·.error.isSome)
  mismatches : x.counts.schemaMismatch = (Deed.ownRuns ds).countP (·.schemaError.isSome)
  skipped : x.counts.skipped = n - ds.length
  clean : ∀ m below z, Deed.reached m below (.ok z) ∈ ds → z.error = none

theorem countP_isNone_add_countP_isSome (rs : List Run) :
    rs.countP (·.error.isNone) + rs.countP (·.error.isSome) = rs.length := by
  rw [List.length_eq_countP_add_countP fun r => r.error.isNone]
  congr 2
  funext r
  cases r.error <;> rfl

theorem Owns.ownResult {n : Nat} {ds : List (Deed σ)} {x : SuiteResult}
    (h : Owns (.start n) x n ds) : OwnResult n ds x := by
  have htotal : x.counts.total = n := h.total
  have hpassed : x.counts.passed = 0 + (Deed.ownRuns ds).countP (·.error.isNone) := h.passed
  have hfailed : x.counts.failed = 0 + (Deed.ownRuns ds).countP (·.error.isSome) := h.failed
  have hskipped : x.counts.skipped = 0 + (n : Int) - ds.length := h.skipped
  have hmismatches : x.counts.schemaMismatch =
      0 + (Deed.ownRuns ds).countP (·.schemaError.isSome) := h.mismatches
  have hprocessed := h.processed
  have hruns := countP_isNone_add_countP_isSome (Deed.ownRuns ds)
  exact {
    error := h.error
    total := htotal
    sum := by omega
    passed := by omega
    failed := by omega
    mismatches := by omega
    skipped := by omega
    clean := h.clean }

/-- The error of a suite is exact, as long as no call of the runner raises that there is no such
suite, which is for the engine to say. There is no error if and only if no run at any depth has failed
and every step found the suite that it names. Where counts are added up it is what went wrong first;
where they are replaced the result is that of the step that the suite ended with, if it reached a
suite that failed, and otherwise the suite's own. -/
theorem verdict_exact {name : String} {parent : Option Test} {s s' : State σ} {x : SuiteResult}
    (h : (e.run name parent).run s = (.ok x, s')) :
    ∃ ds gained, Performs e (.suite name parent) s ds (.ok x) s' ∧
      s'.plan.results = s.plan.results ++ gained ∧
      ((∀ c ∈ Deed.calls ds, ∀ n, c.answer ≠ .error (.suiteNotFound n)) →
        (x.error = none ↔
          (∀ r ∈ gained, r.error = none) ∧ ∀ d ∈ Deed.allOf ds, d.misses = false) ∧
        (e.nested = .accumulate → x.error = (Deed.faults ds).head?) ∧
        (e.nested = .replace →
          HandedOn e ds x ∨ OwnResult (s.plan.suite name).tests.length ds x)) := by
  obtain ⟨ds, hp⟩ := performs_run e name parent s
  rw [h] at hp
  refine ⟨ds, Deed.runs ds, hp, hp.trail.results, fun hnone => ?_⟩
  have hcalls := Deed.Raised.forall_not hnone
  refine ⟨?_, fun hmode => (hp.accounts hmode hcalls rfl).error, fun hmode => ?_⟩
  · rw [hp.error_eq_none_iff hcalls rfl, Deed.faults_eq_nil_iff]
    exact and_iff_right rfl
  · cases hp with
    | visited hready htitle hsteps =>
      obtain ⟨rfl, hs, -⟩ := ready_ok hready
      rw [Plan.suite_of_runnable? hs]
      exact (hsteps.replaced hmode hcalls).imp_right Owns.ownResult

/-- The orders of the shop end where they come to the stock, of which there is no suite. -/
theorem verdict_exact_shop :
    ∃ x s', ((shopping .replace).run "orders" none).run (.start shop ()) = (.ok x, s') ∧
      (x.counts, x.error) = (.zero, some (.suiteNotFound "stock")) ∧
      ∃ ds gained, Performs (shopping .replace) (.suite "orders" none) (.start shop ()) ds
          (.ok x) s' ∧
        s'.plan.results = (State.start shop ()).plan.results ++ gained ∧
        (x.error = none ↔
          (∀ r ∈ gained, r.error = none) ∧ ∀ d ∈ Deed.allOf ds, d.misses = false) ∧
        (HandedOn (shopping .replace) ds x ∨
          OwnResult (shop.suite "orders").tests.length ds x) := by
  have hc : (((shopping .replace).run "orders" none).run
      (.start shop ())).1.toOption.map (fun x => (x.counts, x.error)) =
        some (.zero, some (.suiteNotFound "stock")) := by decide +kernel
  obtain ⟨x, s', h, hx⟩ := exists_ok hc
  obtain ⟨ds, gained, hp, hg, hexact⟩ := verdict_exact h
  obtain ⟨he, -, hr⟩ := hexact fun c hc n hn => readOnly_answers _ (hp.raises ⟨c, hc, hn⟩)
  exact ⟨x, s', h, hx, ds, gained, hp, hg, he, hr rfl⟩

/-- A suite has an error though no run has failed and each step names a suite that is there and has
steps: its runner has raised that there is none. -/
theorem verdict_spoilt :
    ¬ ∀ (e : Engine Unit) (s s' : State Unit) (name : String) (x : SuiteResult),
      (∀ u ∈ s.plan.suites.values, ∀ t ∈ u.tests, t.ref ≠ "" →
        (s.plan.runnable? t.ref).isSome) →
      (e.run name none).run s = (.ok x, s') →
        (∀ r ∈ s'.plan.results, r.error = none) → x.error = none := by
  intro h
  have hc : (((mistaken .replace).run "repairs" none).run
      (.start workshop ())).1.toOption.map (·.error) = some (some (.suiteNotFound "tool")) := by
    decide +kernel
  have hclean : ∀ r ∈ (((mistaken .replace).run "repairs" none).run
      (.start workshop ())).2.plan.results, r.error = none := by decide +kernel
  obtain ⟨x, s', hrun, hx⟩ := exists_ok hc
  rw [hrun] at hclean
  have herror := h _ _ _ _ _ (by decide +kernel) hrun hclean
  rw [herror] at hx
  cases hx

end Engine

end Runbook
