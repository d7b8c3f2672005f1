import Runbook.Proofs.Engine.Ending

namespace Runbook

/-- The steps that are in the total and in no other count. -/
def SuiteResult.pending (x : SuiteResult) : Int :=
  x.counts.total - x.counts.passed - x.counts.failed - x.counts.skipped

namespace SuiteResult

variable (x y : SuiteResult) (n : Nat)

@[simp]
theorem passed_merge :
    (x.merge y).counts.passed = x.counts.passed + y.counts.passed := rfl

@[simp]
theorem failed_merge :
    (x.merge y).counts.failed = x.counts.failed + y.counts.failed := rfl

@[simp]
theorem skipped_merge :
    (x.merge y).counts.skipped = x.counts.skipped + y.counts.skipped := rfl

@[simp]
theorem schemaMismatch_merge :
    (x.merge y).counts.schemaMismatch = x.counts.schemaMismatch + y.counts.schemaMismatch := rfl

@[simp]
theorem error_merge : (x.merge y).error = x.error.or y.error := rfl

theorem pending_merge : (x.merge y).pending = x.pending - 1 + y.pending := by
  have ht : (x.merge y).counts.total = x.counts.total - 1 + y.counts.total := rfl
  simp only [pending, ht, passed_merge, failed_merge, skipped_merge]
  omega

theorem pending_start : (start n).pending = n := by
  simp [pending, start, Counts.zero]

theorem pending_skip : (x.skip n).pending = x.pending - n := by
  simp only [pending, skip]
  omega

theorem pending_add (r : Run) : (x.add r).pending = x.pending - 1 := by
  cases hr : r.error <;> simp only [pending, add, hr] <;> omega

end SuiteResult

namespace Engine

variable {σ : Type}

/-- Between the results `x` and `y` of a suite `left` of its steps are accounted for by `ds`. -/
structure Accounts (x y : SuiteResult) (left : Nat) (ds : List (Deed σ)) : Prop where
  executed : y.counts.passed + y.counts.failed =
    x.counts.passed + x.counts.failed + (Deed.runs ds).length
  failed : y.counts.failed = x.counts.failed + (Deed.runs ds).countP (·.error.isSome)
  mismatches : y.counts.schemaMismatch =
    x.counts.schemaMismatch + (Deed.runs ds).countP (·.schemaError.isSome)
  pending : y.pending = x.pending - left + Deed.inits ds
  error : y.error = x.error.or (Deed.faults ds).head?

namespace Accounts

variable {x y z : SuiteResult} {n k : Nat} {ds ds' : List (Deed σ)}

theorem trans (h : Accounts x y n ds) (h' : Accounts y z k ds') :
    Accounts x z (n + k) (ds ++ ds') where
  executed := by
    rw [h'.executed, h.executed, Deed.runs_append, List.length_append]
    omega
  failed := by
    rw [h'.failed, h.failed, Deed.runs_append, List.countP_append]
    omega
  mismatches := by
    rw [h'.mismatches, h.mismatches, Deed.runs_append, List.countP_append]
    omega
  pending := by
    rw [h'.pending, h.pending, Deed.inits_append]
    omega
  error := by
    rw [h'.error, h.error, Deed.faults_append, List.head?_append, Option.or_assoc]

theorem cons {d : Deed σ} (h : Accounts x y 1 [d]) (h' : Accounts y z n ds) :
    Accounts x z (n + 1) (d :: ds) := by
  rw [Nat.add_comm]
  exact h.trans h'

theorem of_start (h : Accounts (.start n) y n ds) : Accounts (.start 0) y 0 ds where
  executed := h.executed
  failed := h.failed
  mismatches := h.mismatches
  pending := by
    have hp := h.pending
    rw [SuiteResult.pending_start] at *
    omega
  error := h.error

/-- Where nothing is executed and nothing goes wrong, steps that hold defaults are all there is. -/
theorem idle (x : SuiteResult) (ds : List (Deed σ)) (hr : Deed.runs ds = [])
    (hf : Deed.faults ds = []) : Accounts x x (Deed.inits ds) ds where
  executed := by rw [hr, List.length_nil, Int.natCast_zero, Int.add_zero]
  failed := by rw [hr, List.countP_nil, Int.natCast_zero, Int.add_zero]
  mismatches := by rw [hr, List.countP_nil, Int.natCast_zero, Int.add_zero]
  pending := by omega
  error := by rw [hf, List.head?_nil, Option.or_none]

theorem refl (x : SuiteResult) : Accounts x x 0 ([] : List (Deed σ)) :=
  idle x [] rfl rfl

theorem defaults (x : SuiteResult) (m : Moment σ) : Accounts x x 1 [.defaults m] :=
  idle x [.defaults m] rfl rfl

theorem skip (x : SuiteResult) (n : Nat) : Accounts x (x.skip n) n ([] : List (Deed σ)) where
  executed := (Int.add_zero _).symm
  failed := (Int.add_zero _).symm
  mismatches := (Int.add_zero _).symm
  pending := by
    have hi : Deed.inits ([] : List (Deed σ)) = 0 := rfl
    rw [SuiteResult.pending_skip]
    omega
  error := (Option.or_none).symm

theorem add (x : SuiteResult) {m : Moment σ} {effect : Effect} {r : Run}
    (h : effect.result = .ok r) : Accounts x (x.add r) 1 [.executed m effect] := by
  have hi : Deed.inits [Deed.executed m effect] = 0 := rfl
  constructor
  · rw [Deed.runs_executed h]
    cases hr : r.error <;> simp [SuiteResult.add, hr] <;> omega
  · rw [Deed.runs_executed h]
    cases hr : r.error <;> simp [SuiteResult.add, hr]
  · rw [Deed.runs_executed h]
    cases hr : r.error <;> cases hs : r.schemaError <;> simp [SuiteResult.add, hr, hs]
  · rw [hi, SuiteResult.pending_add]
    omega
  · rw [Deed.faults_executed h]
    cases hr : r.error <;> simp [SuiteResult.add, hr]

theorem merge (x : SuiteResult) (m : Moment σ) {below : List (Deed σ)}
    {result : Except Fault SuiteResult} (h : Accounts (.start 0) y 0 below)
    (hm : Deed.misses (.reached m below result) = false) :
    Accounts x (x.merge y) 1 [.reached m below result] where
  executed := by
    have hy : y.counts.passed + y.counts.failed = 0 + 0 + (Deed.runs below).length := h.executed
    rw [Deed.runs_reached, SuiteResult.passed_merge, SuiteResult.failed_merge]
    omega
  failed := by
    have hy : y.counts.failed = 0 + (Deed.runs below).countP (·.error.isSome) := h.failed
    rw [Deed.runs_reached, SuiteResult.failed_merge]
    omega
  mismatches := by
    have hy : y.counts.schemaMismatch = 0 + (Deed.runs below).countP (·.schemaError.isSome) :=
      h.mismatches
    rw [Deed.runs_reached, SuiteResult.schemaMismatch_merge]
    omega
  pending := by
    have hy := h.pending
    rw [SuiteResult.pending_start] at hy
    rw [SuiteResult.pending_merge, Deed.inits_reached]
    omega
  error := by
    have hy : y.error = (Deed.faults below).head? := h.error
    rw [SuiteResult.error_merge, hy, Deed.faults_reached, Deed.fault?, hm]
    simp

theorem missing (x : SuiteResult) (m : Moment σ) {result : Except Fault SuiteResult}
    (hm : Deed.misses (.reached m [] result) = true) :
    Accounts x (x.merge ⟨.zero, some (.suiteNotFound m.step.ref)⟩) 1 [.reached m [] result] where
  executed := by
    rw [Deed.runs_reached, SuiteResult.passed_merge, SuiteResult.failed_merge]
    simp [Counts.zero, Deed.runs, Deed.effects, Deed.allOf]
  failed := by
    rw [Deed.runs_reached, SuiteResult.failed_merge]
    simp [Counts.zero, Deed.runs, Deed.effects, Deed.allOf]
  mismatches := by
    rw [Deed.runs_reached, SuiteResult.schemaMismatch_merge]
    simp [Counts.zero, Deed.runs, Deed.effects, Deed.allOf]
  pending := by
    rw [SuiteResult.pending_merge, Deed.inits_reached]
    simp [SuiteResult.pending, Counts.zero, Deed.inits, Deed.allOf]
  error := by
    rw [SuiteResult.error_merge, Deed.faults_reached, Deed.fault?, hm]
    simp [Deed.faults, Deed.allOf]

end Accounts

/-- What a task starts from, and how many steps it has to account for. -/
def Task.origin : Task → SuiteResult × Nat
  | .suite _ _ => (.start 0, 0)
  | .steps _ _ ts x => (x, ts.length)

theorem Performs.accounts {e : Engine σ} (hmode : e.nested = .accumulate) {task : Task}
    {s s' : State σ} {ds : List (Deed σ)} {result : Except Fault SuiteResult} {y : SuiteResult}
    (h : Performs e task s ds result s') (hcalls : ∀ n, ¬ Deed.Raised ds (.suiteNotFound n))
    (hy : result = .ok y) : Accounts task.origin.1 y task.origin.2 ds := by
  induction h generalizing y with
  | refused hready => cases hy
  | untitled hready htitle => cases hy
  | visited hready htitle hsteps ih => exact .of_start (ih hcalls hy)
  | done =>
    cases hy
    exact .refl _
  | raised href hbelow hs ih => cases hy
  | handed href hbelow hy hx ih =>
    rw [hmode] at hx
    cases hx
  | @resumed name parent ts x x' y below ds result result' t s s₁ s' href hbelow hs hx hrest ihb
      ihr =>
    rw [hmode] at hx
    cases hx
    obtain ⟨hbelowCalls, hrestCalls⟩ := Deed.Raised.forall_not_reached.1 hcalls
    refine Accounts.cons ?_ (ihr hrestCalls hy)
    obtain ⟨hn, rfl, rfl⟩ | ⟨hn, hr⟩ := hbelow.settled_ok hbelowCalls hs
    · exact .missing x ⟨s, name, parent, t⟩ (by simp [Deed.misses, hn])
    · exact .merge x ⟨s, name, parent, t⟩ (ihb hbelowCalls hr) (by simpa [Deed.misses] using hn)
  | defaults href hinit hrest ih =>
    exact (Accounts.defaults _ _).cons (ih (fun n hr => hcalls n (hr.tail _)) hy)
  | failed href hinit hrun => cases hy
  | @cut name parent x r shown result t ts s s₁ s' href hinit hrun hcut hshown hresult =>
    obtain ⟨-, -, rfl⟩ := map_eq_ok_iff.1 (hresult.symm.trans hy)
    exact (Accounts.add x (result_of_carryOut hrun)).cons (.skip (x.add r) ts.length)
  | executed href hinit hrun hcut hrest ih =>
    exact (Accounts.add _ (result_of_carryOut hrun)).cons
      (ih (fun n hr => hcalls n (hr.tail _)) hy)

/-- Adding up counts loses and invents nothing, as long as no call of the runner raises that there is
no such suite, which is for the engine to say. What has passed or failed are the results that the plan
has gained, and what the total has beyond those and the skipped steps are the steps that held
defaults. -/
theorem accumulated_counts_exact {e : Engine σ} (hmode : e.nested = .accumulate) {name : String}
    {parent : Option Test} {s s' : State σ} {x : SuiteResult}
    (h : (e.run name parent).run s = (.ok x, s')) :
    ∃ ds gained, Performs e (.suite name parent) s ds (.ok x) s' ∧
      s'.plan.results = s.plan.results ++ gained ∧
      ((∀ c ∈ Deed.calls ds, ∀ n, c.answer ≠ .error (.suiteNotFound n)) →
        x.counts.passed + x.counts.failed = gained.length ∧
        x.counts.failed = gained.countP (·.error.isSome) ∧
        x.counts.schemaMismatch = gained.countP (·.schemaError.isSome) ∧
        x.counts.total =
          x.counts.passed + x.counts.failed + x.counts.skipped + (Deed.inits ds : Nat)) := by
  obtain ⟨ds, hp⟩ := performs_run e name parent s
  rw [h] at hp
  refine ⟨ds, Deed.runs ds, hp, hp.trail.results, fun hcalls => ?_⟩
  have ha : Accounts (.start 0) x 0 ds := hp.accounts hmode (Deed.Raised.forall_not hcalls) rfl
  refine ⟨?_, ?_, ?_, ?_⟩
  · simpa [SuiteResult.start, Counts.zero] using ha.executed
  · simpa [SuiteResult.start, Counts.zero] using ha.failed
  · simpa [SuiteResult.start, Counts.zero] using ha.mismatches
  · have hx := ha.pending
    simp only [SuiteResult.pending_start] at hx
    simp only [SuiteResult.pending] at hx
    omega

def readOnly : Runner Unit where
  run r _ s :=
    let outcome : Outcome :=
      if r.method == "post" then ⟨none, [], none, some ⟨"refused", none⟩, 0⟩
      else ⟨some ⟨200, .null, ""⟩, [], some "a field is missing", none, 0⟩
    ((.ok outcome, []), s)

theorem readOnly_answers (f : Fault) : ¬ readOnly.Raises f := by
  rintro ⟨run, suite, s, h⟩
  cases h

def planOf (suites : List (String × List (String × String × String))) : Plan :=
  let step : String × String × String → Test := fun (name, ref, method) =>
    { Test.empty with name := name, ref := ref, method := method, path := "/" ++ name }
  { (default : Plan) with
    suites := .ofList (suites.map fun (name, steps) =>
      (name, (default : Plan).createSuite name (steps.map step))) }

def shop : Plan := planOf [
  ("orders", [("list", "", "get"), ("pets", "pets", ""), ("stock", "stock", ""), (initName, "", ""),
    ("order", "", "post"), ("check", "", "get")]),
  ("pets", [(initName, "", ""), ("feed", "", "get")])]

def shopping (mode : NestedCounts) : Engine Unit := ⟨readOnly, mode, .narrow⟩

theorem exists_ok {α β : Type} {a : Act σ α} {s : State σ} {f : α → β} {c : β}
    (h : (a.run s).1.toOption.map f = some c) : ∃ x s', a.run s = (.ok x, s') ∧ f x = c := by
  cases ha : a.run s with
  | mk result s' =>
    rw [ha] at h
    cases result with
    | error g => cases h
    | ok x => exact ⟨x, s', rfl, Option.some.inj h⟩

/-- The orders of the shop, with the counts of the pets added to theirs. -/
theorem accumulated_counts_exact_shop :
    ∃ x s', ((shopping .accumulate).run "orders" none).run (.start shop ()) = (.ok x, s') ∧
      x.counts = ⟨6, 2, 1, 1, 2, 0⟩ ∧
      ∃ ds gained, Performs (shopping .accumulate) (.suite "orders" none) (.start shop ()) ds
          (.ok x) s' ∧
        s'.plan.results = (State.start shop ()).plan.results ++ gained ∧
        x.counts.passed + x.counts.failed = gained.length ∧
        x.counts.failed = gained.countP (·.error.isSome) ∧
        x.counts.schemaMismatch = gained.countP (·.schemaError.isSome) ∧
        x.counts.total =
          x.counts.passed + x.counts.failed + x.counts.skipped + (Deed.inits ds : Nat) := by
  have hc : (((shopping .accumulate).run "orders" none).run
      (.start shop ())).1.toOption.map (·.counts) = some ⟨6, 2, 1, 1, 2, 0⟩ := by decide +kernel
  obtain ⟨x, s', h, hx⟩ := exists_ok hc
  obtain ⟨ds, gained, hp, hg, hexact⟩ := accumulated_counts_exact rfl h
  refine ⟨x, s', h, hx, ds, gained, hp, hg, hexact fun c hc n hn => ?_⟩
  exact readOnly_answers _ (hp.raises ⟨c, hc, hn⟩)

/-- A service that takes what it is to put for a suite, and knows of none. -/
def mistaking : Runner Unit where
  run r _ s :=
    if r.method == "put" then ((.error (.suiteNotFound r.name), []), s)
    else ((.ok ⟨some ⟨200, .null, ""⟩, [], none, none, 0⟩, []), s)

def mistaken (mode : NestedCounts) : Engine Unit := ⟨mistaking, mode, .narrow⟩

/-- A shop whose repairs look for a tool and put it in order before they are checked. -/
def workshop : Plan := planOf [
  ("repairs", [("list", "", "get"), ("tool", "tools", ""), ("check", "", "get")]),
  ("tools", [("look", "", "get"), ("oil", "", "put")])]

/-- The counts of a suite that is there are lost where its runner raises that there is none: of the
three results two are counted. -/
theorem accumulated_counts_lost :
    ¬ ∀ (e : Engine Unit) (s s' : State Unit) (name : String) (x : SuiteResult),
      e.nested = .accumulate → (e.run name none).run s = (.ok x, s') →
        ∃ gained, s'.plan.results = s.plan.results ++ gained ∧
          x.counts.passed + x.counts.failed = gained.length := by
  intro h
  have hc : (((mistaken .accumulate).run "repairs" none).run
      (.start workshop ())).1.toOption.map (·.counts) = some ⟨2, 2, 0, 0, 0, 0⟩ := by decide +kernel
  have hresults : (((mistaken .accumulate).run "repairs" none).run
      (.start workshop ())).2.plan.results.length = 3 := by decide +kernel
  obtain ⟨x, s', hrun, hx⟩ := exists_ok hc
  obtain ⟨gained, hgained, hsum⟩ := h _ _ _ _ _ rfl hrun
  rw [hrun, hgained, List.length_append] at hresults
  rw [hx] at hsum
  have hstart : (State.start workshop ()).plan.results = [] := rfl
  rw [hstart, List.length_nil, Nat.zero_add] at hresults
  rw [hresults] at hsum
  exact absurd hsum (by decide)

end Engine

end Runbook
