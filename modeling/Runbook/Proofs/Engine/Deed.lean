import Runbook.Proofs.Engine.Act

namespace Runbook.Engine

variable {σ : Type}

/-- The moment at which an active suite comes to one of its steps. -/
structure Moment (σ : Type) where
  before : State σ
  suite : String
  parent : Option Test
  step : Test

def Moment.now (m : Moment σ) : Suite := m.before.plan.suite m.suite

/-- How a step is handed on to the suite that it reaches. -/
def Moment.forwarded (m : Moment σ) : Test := { m.step with strict := m.now.strict }

def Moment.mended (m : Moment σ) : State σ :=
  { m.before with plan := m.before.plan.updateSuite m.suite (·.applyInit m.step) }

/-- What comes of a step that is executed. -/
inductive Effect where
  /-- A reference has no value, which the run records. -/
  | unresolved (r : Run)
  /-- The references lead to another fault, and there is no run. -/
  | stuck (f : Fault)
  /-- The runner gets the run. -/
  | called (r : Run) (suite : Suite) (answer : Except Fault Outcome)

namespace Effect

def result : Effect → Except Fault Run
  | unresolved r => .ok r
  | stuck f => .error f
  | called r _ (.ok o) => .ok (r.withOutcome o)
  | called _ _ (.error f) => .error f

def logged : Effect → List Run
  | unresolved r => [r]
  | stuck _ => []
  | called r _ (.ok o) => [r.withOutcome o]
  | called r _ (.error _) => [r]

def recorded (x : Effect) : List Run := x.result.toOption.toList

def payloads : Effect → List Payload
  | called _ _ (.ok o) => o.payloads
  | _ => []

def fuzz : Effect → Int
  | called _ _ (.ok o) => o.fuzzTotal
  | _ => 0

end Effect

/-- A call of the runner: what it gets and what it answers. -/
structure Call where
  run : Run
  suite : Suite
  answer : Except Fault Outcome

def Effect.call? : Effect → Option Call
  | called r suite answer => some ⟨r, suite, answer⟩
  | _ => none

def Effect.record (x : Effect) (p : Plan) : Plan :=
  { p with
    newFailures := p.newFailures ++ x.payloads
    counts := { p.counts with fuzzTotal := p.counts.fuzzTotal + x.fuzz }
    results := p.results ++ x.recorded }

def effect (e : Engine σ) (m : Moment σ) : Effect :=
  match Reference.resolveRun m.before.history (Run.ofTest m.step m.now m.parent) with
  | (r, none) => .called r m.now (e.runner.run r m.now m.before.runner).1.1
  | (r, some (.unresolved cause)) => .unresolved { r with error := some (.unresolved cause) }
  | (_, some f) => .stuck f

namespace Effect

theorem mem_recorded_iff {x : Effect} {r : Run} : r ∈ x.recorded ↔ x.result = .ok r := by
  unfold recorded
  cases x.result <;> simp [Except.toOption, eq_comm]

theorem record_unresolved (r : Run) (p : Plan) :
    (unresolved r).record p = { p with results := p.results ++ [r] } := by
  simp [record, recorded, result, payloads, fuzz, Except.toOption]

theorem record_stuck (f : Fault) (p : Plan) : (stuck f).record p = p := by
  simp [record, recorded, result, payloads, fuzz, Except.toOption]

theorem record_answered (r : Run) (suite : Suite) (o : Outcome) (p : Plan) :
    (called r suite (.ok o)).record p = recordOutcome p o (r.withOutcome o) := rfl

theorem record_raised (r : Run) (suite : Suite) (f : Fault) (p : Plan) :
    (called r suite (.error f)).record p = p := by
  simp [record, recorded, result, payloads, fuzz, Except.toOption]

end Effect

theorem run_dispatch (e : Engine σ) (r : Run) (suite : Suite) (s : State σ) :
    let x := Effect.called r suite (e.runner.run r suite s.runner).1.1
    ∃ runner notices, (e.dispatch r suite).run s = (x.result,
      { s with
        plan := x.record s.plan
        history := ⟨s.history.runs ++ x.logged⟩
        runner := runner
        notices := notices }) := by
  let s₁ : State σ := { s with history := s.history.append r }
  have hc : (e.call r suite).run s₁ = ((e.runner.run r suite s.runner).1.1,
      { s₁ with
        runner := (e.runner.run r suite s.runner).2
        notices := s.notices ++ (e.runner.run r suite s.runner).1.2 }) := rfl
  refine ⟨(e.runner.run r suite s.runner).2, s.notices ++ (e.runner.run r suite s.runner).1.2, ?_⟩
  unfold dispatch
  rw [run_modify_bind]
  cases ha : (e.runner.run r suite s.runner).1.1 with
  | ok o =>
    rw [ha] at hc
    rw [run_bind_ok hc]
    simp only [run_modify_bind, run_pure, Effect.record_answered, Effect.result, Effect.logged, s₁,
      History.finishLast, History.append, List.dropLast_concat]
  | error f =>
    rw [ha] at hc
    rw [run_bind_error hc]
    simp only [Effect.record_raised, Effect.result, Effect.logged, s₁, History.append]

section Resolved

variable {e : Engine σ} {m : Moment σ} {r : Run}

theorem effect_of_resolved
    (h : Reference.resolveRun m.before.history (Run.ofTest m.step m.now m.parent) = (r, none)) :
    e.effect m = .called r m.now (e.runner.run r m.now m.before.runner).1.1 := by
  simp only [effect, h]

theorem effect_of_unresolved {cause : ReferenceFault}
    (h : Reference.resolveRun m.before.history (Run.ofTest m.step m.now m.parent) =
      (r, some (.unresolved cause))) :
    e.effect m = .unresolved { r with error := some (.unresolved cause) } := by
  simp only [effect, h]

theorem effect_of_stuck {f : Fault} (hf : ∀ cause, f ≠ .unresolved cause)
    (h : Reference.resolveRun m.before.history (Run.ofTest m.step m.now m.parent) = (r, some f)) :
    e.effect m = .stuck f := by
  cases f with
  | unresolved cause => exact (hf cause rfl).elim
  | _ => simp only [effect, h]

end Resolved

/-- The references of a step all have values, or one has none, or one leads to another fault. -/
theorem effect_cases (e : Engine σ) (m : Moment σ) :
    (∃ r, Reference.resolveRun m.before.history (Run.ofTest m.step m.now m.parent) = (r, none) ∧
      e.effect m = .called r m.now (e.runner.run r m.now m.before.runner).1.1) ∨
    (∃ r cause, Reference.resolveRun m.before.history (Run.ofTest m.step m.now m.parent) =
        (r, some (.unresolved cause)) ∧
      e.effect m = .unresolved { r with error := some (.unresolved cause) }) ∨
    ∃ r f, Reference.resolveRun m.before.history (Run.ofTest m.step m.now m.parent) =
        (r, some f) ∧ (∀ cause, f ≠ .unresolved cause) ∧ e.effect m = .stuck f := by
  rcases hr : Reference.resolveRun m.before.history (Run.ofTest m.step m.now m.parent) with
    ⟨r, _ | f⟩
  · exact .inl ⟨r, rfl, effect_of_resolved hr⟩
  · right
    by_cases hf : ∃ cause, f = .unresolved cause
    · obtain ⟨cause, rfl⟩ := hf
      exact .inl ⟨r, cause, rfl, effect_of_unresolved hr⟩
    · have hf : ∀ cause, f ≠ .unresolved cause := fun cause hc => hf ⟨cause, hc⟩
      exact .inr ⟨r, f, rfl, hf, effect_of_stuck hf hr⟩

theorem run_execute (e : Engine σ) (m : Moment σ) :
    ∃ runner notices, (e.execute m.step m.now m.parent).run m.before = ((e.effect m).result,
      { m.before with
        plan := (e.effect m).record m.before.plan
        history := ⟨m.before.history.runs ++ (e.effect m).logged⟩
        runner := runner
        notices := notices }) := by
  unfold execute
  rw [run_get_bind]
  split
  · rename_i r hr
    rw [effect_of_resolved hr]
    exact run_dispatch e r m.now m.before
  · rename_i r cause hr
    rw [effect_of_unresolved hr, Effect.record_unresolved]
    exact ⟨m.before.runner, m.before.notices, rfl⟩
  · rename_i r f hf hr
    rw [effect_of_stuck hf hr, Effect.record_stuck, Effect.logged, List.append_nil]
    exact ⟨m.before.runner, m.before.notices, rfl⟩

def carryOut (e : Engine σ) (m : Moment σ) : Act σ Run := do
  let r ← e.execute m.step m.now m.parent
  e.report r
  pure r

theorem run_carryOut (e : Engine σ) (m : Moment σ) :
    ∃ runner notices screen, (e.carryOut m).run m.before =
      ((e.effect m).result.bind fun r => (Screen.stepResult e.console r).map fun _ => r,
        { m.before with
          plan := (e.effect m).record m.before.plan
          history := ⟨m.before.history.runs ++ (e.effect m).logged⟩
          runner := runner
          notices := notices
          screen := screen }) := by
  obtain ⟨runner, notices, hx⟩ := run_execute e m
  unfold carryOut
  cases hr : (e.effect m).result with
  | error f =>
    rw [hr] at hx
    rw [run_bind_error hx]
    exact ⟨runner, notices, m.before.screen, rfl⟩
  | ok r =>
    rw [hr] at hx
    rw [run_bind_ok hx]
    obtain ⟨notices', screen, hp⟩ := run_report e r
      { m.before with
        plan := (e.effect m).record m.before.plan
        history := ⟨m.before.history.runs ++ (e.effect m).logged⟩
        runner := runner
        notices := notices }
    refine ⟨runner, notices', screen, ?_⟩
    cases hs : Screen.stepResult e.console r with
    | error f =>
      rw [hs] at hp
      rw [run_bind_error hp]
      simp only [Except.bind, hs, Except.map]
    | ok t =>
      rw [hs] at hp
      rw [run_bind_ok hp]
      simp only [Except.bind, hs, Except.map, run_pure]

theorem carryOut_eq_ok_iff {e : Engine σ} {m : Moment σ} {r : Run} :
    ((e.carryOut m).run m.before).1 = .ok r ↔
      (e.effect m).result = .ok r ∧ ∃ text, Screen.stepResult e.console r = .ok text := by
  obtain ⟨runner, notices, screen, hx⟩ := run_carryOut e m
  rw [hx]
  constructor
  · intro h
    obtain ⟨r', hr, hshown⟩ := bind_eq_ok h
    obtain ⟨text, hs, rfl⟩ := map_eq_ok_iff.1 hshown
    exact ⟨hr, text, hs⟩
  · rintro ⟨hr, text, hs⟩
    simp only [hr, Except.bind, hs, Except.map]

theorem carryOut_eq_error_iff {e : Engine σ} {m : Moment σ} {f : Fault} :
    ((e.carryOut m).run m.before).1 = .error f ↔ (e.effect m).result = .error f ∨
      ∃ r, (e.effect m).result = .ok r ∧ Screen.stepResult e.console r = .error f := by
  obtain ⟨runner, notices, screen, hx⟩ := run_carryOut e m
  rw [hx]
  constructor
  · intro h
    obtain hr | ⟨r, hr, hshown⟩ := bind_eq_error h
    · exact .inl hr
    · exact .inr ⟨r, hr, map_eq_error hshown⟩
  · rintro (hr | ⟨r, hr, hs⟩)
    · simp only [hr, Except.bind]
    · simp only [hr, Except.bind, hs, Except.map]

/-- A step that an active suite has come to. -/
inductive Deed (σ : Type) where
  /-- It reaches a suite: the steps of that, and the result that comes of it here. -/
  | reached (m : Moment σ) (below : List (Deed σ)) (result : Except Fault SuiteResult)
  /-- It holds defaults. -/
  | defaults (m : Moment σ)
  | executed (m : Moment σ) (x : Effect)

namespace Deed

def moment : Deed σ → Moment σ
  | reached m _ _ | defaults m | executed m _ => m

mutual

/-- A step and before it all that it has reached. -/
def all : Deed σ → List (Deed σ)
  | reached m below result => allOf below ++ [reached m below result]
  | defaults m => [defaults m]
  | executed m x => [executed m x]

/-- The steps at any depth, in the order in which they come to their end. -/
def allOf : List (Deed σ) → List (Deed σ)
  | [] => []
  | d :: ds => d.all ++ allOf ds

end

theorem allOf_append (ds ds' : List (Deed σ)) : allOf (ds ++ ds') = allOf ds ++ allOf ds' := by
  induction ds with
  | nil => rfl
  | cons d ds ih => simp only [List.cons_append, allOf, ih, List.append_assoc]

theorem allOf_cons (d : Deed σ) (ds : List (Deed σ)) : allOf (d :: ds) = allOf [d] ++ allOf ds :=
  allOf_append [d] ds

theorem allOf_reached (m : Moment σ) (below : List (Deed σ)) (result : Except Fault SuiteResult) :
    allOf [reached m below result] = allOf below ++ [reached m below result] := by
  simp only [allOf, all, List.append_nil]

theorem allOf_defaults (m : Moment σ) : allOf [defaults m] = [defaults m] := rfl

theorem allOf_executed (m : Moment σ) (x : Effect) : allOf [executed m x] = [executed m x] := rfl

def effect? : Deed σ → Option Effect
  | executed _ x => some x
  | _ => none

def effects (ds : List (Deed σ)) : List Effect := (allOf ds).filterMap effect?

theorem effects_append (ds ds' : List (Deed σ)) :
    effects (ds ++ ds') = effects ds ++ effects ds' := by
  rw [effects, allOf_append, List.filterMap_append, effects, effects]

theorem effects_cons (d : Deed σ) (ds : List (Deed σ)) :
    effects (d :: ds) = effects [d] ++ effects ds := effects_append [d] ds

theorem effects_reached (m : Moment σ) (below : List (Deed σ)) (result : Except Fault SuiteResult) :
    effects [reached m below result] = effects below := by
  simp [effects, allOf_reached, effect?]

def runs (ds : List (Deed σ)) : List Run := (effects ds).flatMap Effect.recorded

theorem runs_append (ds ds' : List (Deed σ)) : runs (ds ++ ds') = runs ds ++ runs ds' := by
  rw [runs, effects_append, List.flatMap_append, runs, runs]

theorem runs_reached (m : Moment σ) (below : List (Deed σ)) (result : Except Fault SuiteResult) :
    runs [reached m below result] = runs below := by
  rw [runs, effects_reached, runs]

theorem runs_executed {m : Moment σ} {x : Effect} {r : Run} (h : x.result = .ok r) :
    runs [executed m x] = [r] := by
  simp [runs, effects, allOf_executed, effect?, Effect.recorded, h, Except.toOption]

def fuzzTotal (ds : List (Deed σ)) : Int := (effects ds).foldr (fun x n => x.fuzz + n) 0

theorem fuzzTotal_append (ds ds' : List (Deed σ)) :
    fuzzTotal (ds ++ ds') = fuzzTotal ds + fuzzTotal ds' := by
  rw [fuzzTotal, effects_append, fuzzTotal, fuzzTotal]
  induction effects ds with
  | nil => exact (Int.zero_add _).symm
  | cons x xs ih =>
    rw [List.cons_append, List.foldr_cons, List.foldr_cons, ih, Int.add_assoc]

def calls (ds : List (Deed σ)) : List Call := (effects ds).filterMap Effect.call?

def isDefaults : Deed σ → Bool
  | defaults _ => true
  | _ => false

def inits (ds : List (Deed σ)) : Nat := (allOf ds).countP isDefaults

theorem inits_append (ds ds' : List (Deed σ)) : inits (ds ++ ds') = inits ds + inits ds' := by
  rw [inits, allOf_append, List.countP_append, inits, inits]

theorem inits_reached (m : Moment σ) (below : List (Deed σ)) (result : Except Fault SuiteResult) :
    inits [reached m below result] = inits below := by
  simp [inits, allOf_reached, isDefaults]

/-- Whether a step names a suite that there is not. -/
def misses : Deed σ → Bool
  | reached m _ _ => (m.before.plan.runnable? m.step.ref).isNone
  | _ => false

/-- What is wrong with a step itself: its run has failed, or there is no suite of the name that it
gives. -/
def fault? : Deed σ → Option Fault
  | reached m below result =>
    if misses (reached m below result) then some (.suiteNotFound m.step.ref) else none
  | defaults _ => none
  | executed _ x => x.result.toOption.bind (·.error)

def faults (ds : List (Deed σ)) : List Fault := (allOf ds).filterMap fault?

theorem faults_append (ds ds' : List (Deed σ)) : faults (ds ++ ds') = faults ds ++ faults ds' := by
  rw [faults, allOf_append, List.filterMap_append, faults, faults]

theorem faults_cons (d : Deed σ) (ds : List (Deed σ)) :
    faults (d :: ds) = faults [d] ++ faults ds := faults_append [d] ds

theorem faults_reached (m : Moment σ) (below : List (Deed σ)) (result : Except Fault SuiteResult) :
    faults [reached m below result] = faults below ++ (fault? (reached m below result)).toList := by
  rw [faults, allOf_reached, List.filterMap_append, faults]
  cases h : fault? (reached m below result) <;> simp [h]

theorem faults_executed {m : Moment σ} {x : Effect} {r : Run} (h : x.result = .ok r) :
    faults [executed m x] = r.error.toList := by
  cases hr : r.error <;> simp [faults, allOf_executed, fault?, h, hr, Except.toOption]

end Deed

end Runbook.Engine
