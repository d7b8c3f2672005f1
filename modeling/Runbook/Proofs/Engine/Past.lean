import Runbook.Proofs.Engine.Activation
import Runbook.Proofs.Engine.Records

namespace Runbook

namespace Engine

variable {σ : Type} {e : Engine σ}

def Moment.run (m : Moment σ) : Run := Run.ofTest m.step m.now m.parent

/-- The response that the call of a step has produced, if it was called for and has returned one. -/
def Effect.response? : Effect → Option Response
  | called _ _ (.ok o) => o.response
  | _ => none

structure Execution (σ : Type) where
  moment : Moment σ
  effect : Effect

namespace Deed

def execution? : Deed σ → Option (Execution σ)
  | executed m x => some ⟨m, x⟩
  | _ => none

def executions (ds : List (Deed σ)) : List (Execution σ) := (allOf ds).filterMap execution?

theorem executions_append (ds ds' : List (Deed σ)) :
    executions (ds ++ ds') = executions ds ++ executions ds' := by
  rw [executions, allOf_append, List.filterMap_append, executions, executions]

theorem executions_reached (m : Moment σ) (below : List (Deed σ))
    (result : Except Fault SuiteResult) :
    executions [reached m below result] = executions below := by
  simp [executions, allOf_reached, execution?]

theorem effects_eq (ds : List (Deed σ)) : effects ds = (executions ds).map (·.effect) := by
  rw [effects, executions, List.map_filterMap]
  apply List.filterMap_congr
  intro d hd
  cases d <;> rfl

end Deed

/-- Each of these steps is executed on the history that the steps before it have left, and what comes
of it is decided by the moment. -/
def Chronicle (e : Engine σ) : List Run → List (Execution σ) → Prop
  | _, [] => True
  | runs, x :: xs => x.moment.before.history.runs = runs ∧ x.effect = e.effect x.moment ∧
      Chronicle e (runs ++ x.effect.logged) xs

namespace Chronicle

variable {runs : List Run} {xs ys : List (Execution σ)}

theorem append (h : Chronicle e runs xs)
    (h' : Chronicle e (runs ++ xs.flatMap (·.effect.logged)) ys) : Chronicle e runs (xs ++ ys) := by
  induction xs generalizing runs with
  | nil =>
    rw [List.flatMap_nil, List.append_nil] at h'
    exact h'
  | cons x xs ih =>
    obtain ⟨hruns, hx, hxs⟩ := h
    rw [List.flatMap_cons, ← List.append_assoc] at h'
    exact ⟨hruns, hx, ih hxs h'⟩

theorem of_mem (h : Chronicle e runs xs) {x : Execution σ} (hx : x ∈ xs) :
    x.effect = e.effect x.moment := by
  induction xs generalizing runs with
  | nil => cases hx
  | cons y ys ih =>
    obtain ⟨-, hy, hys⟩ := h
    obtain rfl | hx := List.mem_cons.1 hx
    · exact hy
    · exact ih hys hx

theorem at_split {x : Execution σ} {before after : List (Execution σ)}
    (h : Chronicle e runs (before ++ x :: after)) :
    x.moment.before.history.runs = runs ++ before.flatMap (·.effect.logged) := by
  induction before generalizing runs with
  | nil =>
    rw [List.flatMap_nil, List.append_nil]
    exact h.1
  | cons y ys ih =>
    obtain ⟨-, -, hys⟩ := h
    rw [ih hys, List.flatMap_cons, List.append_assoc]

end Chronicle

theorem logged_executions (ds : List (Deed σ)) :
    (Deed.executions ds).flatMap (·.effect.logged) = Deed.logged ds := by
  rw [Deed.logged, Deed.effects_eq, List.flatMap_map]

theorem passage_chronicle (e : Engine σ) : Passage e fun s ds s' =>
    Chronicle e s.history.runs (Deed.executions ds) ∧
      s'.history.runs = s.history.runs ++ Deed.logged ds where
  trans h h' := by
    obtain ⟨hc, hs⟩ := h
    obtain ⟨hc', hs'⟩ := h'
    rw [hs, ← logged_executions] at hc'
    rw [hs, List.append_assoc] at hs'
    rw [Deed.executions_append]
    refine ⟨hc.append hc', ?_⟩
    rw [hs', Deed.logged, Deed.logged, Deed.logged, Deed.effects_append, List.flatMap_append]
  told s notices screen := ⟨trivial, (List.append_nil _).symm⟩
  visited _ _ h := h
  reached m result below s' h := by
    rw [Deed.executions_reached, Deed.logged, Deed.effects_reached]
    exact h
  defaults m := ⟨trivial, (List.append_nil _).symm⟩
  carriedOut m := by
    refine ⟨⟨rfl, rfl, trivial⟩, ?_⟩
    have ht := (frame_trail e).of_carryOut m
    exact ht.history

theorem Performs.chronicle {task : Task} {s s' : State σ} {ds : List (Deed σ)}
    {result : Except Fault SuiteResult} (h : Performs e task s ds result s') :
    Chronicle e s.history.runs (Deed.executions ds) :=
  ((passage_chronicle e).of_performs h).1

theorem response_of_mem_logged {m : Moment σ} {r : Run} (h : r ∈ (e.effect m).logged) :
    r.response = (e.effect m).response? := by
  have hnone : ∀ {q : Run} {f : Option Fault}, Reference.resolveRun m.before.history
      (Run.ofTest m.step m.now m.parent) = (q, f) → q.response = none := by
    intro q f hr
    obtain ⟨params, path, rfl⟩ := Reference.resolveRun_eq hr
    exact Run.response_ofTest _ _ _
  obtain ⟨q, hr, hx⟩ | ⟨q, cause, hr, hx⟩ | ⟨q, f, -, -, hx⟩ := effect_cases e m
  · rw [hx] at h ⊢
    cases ha : (e.runner.run q m.now m.before.runner).1.1 with
    | ok o =>
      rw [ha] at h
      rw [List.mem_singleton.1 h]
      rfl
    | error f =>
      rw [ha] at h
      rw [List.mem_singleton.1 h]
      exact hnone hr
  · have hq := hnone hr
    rw [hx] at h ⊢
    rw [List.mem_singleton.1 h]
    exact hq
  · rw [hx] at h
    cases h

/-- The steps that a suite has come to are its first ones, in their order. -/
theorem Performs.steps_prefix {name : String} {parent : Option Test} {ts : List Test}
    {x : SuiteResult} {s s' : State σ} {ds : List (Deed σ)} {result : Except Fault SuiteResult}
    (h : Performs e (.steps name parent ts x) s ds result s') :
    ds.map (·.moment.step) <+: ts := by
  induction ts generalizing x s ds with
  | nil =>
    cases h
    exact List.prefix_rfl
  | cons t ts ih =>
    cases h with
    | raised | handed | failed | cut => exact ⟨ts, rfl⟩
    | resumed href hbelow hy hx hrest => exact List.cons_prefix_cons.2 ⟨rfl, ih hrest⟩
    | defaults href hinit hrest => exact List.cons_prefix_cons.2 ⟨rfl, ih hrest⟩
    | executed href hinit hrun hcut hrest => exact List.cons_prefix_cons.2 ⟨rfl, ih hrest⟩

/-- What an activation leads to belongs to its suite and to the step that has reached the suite: the
first steps of the suite, in their order. -/
structure Activation.Leads (a : Activation σ) : Prop where
  moments : ∀ d ∈ a.deeds, d.moment.suite = a.name ∧ d.moment.parent = a.parent
  steps : a.deeds.map (·.moment.step) <+: (a.before.plan.suite a.name).tests

theorem Performs.leads {name : String} {parent : Option Test} {s s' : State σ}
    {ds : List (Deed σ)} {result : Except Fault SuiteResult}
    (h : Performs e (.suite name parent) s ds result s') :
    Activation.Leads ⟨name, parent, s, ds⟩ := by
  cases h with
  | refused | untitled => exact ⟨by simp, List.nil_prefix⟩
  | visited hready htitle hsteps =>
    obtain ⟨rfl, hrun, -⟩ := ready_ok hready
    constructor
    · intro d hd
      obtain ⟨before, after, rfl⟩ := List.append_of_mem hd
      obtain ⟨hsuite, hparent, -⟩ := (frame_trail e).passage.before_of_own hsteps
      exact ⟨hsuite, hparent⟩
    · rw [Plan.suite_of_runnable? hrun]
      exact hsteps.steps_prefix

/-- What an engine is asked for. -/
inductive Request where
  | run (name : String) (parent : Option Test)
  | plan (names : Option (List String))

def answer (e : Engine σ) (s : State σ) : Request → State σ
  | .run name parent => ((e.run name parent).run s).2
  | .plan names => ((e.runPlan names).run s).2

/-- A suite that is run of its own. -/
def Visit.alone (v : Visit σ) : Activation σ := ⟨v.name, none, v.before, v.deeds⟩

/-- `Session e requests s tops s'`: from `s` on the engine answers the requests one after the other,
for which it runs these suites, and comes to `s'`. -/
inductive Session (e : Engine σ) :
    List Request → State σ → List (Activation σ) → State σ → Prop where
  | done {s} : Session e [] s [] s
  | run {name parent ds result requests tops} {s s₁ s' : State σ}
      (hrun : Performs e (.suite name parent) s ds result s₁)
      (hrest : Session e requests s₁ tops s') :
      Session e (.run name parent :: requests) s (⟨name, parent, s, ds⟩ :: tops) s'
  | plan {names visits result requests tops} {s s₁ s' : State σ}
      (hrun : PerformsAll e (names.getD s.plan.suiteNames) s visits result s₁)
      (hrest : Session e requests s₁ tops s') :
      Session e (.plan names :: requests) s (visits.map Visit.alone ++ tops) s'

theorem session_answer (e : Engine σ) (requests : List Request) (s : State σ) :
    ∃ tops, Session e requests s tops (requests.foldl e.answer s) := by
  induction requests generalizing s with
  | nil => exact ⟨[], .done⟩
  | cons request requests ih =>
    obtain ⟨tops, hrest⟩ := ih (e.answer s request)
    cases request with
    | run name parent =>
      obtain ⟨ds, h⟩ := performs_run e name parent s
      exact ⟨_, .run h hrest⟩
    | plan names =>
      obtain ⟨visits, h⟩ := performs_runAll e (names.getD s.plan.suiteNames) s
      exact ⟨_, .plan h hrest⟩

def executions (tops : List (Activation σ)) : List (Execution σ) :=
  tops.flatMap fun a => Deed.executions a.deeds

theorem executions_append (as bs : List (Activation σ)) :
    executions (as ++ bs) = executions as ++ executions bs := List.flatMap_append

/-- What suites that are run one after the other do, and that each is begun where the one before it
has ended. -/
structure Follows (e : Engine σ) (s : State σ) (tops : List (Activation σ)) (s' : State σ) :
    Prop where
  chronicle : Chronicle e s.history.runs (executions tops)
  history : s'.history.runs = s.history.runs ++ (executions tops).flatMap (·.effect.logged)
  served : e.runner.Serves s.runner ((executions tops).filterMap (·.effect.call?)) s'.runner
  performed : ∀ a ∈ tops, ∃ result s'',
    Performs e (.suite a.name a.parent) a.before a.deeds result s''

namespace Follows

variable {s s₁ s' : State σ} {as bs : List (Activation σ)}

theorem refl (e : Engine σ) (s : State σ) : Follows e s [] s where
  chronicle := trivial
  history := (List.append_nil _).symm
  served := .done
  performed _ h := absurd h List.not_mem_nil

theorem trans (h : Follows e s as s₁) (h' : Follows e s₁ bs s') : Follows e s (as ++ bs) s' := by
  have hc := h'.chronicle
  rw [h.history] at hc
  constructor
  · rw [executions_append]
    exact h.chronicle.append hc
  · rw [h'.history, h.history, executions_append, List.flatMap_append, List.append_assoc]
  · rw [executions_append, List.filterMap_append]
    exact h.served.append h'.served
  · exact List.forall_mem_append.2 ⟨h.performed, h'.performed⟩

theorem congr (h : Follows e s as s₁) (hh : s'.history = s₁.history)
    (hr : s'.runner = s₁.runner) : Follows e s as s' where
  chronicle := h.chronicle
  history := hh ▸ h.history
  served := hr ▸ h.served
  performed := h.performed

end Follows

theorem Performs.follows {name : String} {parent : Option Test} {s s' : State σ}
    {ds : List (Deed σ)} {result : Except Fault SuiteResult}
    (h : Performs e (.suite name parent) s ds result s') :
    Follows e s [⟨name, parent, s, ds⟩] s' := by
  have hx : executions [⟨name, parent, s, ds⟩] = Deed.executions ds := List.flatMap_singleton _ _
  constructor
  · rw [hx]
    exact h.chronicle
  · rw [hx, logged_executions]
    exact h.trail.history
  · rw [hx]
    have hs := h.serves
    rwa [Deed.calls, Deed.effects_eq, List.filterMap_map] at hs
  · exact List.forall_mem_singleton.2 ⟨result, s', h⟩

theorem PerformsAll.follows {names : List String} {s s' : State σ} {visits : List (Visit σ)}
    {result : Except Fault (List SuiteResult)} (h : PerformsAll e names s visits result s') :
    Follows e s (visits.map Visit.alone) s' := by
  induction h with
  | done => exact .refl e _
  | raised hrun => exact hrun.follows
  | @next name names ds x visits result s s₁ s' hrun hrest ih =>
    have hcounted : Follows e s [⟨name, none, s, ds⟩] (counted x s₁) := hrun.follows.congr rfl rfl
    exact hcounted.trans ih

theorem Session.follows {requests : List Request} {s s' : State σ} {tops : List (Activation σ)}
    (h : Session e requests s tops s') : Follows e s tops s' := by
  induction h with
  | done => exact .refl e _
  | run hrun hrest ih => exact hrun.follows.trans ih
  | plan hrun hrest ih => exact hrun.follows.trans ih

/-- A step that is executed after these others, from where the history held these runs. The history
holds what these have left and nothing else, each run with the response of its own call. The runner
gets the run of the step as its references are resolved against that history. What names the step
itself reads the last earlier run of that name. -/
structure Sees (e : Engine σ) (start : List Run) (before : List (Execution σ)) (x : Execution σ) :
    Prop where
  history : x.moment.before.history.runs = start ++ before.flatMap (·.effect.logged)
  responses : ∀ y ∈ before, ∀ r ∈ y.effect.logged, r.response = y.effect.response?
  effect : x.effect = e.effect x.moment
  handed : ∀ c ∈ x.effect.call?, c.suite = x.moment.now ∧
    c.answer = (e.runner.run c.run x.moment.now x.moment.before.runner).1.1 ∧
    Reference.resolveRun x.moment.before.history x.moment.run = (c.run, none) ∧
    c.run.name = x.moment.run.name
  own : ∀ expr, Reference.stepName? expr = some x.moment.run.name →
    (∃ earlier q later, start ++ before.flatMap (·.effect.logged) = earlier ++ q :: later ∧
      q.name = x.moment.run.name ∧ (∀ r ∈ later, r.name ≠ x.moment.run.name) ∧
      Reference.lookup x.moment.before.history expr = Reference.lookup ⟨[q]⟩ expr) ∨
    ((∀ r ∈ start ++ before.flatMap (·.effect.logged), r.name ≠ x.moment.run.name) ∧
      ∃ cause, Reference.lookup x.moment.before.history expr = .error (.unresolved cause))

theorem Chronicle.sees {runs : List Run} {before after : List (Execution σ)} {x : Execution σ}
    (h : Chronicle e runs (before ++ x :: after)) : Sees e runs before x := by
  have hhistory := h.at_split
  have heffect := h.of_mem (List.mem_append_right _ List.mem_cons_self)
  constructor
  · exact hhistory
  · intro y hy r hr
    have hy := h.of_mem (List.mem_append_left _ hy)
    rw [hy] at hr ⊢
    exact response_of_mem_logged hr
  · exact heffect
  · intro c hc
    rw [heffect] at hc
    obtain ⟨hr, hsuite, hanswer⟩ := effect_call hc
    refine ⟨hsuite, hanswer, hr, ?_⟩
    obtain ⟨params, path, hrun⟩ := Reference.resolveRun_eq hr
    rw [hrun]
    rfl
  · intro expr hexpr
    rw [← hhistory]
    exact Reference.lookup_cases _ hexpr

/-- A step sees exactly the past. Whatever an engine is asked for and however that ends, a step that
it executes finds in the history what was there at the start and then the runs of the steps executed
before it, at any depth and for any request, and no more. The step belongs to the activation of a
suite, whose steps come in their order, and so does the step that has reached the suite, unless the
suite was asked for. -/
theorem steps_see_the_past (e : Engine σ) (requests : List Request) (s : State σ) :
    ∃ tops s', Session e requests s tops s' ∧ s' = requests.foldl e.answer s ∧
      s'.history.runs = s.history.runs ++ (executions tops).flatMap (·.effect.logged) ∧
      e.runner.Serves s.runner ((executions tops).filterMap (·.effect.call?)) s'.runner ∧
      (∀ before x after, executions tops = before ++ x :: after →
        Sees e s.history.runs before x) ∧
      ∀ t ∈ tops, ∀ d ∈ Deed.allOf t.deeds,
        ∃ a ∈ (Task.suite t.name t.parent).activations t.before t.deeds, d ∈ a.deeds ∧ a.Leads ∧
          (a = t ∨ ∃ m below result, .reached m below result ∈ Deed.allOf t.deeds ∧
            a = ⟨m.step.ref, some m.forwarded, m.before, below⟩) := by
  obtain ⟨tops, h⟩ := session_answer e requests s
  have hf := h.follows
  refine ⟨tops, _, h, rfl, hf.history, hf.served, fun before x after hx => ?_, fun t ht d hd => ?_⟩
  · have hc := hf.chronicle
    rw [hx] at hc
    exact hc.sees
  · obtain ⟨result, s', hp⟩ := hf.performed t ht
    obtain ⟨a, ha, hda⟩ := hp.mem_activation d hd
    obtain ⟨-, result', s'', hp'⟩ := hp.activation a ha
    exact ⟨a, ha, hda, hp'.leads, Task.mem_activations ha⟩

def placing : Runner Unit where
  run r _ s := ((.ok ⟨some ⟨201, .str ("/" ++ r.name ++ "/1"), ""⟩, [], none, none, 0⟩, []), s)

def feedingShop : Plan :=
  let feed : Test := { Test.empty with name := "feed", method := "get" }
  { (default : Plan) with
    suites := .ofList [("pets", (default : Plan).createSuite "pets"
      [{ feed with path := "/feed" }, { feed with path := "\x7b\x7bfeed.outputs\x7d\x7d" }])] }

/-- The second feeding reads the run of the first, which has its name. -/
theorem steps_see_the_past_feeding :
    ∃ tops s' before x, Session ⟨placing, .replace, .narrow⟩ [.run "pets" none] (.start feedingShop ()) tops s' ∧
      s'.history.runs.map (·.path.text?) = [some "/feed", some "/feed/1"] ∧
      executions tops = before ++ [x] ∧ Sees ⟨placing, .replace, .narrow⟩ [] before x := by
  obtain ⟨tops, s', h, hs, hhistory, -, hsees, -⟩ :=
    steps_see_the_past ⟨placing, .replace, .narrow⟩ [.run "pets" none] (.start feedingShop ())
  have hpaths : (([Request.run "pets" none].foldl (answer ⟨placing, .replace, .narrow⟩)
      (.start feedingShop ())).history.runs.map (·.path.text?)) = [some "/feed", some "/feed/1"] := by
    decide +kernel
  rw [← hs] at hpaths
  obtain hnil | ⟨before, x, hx⟩ := List.eq_nil_or_concat (executions tops)
  · rw [hhistory, hnil] at hpaths
    cases hpaths
  · rw [List.concat_eq_append] at hx
    exact ⟨tops, s', before, x, h, hpaths, hx, hsees before x [] hx⟩

end Engine

end Runbook
