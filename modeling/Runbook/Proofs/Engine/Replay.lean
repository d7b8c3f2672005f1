import Runbook.Proofs.Engine.Skipping
import Runbook.Proofs.Replay

namespace Runbook

namespace Defaults

theorem keyed_mended {d : Defaults} {ts : List Test} (hd : d.params.body.Keyed)
    (hts : ∀ t ∈ ts, t.params.body.Keyed) : (d.mended ts).params.body.Keyed := by
  have hinits : ∀ t ∈ ts.filter Test.isInit, t.params.body.Keyed := fun t ht =>
    hts t (List.mem_filter.1 ht).1
  rw [mended]
  generalize ts.filter Test.isInit = us at hinits
  induction us generalizing d with
  | nil => exact hd
  | cons u us ih =>
    obtain ⟨hu, hus⟩ := List.forall_mem_cons.1 hinits
    exact ih (hu.copyFrom hd) hus

/-- Steps leave the same defaults when some of them, and then all of them, come again. -/
theorem mended_replay {d : Defaults} {ts us : List Test} (hd : d.params.body.Keyed)
    (hts : ∀ t ∈ ts, t.params.body.Keyed) (hus : us ⊆ ts) :
    ((d.mended ts).mended us).mended ts = d.mended ts := by
  have hinits : us.filter Test.isInit ⊆ ts.filter Test.isInit := List.filter_subset _ hus
  refine eq_iff.1 ⟨?_, ?_⟩
  · simp only [mended, params_foldl_mend]
    refine Params.foldl_copyFrom_replay hd ?_ (List.map_subset _ hinits)
    exact List.forall_mem_map.2 fun t ht => hts t (List.mem_filter.1 ht).1
  · simp only [mended, strict_foldl_mend]
    -- The last step that holds defaults decides, if there is one.
    cases h : ts.filter Test.isInit with
    | nil =>
      rw [h] at hinits
      rw [List.subset_nil.1 hinits]
      rfl
    | cons t ts =>
      rw [List.getLast?_cons]
      rfl

end Defaults

namespace Engine

variable {σ : Type} {e : Engine σ}

/-- An activation comes to all steps of its suite that hold defaults. -/
def Activation.MendsAll (p : Plan) (a : Activation σ) : Prop :=
  a.steps.filter Test.isInit = (p.suite a.name).tests.filter Test.isInit

theorem Activation.MendsAll.mended_steps {p : Plan} {a : Activation σ} (h : a.MendsAll p)
    (d : Defaults) : d.mended a.steps = d.mended (p.suite a.name).tests := by
  rw [Defaults.mended, h, Defaults.mended]

/-- To lay arguments over others once more changes nothing. So it is with the steps of a suite that
hold defaults: if two activations of the suite come to all of them, the second leaves the defaults
as the first has left them, whatever the engine is asked for and does for it in between. -/
theorem defaults_replay_idempotent (e : Engine σ) (requests : List Request) (s : State σ) :
    (∀ (p : Params) (ps : List Params), p.body.Keyed → (∀ q ∈ ps, q.body.Keyed) →
      ps.foldl Params.copyFrom (ps.foldl Params.copyFrom p) = ps.foldl Params.copyFrom p) ∧
    ∃ tops s', Session e requests s tops s' ∧ s' = requests.foldl e.answer s ∧
      ∀ earlier a between b later,
        activations tops = earlier ++ a :: between ++ b :: later → b.name = a.name →
        a.MendsAll s.plan → b.MendsAll s.plan →
        (s.plan.suite a.name).params.body.Keyed →
        (∀ t ∈ (s.plan.suite a.name).tests, t.params.body.Keyed) →
        ((b.left e).plan.suite a.name).params = ((a.left e).plan.suite a.name).params ∧
          ((b.left e).plan.suite a.name).strict = ((a.left e).plan.suite a.name).strict := by
  refine ⟨fun p ps hp hps => Params.foldl_copyFrom_replay hp hps (List.nil_subset ps), ?_⟩
  obtain ⟨tops, h⟩ := session_answer e requests s
  refine ⟨tops, _, h, rfl, ?_⟩
  intro earlier a between b later hsplit hname ha hb hkeyed htests
  have hsplit' : activations tops = earlier ++ a :: (between ++ b :: later) := by simpa using hsplit
  have hin : earlier ⊆ activations tops := fun c hc => by simp [hsplit', hc]
  have hin' : between ⊆ activations tops := fun c hc => by simp [hsplit', hc]
  have hearlier := h.cameTo_subset hin a.name
  have hbetween := h.cameTo_subset hin' a.name
  have hfirst := h.defaults_left hsplit'
  have hsecond := h.defaults_left hsplit
  rw [ha.mended_steps] at hfirst
  rw [hname, hb.mended_steps, hname, cameTo_append, cameTo_cons, Defaults.mended_append,
    Defaults.mended_append] at hsecond
  have hsame : (b.left e).plan.defaults a.name = (a.left e).plan.defaults a.name := by
    rw [hsecond, hfirst]
    change Defaults.mended (Defaults.mended (Defaults.mended _ a.steps) _) _ = _
    rw [ha.mended_steps]
    refine Defaults.mended_replay ?_ htests hbetween
    exact Defaults.keyed_mended hkeyed fun t ht => htests t (hearlier ht)
  exact ⟨congrArg (·.params) hsame, congrArg (·.strict) hsame⟩

theorem Performs.steps_eq_tests {name : String} {parent : Option Test} {s s' : State σ}
    {ds : List (Deed σ)} {x : SuiteResult} (hmode : e.nested = .accumulate)
    (h : Performs e (.suite name parent) s ds (.ok x) s')
    (hpost : ∀ t ∈ (s.plan.suite name).tests, t.method ≠ "post") :
    ds.map (·.moment.step) = (s.plan.suite name).tests := by
  refine (h.halts_suite.cutsRest.whole (fun m x hm hfailed => ?_) fun hreplace => ?_).1
  · have hstep : m.step ∈ (s.plan.suite name).tests :=
      h.leads.steps.subset (List.mem_map_of_mem hm)
    exact hpost m.step hstep ((Run.method_ofTest _ _ _).symm.trans hfailed.method)
  · rw [hmode] at hreplace
    cases hreplace

/-- What the steps of a suite say of the pets to be shown. The second time nothing is said of the
body, which forgets the name. -/
def petDefaults : List Params :=
  [{ Params.empty with
      query := .ofList [("size", .int 1)]
      body := .mapping (.ofList [(.str "name", .str "rex")]) },
    { Params.empty with query := .ofList [("page", .int 2)] },
    { Params.empty with
      query := .ofList [("size", .int 3)]
      body := .mapping (.ofList [(.str "tag", .null)]) }]

def refilling : Plan :=
  let inits := petDefaults.map fun p => { Test.empty with name := initName, params := p }
  let request : Test := { Test.empty with name := "show", method := "get", path := "/pets" }
  { (default : Plan) with
    suites := .ofList
      [("pets", (default : Plan).createSuite "pets" (inits ++ request :: inits))] }

theorem mendsAll_refilling {s s' : State Unit} {ds : List (Deed Unit)}
    {result : Except Fault SuiteResult} (hs : s.plan.declared = refilling.declared)
    (h : Performs (shopping .accumulate) (.suite "pets" none) s ds result s')
    (hok : (((shopping .accumulate).run "pets" none).run s).1.toOption.isSome = true) :
    Activation.MendsAll refilling ⟨"pets", none, s, ds⟩ := by
  rw [h.run_eq] at hok
  cases result with
  | error f => cases hok
  | ok x =>
    have htests := Plan.tests_of_declared hs "pets"
    have hpost : ∀ t ∈ (refilling.suite "pets").tests, t.method ≠ "post" := by decide +kernel
    exact congrArg (List.filter _) ((h.steps_eq_tests rfl (htests ▸ hpost)).trans htests)

/-- The suite is run twice, and leaves the same defaults both times. -/
theorem defaults_replay_idempotent_pets :
    (∀ p ∈ petDefaults, p.body.Keyed) ∧
    petDefaults.foldl Params.copyFrom (petDefaults.foldl Params.copyFrom .empty) =
      petDefaults.foldl Params.copyFrom .empty ∧
    ∃ tops s' a between b later,
      Session (shopping .accumulate) [.run "pets" none, .run "pets" none] (.start refilling ())
        tops s' ∧
      activations tops = [] ++ a :: between ++ b :: later ∧ b.name = a.name ∧
      a.MendsAll refilling ∧ b.MendsAll refilling ∧
      ((b.left (shopping .accumulate)).plan.suite a.name).params =
        ((a.left (shopping .accumulate)).plan.suite a.name).params ∧
      ((b.left (shopping .accumulate)).plan.suite a.name).strict =
        ((a.left (shopping .accumulate)).plan.suite a.name).strict := by
  obtain ⟨hreplay, tops, s', h, -, hsame⟩ := defaults_replay_idempotent (shopping .accumulate)
    [.run "pets" none, .run "pets" none] (.start refilling ())
  have hkeyed : ∀ p ∈ petDefaults, p.body.Keyed := by decide +kernel
  refine ⟨hkeyed, hreplay .empty petDefaults trivial hkeyed, ?_⟩
  cases h with
  | @run _ _ ds _ _ _ _ s₁ _ hrun hrest =>
    cases hrest with
    | @run _ _ ds' _ _ _ _ s₂ _ hagain hdone =>
      cases hdone
      have hs₁ : s₁ = (((shopping .accumulate).run "pets" none).run (.start refilling ())).2 := by
        rw [hrun.run_eq]
      have hadmits : (State.start refilling ()).Admits "pets" := by decide +kernel
      have hadmits' : s₁.Admits "pets" := by
        rw [hs₁]
        decide +kernel
      have hok : (((shopping .accumulate).run "pets" none).run
          (.start refilling ())).1.toOption.isSome = true := by decide +kernel
      have hok' : (((shopping .accumulate).run "pets" none).run s₁).1.toOption.isSome = true := by
        rw [hs₁]
        decide +kernel
      have ha := mendsAll_refilling rfl hrun hok
      have hb := mendsAll_refilling hrun.trail.declared hagain hok'
      have hsplit : activations [⟨"pets", none, .start refilling (), ds⟩, ⟨"pets", none, s₁, ds'⟩] =
          [] ++ ⟨"pets", none, .start refilling (), ds⟩ :: Deed.begunOf ds ++
            ⟨"pets", none, s₁, ds'⟩ :: Deed.begunOf ds' := by
        rw [activations_cons hadmits, activations_cons hadmits', activations, List.flatMap_nil,
          List.append_nil]
        rfl
      have htests : ∀ t ∈ (refilling.suite "pets").tests, t.params.body.Keyed := by decide +kernel
      obtain ⟨hparams, hstrict⟩ := hsame _ _ _ _ _ hsplit rfl ha hb trivial htests
      exact ⟨_, _, _, _, _, _, .run hrun (.run hagain .done), hsplit, rfl, ha, hb, hparams, hstrict⟩

end Engine

end Runbook
