import Runbook.Proofs.Engine.Session

namespace Runbook

/-- Two plans that are declared alike: the same suites in the same order, with the same steps, and
the same of all else that no run is there to change. Suites may differ in their defaults. -/
structure Plan.Unedited (p q : Plan) : Prop where
  suiteNames : q.suiteNames = p.suiteNames
  name : ∀ n ∈ p.suiteNames, (q.suite n).name = (p.suite n).name
  tests : ∀ n ∈ p.suiteNames, (q.suite n).tests = (p.suite n).tests
  suiteAuth : ∀ n ∈ p.suiteNames, (q.suite n).auth = (p.suite n).auth
  suiteComment : ∀ n ∈ p.suiteNames, (q.suite n).comment = (p.suite n).comment
  params : q.params = p.params
  strict : q.strict = p.strict
  auth : q.auth = p.auth
  baseUrl : q.baseUrl = p.baseUrl
  comment : q.comment = p.comment
  fuzzType : q.fuzzType = p.fuzzType
  repro : q.repro = p.repro
  oldFailures : q.oldFailures = p.oldFailures
  otherFailures : q.otherFailures = p.otherFailures

theorem Plan.unedited_of_declared {p q : Plan} (h : q.declared = p.declared) : p.Unedited q := by
  have hsuite : ∀ n ∈ p.suiteNames, (q.suite n).declared = (p.suite n).declared := fun n hn =>
    declared_suite h (suiteNames_of_declared h ▸ hn)
  constructor
  · exact suiteNames_of_declared h
  · exact fun n hn => congrArg (·.name) (hsuite n hn)
  · exact fun n hn => congrArg (·.tests) (hsuite n hn)
  · exact fun n hn => congrArg (·.auth) (hsuite n hn)
  · exact fun n hn => congrArg (·.comment) (hsuite n hn)
  · exact congrArg (·.params) h
  · exact congrArg (·.strict) h
  · exact congrArg (·.auth) h
  · exact congrArg (·.baseUrl) h
  · exact congrArg (·.comment) h
  · exact congrArg (·.fuzzType) h
  · exact congrArg (·.repro) h
  · exact congrArg (·.oldFailures) h
  · exact congrArg (·.otherFailures) h

/-- The defaults of a suite before and after these steps of it, which hold defaults: the arguments of
each are copied over those that were there, and the last one says whether steps are strict. -/
structure Suite.MendedBy (ts : List Test) (before after : Suite) : Prop where
  params : after.params = (ts.map (·.params)).foldl Params.copyFrom before.params
  strict : after.strict = (ts.getLast?.map (·.strict)).getD before.strict

theorem Suite.mendedBy_iff {ts : List Test} {before after : Suite} :
    Suite.MendedBy ts before after ↔ after.defaults = ts.foldl Defaults.mend before.defaults := by
  rw [← Defaults.eq_iff, Defaults.params_foldl_mend, Defaults.strict_foldl_mend]
  exact ⟨fun h => ⟨h.params, h.strict⟩, fun h => ⟨h.1, h.2⟩⟩

namespace Engine

variable {σ : Type} {e : Engine σ}

/-- The steps that hold defaults of a suite, in the order in which they are done, at any depth. -/
def mendings (n : String) (tops : List (Activation σ)) : List Test :=
  tops.flatMap fun a => Deed.mending n a.deeds

theorem mendings_append (n : String) (as bs : List (Activation σ)) :
    mendings n (as ++ bs) = mendings n as ++ mendings n bs := List.flatMap_append

/-- How suites that are run one after the other change defaults. -/
structure Mends (s : State σ) (tops : List (Activation σ)) (s' : State σ) : Prop where
  names : s'.plan.suiteNames = s.plan.suiteNames
  defaults : ∀ n ∈ s.plan.suiteNames,
    s'.plan.defaults n = (mendings n tops).foldl Defaults.mend (s.plan.defaults n)

namespace Mends

variable {s s₁ s' : State σ} {as bs : List (Activation σ)}

theorem refl (s : State σ) : Mends s [] s := ⟨rfl, fun _ _ => rfl⟩

theorem trans (h : Mends s as s₁) (h' : Mends s₁ bs s') : Mends s (as ++ bs) s' where
  names := h'.names.trans h.names
  defaults n hn := by
    rw [h'.defaults n (h.names ▸ hn), h.defaults n hn, mendings_append, List.foldl_append]

end Mends

theorem Performs.mends {name : String} {parent : Option Test} {s s' : State σ}
    {ds : List (Deed σ)} {result : Except Fault SuiteResult}
    (h : Performs e (.suite name parent) s ds result s') :
    Mends s [⟨name, parent, s, ds⟩] s' := by
  obtain ⟨hnames, hdefaults⟩ := (frame_defaults e).of_performs h
  refine ⟨hnames, fun n hn => ?_⟩
  rw [hdefaults n hn, mendings, List.flatMap_singleton]

theorem PerformsAll.mends {names : List String} {s s' : State σ} {visits : List (Visit σ)}
    {result : Except Fault (List SuiteResult)} (h : PerformsAll e names s visits result s') :
    Mends s (visits.map Visit.alone) s' := by
  induction h with
  | done => exact .refl _
  | raised hrun => exact hrun.mends
  | @next name names ds x visits result s s₁ s' hrun hrest ih =>
    have hcounted : Mends s₁ [] (counted x s₁) := ⟨rfl, fun _ _ => rfl⟩
    exact hrun.mends.trans (hcounted.trans ih)

theorem Session.mends {requests : List Request} {s s' : State σ} {tops : List (Activation σ)}
    (h : Session e requests s tops s') : Mends s tops s' := by
  induction h with
  | done => exact .refl _
  | run hrun hrest ih => exact hrun.mends.trans ih
  | plan hrun hrest ih => exact hrun.mends.trans ih

theorem Performs.isInit_of_defaults {name : String} {parent : Option Test} {s s' : State σ}
    {ds : List (Deed σ)} {result : Except Fault SuiteResult}
    (h : Performs e (.suite name parent) s ds result s') {m : Moment σ}
    (hm : .defaults m ∈ ds) : m.step.isInit = true := by
  have hsuite : m.suite = name := (h.leads.moments _ hm).1
  cases h with
  | refused | untitled => cases hm
  | @visited _ _ _ _ _ _ s₁ s₂ s₃ hready htitle hsteps =>
    obtain ⟨screen, rfl⟩ := title_eq htitle
    have hname : name ∈ (enter name s₁).active := List.mem_append_right _ List.mem_cons_self
    have hown := hsteps.mending_own hname _ hm
    have hholds : Deed.mending name [.defaults m] = [m.step] := by
      simp [Deed.mending, Deed.allOf_defaults, Deed.holds?, hsuite]
    rw [hholds] at hown
    have hmem : m.step ∈ [m.step].filter Test.isInit := by
      rw [Deed.moment] at hown
      exact hown ▸ List.mem_cons_self
    exact (List.mem_filter.1 hmem).2

theorem Session.of_mem_mendings {requests : List Request} {s s' : State σ}
    {tops : List (Activation σ)} (h : Session e requests s tops s') {n : String} {t : Test}
    (ht : t ∈ mendings n tops) : t.isInit = true ∧
      ∃ a ∈ activations tops, a.name = n ∧ ∃ m, .defaults m ∈ a.deeds ∧ m.step = t := by
  obtain ⟨top, htop, ht⟩ := List.mem_flatMap.1 ht
  obtain ⟨d, hd, hholds⟩ := List.mem_filterMap.1 ht
  obtain ⟨a, ha, hda⟩ := h.exists_activation htop hd
  have hp := (h.happens ha).performs
  cases d with
  | defaults m =>
    rw [Deed.holds?] at hholds
    split at hholds
    · rename_i hm
      obtain rfl := Option.some.inj hholds
      exact ⟨hp.isInit_of_defaults hda, a, ha, (hp.leads.moments _ hda).1.symm.trans hm, m, hda, rfl⟩
    · cases hholds
  | reached | executed => cases hholds

theorem run_of_not_runnable (e : Engine σ) {name : String} {s : State σ}
    (h : s.plan.runnable? name = none) (parent : Option Test) :
    (e.run name parent).run s = (.error (.suiteNotFound name),
      { s with notices := s.notices ++ [.suiteNotFound name] }) := by
  have hready := run_ready name s
  rw [h] at hready
  have hrefused : Performs e (.suite name parent) s [] _ _ := .refused hready
  exact hrefused.run_eq

/-- Running never edits a plan. Whatever an engine is asked for and however that ends, the plan is
declared as before. The defaults of a suite are those before, changed by the steps that hold defaults
in the activations of that suite, in their order; so they are others only if there was such a step.
A suite that there is not, or that has no steps, leaves the plan and the history as they are. -/
theorem running_keeps_declarations (e : Engine σ) (requests : List Request) (s : State σ) :
    ∃ tops s', Session e requests s tops s' ∧ s' = requests.foldl e.answer s ∧
      s.plan.Unedited s'.plan ∧
      (∀ n ∈ s.plan.suiteNames,
        Suite.MendedBy (mendings n tops) (s.plan.suite n) (s'.plan.suite n) ∧
        (∀ t ∈ mendings n tops, t.isInit = true ∧
          ∃ a ∈ activations tops, a.name = n ∧ ∃ m, .defaults m ∈ a.deeds ∧ m.step = t) ∧
        ((s'.plan.suite n).params ≠ (s.plan.suite n).params ∨
            (s'.plan.suite n).strict ≠ (s.plan.suite n).strict →
          ∃ a ∈ activations tops, a.name = n ∧ ∃ m, .defaults m ∈ a.deeds)) ∧
      (∀ name parent, s.plan.runnable? name = none →
        (e.run name parent).run s = (.error (.suiteNotFound name),
          { s with notices := s.notices ++ [.suiteNotFound name] })) ∧
      ∀ name parent n s'', (e.run name parent).run s = (.error (.suiteNotFound n), s'') →
        e.runner.Raises (.suiteNotFound n) ∨
          n = name ∧ s.plan.runnable? name = none ∧ s''.plan = s.plan ∧
            s''.history = s.history := by
  obtain ⟨tops, h⟩ := session_answer e requests s
  refine ⟨tops, _, h, rfl, Plan.unedited_of_declared h.inherits.declared, fun n hn => ?_,
    fun name parent hname => run_of_not_runnable e hname parent, fun name parent n s'' hrun => ?_⟩
  · have hmended := Suite.mendedBy_iff.2 (h.mends.defaults n hn)
    refine ⟨hmended, fun t ht => h.of_mem_mendings ht, fun hdiffers => ?_⟩
    have hsteps : mendings n tops ≠ [] := by
      intro hnone
      rw [hnone] at hmended
      exact hdiffers.elim (fun hparams => hparams hmended.params) fun hstrict =>
        hstrict hmended.strict
    obtain ⟨t, ht⟩ := List.exists_mem_of_ne_nil _ hsteps
    obtain ⟨-, a, ha, hname, m, hm, -⟩ := h.of_mem_mendings ht
    exact ⟨a, ha, hname, m, hm⟩
  · obtain ⟨ds, hp⟩ := performs_run e name parent s
    rw [hrun] at hp
    obtain hraised | ⟨hnone, -, hname, notices, hstate⟩ := hp.suiteNotFound
    · exact .inl (hp.raises hraised)
    · dsimp only at hstate
      exact .inr ⟨hname, hnone, by rw [hstate], by rw [hstate]⟩

/-- A suite becomes strict by its own step, and one that there is not changes nothing. -/
theorem running_keeps_declarations_strictAtLast :
    ∃ tops s', Session ⟨placing, .replace, .narrow⟩ [.run "pets" none, .run "users" none]
        (.start strictAtLast ()) tops s' ∧
      strictAtLast.Unedited s'.plan ∧
      (strictAtLast.suite "pets").strict = false ∧ (s'.plan.suite "pets").strict = true ∧
      ∃ a ∈ activations tops, a.name = "pets" ∧ ∃ m, .defaults m ∈ a.deeds := by
  obtain ⟨tops, s', h, hs, hunedited, hmended, -, -⟩ :=
    running_keeps_declarations ⟨placing, .replace, .narrow⟩ [.run "pets" none, .run "users" none]
      (.start strictAtLast ())
  have hstrict : (s'.plan.suite "pets").strict = true := by
    rw [hs]
    decide +kernel
  have hlax : (strictAtLast.suite "pets").strict = false := by decide +kernel
  have hpets : "pets" ∈ strictAtLast.suiteNames := by decide +kernel
  obtain ⟨-, -, hdiffers⟩ := hmended "pets" hpets
  refine ⟨tops, s', h, hunedited, hlax, hstrict, hdiffers (.inr ?_)⟩
  rw [hstrict]
  exact fun hsame => Bool.noConfusion (hsame.trans hlax)

end Engine

end Runbook
