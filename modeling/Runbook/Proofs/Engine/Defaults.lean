import Runbook.Proofs.Engine.Past
import Runbook.Proofs.Screen.Report

namespace Runbook

def Test.isInit (t : Test) : Bool := t.ref == "" && t.name == initName

structure Defaults where
  params : Params
  strict : Bool

namespace Defaults

def mend (d : Defaults) (t : Test) : Defaults := ⟨d.params.copyFrom t.params, t.strict⟩

def mended (d : Defaults) (ts : List Test) : Defaults := (ts.filter Test.isInit).foldl mend d

theorem mended_append (d : Defaults) (ts us : List Test) :
    d.mended (ts ++ us) = (d.mended ts).mended us := by
  rw [mended, List.filter_append, List.foldl_append, mended, mended]

theorem mended_eq_self {ts : List Test} (h : ∀ t ∈ ts, t.isInit = false) (d : Defaults) :
    d.mended ts = d := by
  have hf : ts.filter Test.isInit = [] := List.filter_eq_nil_iff.2 fun t ht => by simp [h t ht]
  rw [mended, hf, List.foldl_nil]

end Defaults

def Suite.defaults (s : Suite) : Defaults := ⟨s.params, s.strict⟩

namespace Plan

variable {p : Plan} {name n : String}

def defaults (p : Plan) (name : String) : Defaults := (p.suite name).defaults

theorem defaults_updateSuite (p : Plan) (name n : String) {f : Suite → Suite}
    (hf : ∀ s, (f s).defaults = s.defaults) :
    (p.updateSuite name f).defaults n = p.defaults n :=
  field_updateSuite Suite.defaults p name n hf

theorem defaults_openSchema (p : Plan) (name n : String) :
    (p.openSchema name).defaults n = p.defaults n := by
  unfold openSchema
  split
  · exact defaults_updateSuite _ name n fun _ => rfl
  · exact defaults_updateSuite _ name n fun _ => rfl

theorem defaults_closeSchema (p : Plan) (name n : String) :
    (p.closeSchema name).defaults n = p.defaults n :=
  defaults_updateSuite p name n fun _ => rfl

theorem defaults_applyInit (t : Test) (hn : name ∈ p.suiteNames) :
    (p.updateSuite name (·.applyInit t)).defaults name = (p.defaults name).mend t := by
  obtain ⟨s, hs⟩ := Option.isSome_iff_exists.1 ((Registry.mem_order_iff _ _).1 hn)
  rw [defaults, suite_updateSuite _ hs, defaults, suite, hs, Option.getD_some]
  rfl

theorem defaults_updateSuite_of_ne (p : Plan) (f : Suite → Suite) (hn : name ≠ n) :
    (p.updateSuite name f).defaults n = p.defaults n := by
  rw [defaults, suite_updateSuite_of_ne p f hn, defaults]

theorem declared_suite {q : Plan} (h : p.declared = q.declared) (hn : n ∈ p.suiteNames) :
    (p.suite n).declared = (q.suite n).declared := by
  have hd : ∀ {r : Plan}, n ∈ r.suiteNames →
      r.declared.suites.get? n = some (r.suite n).declared := by
    intro r hr
    obtain ⟨s, hs⟩ := Option.isSome_iff_exists.1 ((Registry.mem_order_iff _ _).1 hr)
    rw [declared, Registry.get?_mapValues, suite, hs, Option.map_some, Option.getD_some]
  have hp := hd hn
  rw [h, hd (suiteNames_of_declared h ▸ hn)] at hp
  exact (Option.some.inj hp).symm

end Plan

namespace Engine

variable {σ : Type} {e : Engine σ}

namespace Deed

def holds? (n : String) : Deed σ → Option Test
  | defaults m => if m.suite = n then some m.step else none
  | reached _ _ _ | executed _ _ => none

theorem mem_allOf {d : Deed σ} {ds : List (Deed σ)} (h : d ∈ ds) : d ∈ allOf ds := by
  obtain ⟨before, after, rfl⟩ := List.append_of_mem h
  rw [allOf_append, allOf]
  refine List.mem_append_right _ (List.mem_append_left _ ?_)
  cases d <;> simp [all]

def mending (n : String) (ds : List (Deed σ)) : List Test := (allOf ds).filterMap (holds? n)

theorem mending_append (n : String) (ds ds' : List (Deed σ)) :
    mending n (ds ++ ds') = mending n ds ++ mending n ds' := by
  rw [mending, allOf_append, List.filterMap_append, mending, mending]

theorem mending_reached (n : String) (m : Moment σ) (below : List (Deed σ))
    (result : Except Fault SuiteResult) :
    mending n [reached m below result] = mending n below := by
  simp [mending, allOf_reached, holds?]

theorem mending_eq_nil {n : String} {ds : List (Deed σ)}
    (h : ∀ d ∈ allOf ds, d.moment.suite ≠ n) : mending n ds = [] := by
  refine List.filterMap_eq_nil_iff.2 fun d hd => ?_
  cases d with
  | defaults m => exact if_neg (h _ hd)
  | reached | executed => rfl

end Deed

/-- What has been done for a suite is what its defaults have changed by. -/
theorem frame_defaults (e : Engine σ) : Frame e fun s ds s' =>
    s'.plan.suiteNames = s.plan.suiteNames ∧ ∀ n ∈ s.plan.suiteNames,
      s'.plan.defaults n = (Deed.mending n ds).foldl Defaults.mend (s.plan.defaults n) where
  trans h h' := by
    obtain ⟨hs, hd⟩ := h
    obtain ⟨hs', hd'⟩ := h'
    refine ⟨hs'.trans hs, fun n hn => ?_⟩
    rw [hd' n (hs ▸ hn), hd n hn, Deed.mending_append, List.foldl_append]
  told s notices screen := ⟨rfl, fun n hn => rfl⟩
  visited {name s s' ds} hn ha h := by
    obtain ⟨hs, hd⟩ := h
    have henter : (enter name s).plan.suiteNames = s.plan.suiteNames :=
      Plan.suiteNames_of_declared (declared_enter name s)
    have hleave : (leave name s').plan.suiteNames = s'.plan.suiteNames :=
      Plan.suiteNames_of_declared (Plan.declared_closeSchema _ name)
    refine ⟨hleave.trans (hs.trans henter), fun n hn => ?_⟩
    have ho : (enter name s).plan.defaults n = s.plan.defaults n :=
      Plan.defaults_openSchema _ name n
    have hc : (leave name s').plan.defaults n = s'.plan.defaults n :=
      Plan.defaults_closeSchema _ name n
    rw [hc, hd n (henter ▸ hn), ho]
  reached m result below s' h := by
    obtain ⟨hs, hd⟩ := h
    refine ⟨hs, fun n hn => ?_⟩
    rw [hd n hn, Deed.mending_reached]
  defaults m := by
    have hdeclared : m.mended.plan.declared = m.before.plan.declared :=
      Plan.declared_updateSuite _ m.suite fun _ => rfl
    refine ⟨Plan.suiteNames_of_declared hdeclared, fun n hn => ?_⟩
    by_cases hm : m.suite = n
    · subst n
      have hh : Deed.mending m.suite [.defaults m] = [m.step] := by
        simp [Deed.mending, Deed.allOf_defaults, Deed.holds?]
      rw [hh]
      exact Plan.defaults_applyInit m.step hn
    · have hh : Deed.mending n [.defaults m] = [] :=
        Deed.mending_eq_nil (List.forall_mem_singleton.2 hm)
      rw [hh]
      exact Plan.defaults_updateSuite_of_ne _ _ hm
  executed m runner notices screen := ⟨rfl, fun n hn => rfl⟩

theorem frame_active (e : Engine σ) : Frame e fun s ds s' =>
    s'.active = s.active ∧ ∀ d ∈ Deed.allOf ds, s.active ⊆ d.moment.before.active where
  trans h h' := by
    obtain ⟨hs, hd⟩ := h
    obtain ⟨hs', hd'⟩ := h'
    rw [Deed.allOf_append]
    exact ⟨hs'.trans hs, List.forall_mem_append.2 ⟨hd, hs ▸ hd'⟩⟩
  told s notices screen := ⟨rfl, by simp [Deed.allOf]⟩
  visited {name s s' ds} hn ha h := by
    obtain ⟨hs, hd⟩ := h
    have hactive : (enter name s).active = s.active ++ [name] := rfl
    constructor
    · change s'.active.dropLast = s.active
      rw [hs, hactive, List.dropLast_concat]
    · intro d hm
      exact List.Subset.trans (List.subset_append_left _ _) (hactive ▸ hd d hm)
  reached m result below s' h := by
    obtain ⟨hs, hd⟩ := h
    rw [Deed.allOf_reached]
    exact ⟨hs, List.forall_mem_append.2 ⟨hd, List.forall_mem_singleton.2 (List.Subset.refl _)⟩⟩
  defaults m := ⟨rfl, List.forall_mem_singleton.2 (List.Subset.refl _)⟩
  executed m runner notices screen := ⟨rfl, List.forall_mem_singleton.2 (List.Subset.refl _)⟩

theorem Performs.not_active_of_begun {task : Task} {s s' : State σ} {ds : List (Deed σ)}
    {result : Except Fault SuiteResult} (h : Performs e task s ds result s') :
    ∀ a ∈ Deed.begunOf ds, a.name ∉ s.active := by
  intro a ha hn
  obtain ⟨m, below, _, hm, rfl⟩ := Deed.mem_begunOf ds ha
  obtain ⟨-, hd⟩ := (frame_active e).of_performs h
  have hb : m.before.active ⊇ s.active := hd _ hm
  have hadmits : m.before.Admits m.step.ref := by
    cases task with
    | suite name parent => exact (h.activation _ (List.mem_append_right _ ha)).1
    | steps name parent ts x => exact (h.activation _ ha).1
  exact hadmits.2 (hb hn)

theorem Performs.not_active {task : Task} {s s' : State σ} {ds : List (Deed σ)}
    {result : Except Fault SuiteResult} (h : Performs e task s ds result s') :
    ∀ a ∈ task.activations s ds, a.name ∉ s.active := by
  intro a ha
  cases task with
  | suite name parent =>
    obtain ho | hb := List.mem_append.1 ha
    · have hadmits := (h.activation a ha).1
      unfold Activation.of at ho
      split at ho
      · obtain rfl := List.mem_singleton.1 ho
        exact hadmits.2
      · cases ho
    · exact h.not_active_of_begun a hb
  | steps name parent ts x => exact h.not_active_of_begun a ha

theorem Performs.suite_not_active {name : String} {parent : Option Test} {s s' : State σ}
    {ds : List (Deed σ)} {result : Except Fault SuiteResult}
    (h : Performs e (.suite name parent) s ds result s') :
    ∀ d ∈ Deed.allOf ds, d.moment.suite ∉ s.active := by
  intro d hd
  obtain ⟨a, ha, hda⟩ := h.mem_activation d hd
  obtain ⟨-, result', s'', hp⟩ := h.activation a ha
  rw [(hp.leads.moments d hda).1]
  exact h.not_active a ha

/-- Of the steps that a suite has come to those that hold defaults have changed its defaults, and
nothing below the others has. -/
theorem Performs.mending_own {name : String} {parent : Option Test} {ts : List Test}
    {x : SuiteResult} {s s' : State σ} {ds : List (Deed σ)} {result : Except Fault SuiteResult}
    (h : Performs e (.steps name parent ts x) s ds result s') (hname : name ∈ s.active) :
    ∀ d ∈ ds, Deed.mending name [d] = [d.moment.step].filter Test.isInit := by
  have hreached : ∀ {t : Test} {s s₁ : State σ} {below : List (Deed σ)}
      {result result' : Except Fault SuiteResult}, t.ref ≠ "" → name ∈ s.active →
      Performs e (.suite t.ref (some (Moment.forwarded ⟨s, name, parent, t⟩))) s below result s₁ →
      Deed.mending name [.reached ⟨s, name, parent, t⟩ below result'] =
        [t].filter Test.isInit := by
    intro t s s₁ below result result' href hs hb
    rw [Deed.mending_reached, Deed.mending_eq_nil fun d hd hn => hb.suite_not_active d hd (hn ▸ hs)]
    simp [Test.isInit, href]
  have hexecuted : ∀ {t : Test} {s : State σ} {y : Effect}, t.name ≠ initName →
      Deed.mending name [.executed ⟨s, name, parent, t⟩ y] = [t].filter Test.isInit := by
    intro t s y hinit
    simp [Deed.mending, Deed.allOf_executed, Deed.holds?, Test.isInit, hinit]
  induction ts generalizing x s ds with
  | nil =>
    cases h
    simp
  | cons t ts ih =>
    cases h with
    | raised href hbelow hf =>
      exact List.forall_mem_singleton.2 (hreached href hname hbelow)
    | handed href hbelow hy hx =>
      exact List.forall_mem_singleton.2 (hreached href hname hbelow)
    | resumed href hbelow hy hx hrest =>
      refine List.forall_mem_cons.2 ⟨hreached href hname hbelow, ih hrest ?_⟩
      rw [hbelow.trail.active]
      exact hname
    | defaults href hinit hrest =>
      refine List.forall_mem_cons.2 ⟨?_, ih hrest hname⟩
      simp [Deed.mending, Deed.allOf_defaults, Deed.holds?, Deed.moment, Test.isInit, href, hinit]
    | failed href hinit hrun => exact List.forall_mem_singleton.2 (hexecuted hinit)
    | cut href hinit hrun hcut hshown hresult => exact List.forall_mem_singleton.2 (hexecuted hinit)
    | executed href hinit hrun hcut hrest =>
      have hs := (frame_trail e).of_carryOut ⟨s, name, parent, t⟩
      rw [hrun] at hs
      refine List.forall_mem_cons.2 ⟨hexecuted hinit, ih hrest ?_⟩
      rw [hs.active]
      exact hname

theorem Deed.mending_of_own {name : String} {ds : List (Deed σ)}
    (h : ∀ d ∈ ds, mending name [d] = [d.moment.step].filter Test.isInit) :
    mending name ds = (ds.map (·.moment.step)).filter Test.isInit := by
  induction ds with
  | nil => rfl
  | cons d ds ih =>
    obtain ⟨hd, hds⟩ := List.forall_mem_cons.1 h
    have hcons : d :: ds = [d] ++ ds := rfl
    rw [hcons, mending_append, hd, ih hds, List.map_append, List.filter_append]
    rfl

/-- The steps of a suite that these activations have come to. -/
def cameTo (n : String) (as : List (Activation σ)) : List Test :=
  (as.filter (·.name = n)).flatMap fun a => a.deeds.map (·.moment.step)

theorem cameTo_append (n : String) (as bs : List (Activation σ)) :
    cameTo n (as ++ bs) = cameTo n as ++ cameTo n bs := by
  rw [cameTo, List.filter_append, List.flatMap_append, cameTo, cameTo]

theorem cameTo_cons (a : Activation σ) (as : List (Activation σ)) :
    cameTo a.name (a :: as) = a.deeds.map (·.moment.step) ++ cameTo a.name as := by
  simp [cameTo]

theorem cameTo_cons_of_ne {n : String} {a : Activation σ} (h : a.name ≠ n)
    (as : List (Activation σ)) : cameTo n (a :: as) = cameTo n as := by
  simp [cameTo, h]

theorem cameTo_eq_nil {n : String} {as : List (Activation σ)} (h : ∀ a ∈ as, a.name ≠ n) :
    cameTo n as = [] := by
  rw [cameTo, List.filter_eq_nil_iff.2 (by simpa using h), List.flatMap_nil]

/-- The defaults that activations begin with and leave behind: those that were there before, mended
by the steps that the activations of the suite have come to, one activation after the other. -/
structure Inherits (s : State σ) (as : List (Activation σ)) (s' : State σ) : Prop where
  declared : s'.plan.declared = s.plan.declared
  active : s'.active = s.active
  admitted : ∀ a ∈ as, a.name ∈ s.plan.suiteNames ∧ a.name ∉ s.active ∧
    a.before.plan.declared = s.plan.declared
  left : ∀ n ∈ s.plan.suiteNames, n ∉ s.active →
    s'.plan.defaults n = (s.plan.defaults n).mended (cameTo n as)
  begun : ∀ earlier a later, as = earlier ++ a :: later →
    a.before.plan.defaults a.name = (s.plan.defaults a.name).mended (cameTo a.name earlier)

namespace Inherits

variable {s s₁ s₂ s' : State σ} {as bs : List (Activation σ)} {name : String}
  {parent : Option Test} {ds : List (Deed σ)}

/-- Whatever happens otherwise, no suite that is not active gets other defaults. -/
theorem idle (hdeclared : s'.plan.declared = s.plan.declared) (hactive : s'.active = s.active)
    (hdefaults : ∀ n ∉ s.active, s'.plan.defaults n = s.plan.defaults n) : Inherits s [] s' where
  declared := hdeclared
  active := hactive
  admitted := by simp
  left n _ hn := hdefaults n hn
  begun earlier a later h := by simp at h

theorem refl (s : State σ) : Inherits s [] s := .idle rfl rfl fun _ _ => rfl

theorem names (h : Inherits s as s') : s'.plan.suiteNames = s.plan.suiteNames :=
  Plan.suiteNames_of_declared h.declared

theorem trans (h : Inherits s as s₁) (h' : Inherits s₁ bs s') : Inherits s (as ++ bs) s' where
  declared := h'.declared.trans h.declared
  active := h'.active.trans h.active
  admitted := by
    have hb := h'.admitted
    rw [h.names, h.active, h.declared] at hb
    exact List.forall_mem_append.2 ⟨h.admitted, hb⟩
  left n hn ha := by
    rw [h'.left n (h.names ▸ hn) (h.active ▸ ha), h.left n hn ha, cameTo_append,
      Defaults.mended_append]
  begun earlier a later hsplit := by
    -- The activation is one of the second part, or else of the first one.
    obtain ⟨mid, rfl, hb⟩ | ⟨mid, hb, hm⟩ := List.append_eq_append_iff.1 hsplit
    · obtain ⟨hn, ha, -⟩ := h'.admitted a (hb ▸ by simp)
      rw [h.names] at hn
      rw [h.active] at ha
      rw [h'.begun mid a later hb, h.left a.name hn ha, cameTo_append, Defaults.mended_append]
    · cases mid with
      | nil =>
        rw [List.append_nil] at hb
        rw [List.nil_append] at hm
        obtain ⟨hn, ha, -⟩ := h'.admitted a (hm ▸ by simp)
        rw [h.names] at hn
        rw [h.active] at ha
        rw [h'.begun [] a later hm.symm, h.left a.name hn ha, hb]
        rfl
      | cons b mid =>
        obtain ⟨rfl, rfl⟩ := List.cons.inj hm
        exact h.begun earlier a mid hb

theorem visit (hname : s.Admits name) (h : Inherits s₂ as s')
    (hdeclared : s₂.plan.declared = s.plan.declared) (hactive : s₂.active = s.active ++ [name])
    (hdefaults : ∀ n, s₂.plan.defaults n = s.plan.defaults n)
    (hown : s'.plan.defaults name = (s.plan.defaults name).mended (ds.map (·.moment.step))) :
    Inherits s (⟨name, parent, s, ds⟩ :: as) (leave name s') where
  declared := (Plan.declared_closeSchema _ name).trans (h.declared.trans hdeclared)
  active := by
    change s'.active.dropLast = s.active
    rw [h.active, hactive, List.dropLast_concat]
  admitted := by
    refine List.forall_mem_cons.2 ⟨⟨Plan.mem_suiteNames_of_runnable? hname.1, hname.2, rfl⟩, ?_⟩
    intro a ha
    obtain ⟨hn, hs, hd⟩ := h.admitted a ha
    rw [hactive] at hs
    exact ⟨Plan.suiteNames_of_declared hdeclared ▸ hn, fun hm => hs (List.mem_append_left _ hm),
      hd.trans hdeclared⟩
  left n hn ha := by
    have hc : (leave name s').plan.defaults n = s'.plan.defaults n :=
      Plan.defaults_closeSchema _ name n
    rw [hc]
    by_cases hne : name = n
    · subst n
      -- An active suite is not entered again, so only its own steps have mended it.
      have hnone : cameTo name as = [] := cameTo_eq_nil fun a ha hna => by
        have hs := (h.admitted a ha).2.1
        rw [hactive, hna] at hs
        exact hs (by simp)
      rw [hown, cameTo_cons ⟨name, parent, s, ds⟩, hnone, List.append_nil]
    · have hn₂ : n ∉ s₂.active := by
        rw [hactive]
        simp [ha, Ne.symm hne]
      have hnames := Plan.suiteNames_of_declared hdeclared
      rw [h.left n (hnames ▸ hn) hn₂, hdefaults, cameTo_cons_of_ne hne]
  begun earlier a later hsplit := by
    cases earlier with
    | nil =>
      obtain ⟨rfl, -⟩ := List.cons.inj hsplit
      rfl
    | cons b earlier =>
      obtain ⟨rfl, hrest⟩ := List.cons.inj hsplit
      have hne : name ≠ a.name := by
        rintro rfl
        have hs := (h.admitted a (hrest ▸ by simp)).2.1
        rw [hactive] at hs
        exact hs (by simp)
      rw [h.begun earlier a later hrest, hdefaults, cameTo_cons_of_ne hne]

end Inherits

def Task.Entered (s : State σ) : Task → Prop
  | .suite _ _ => True
  | .steps name _ _ _ => name ∈ s.active

theorem idle_carryOut (m : Moment σ) : Inherits m.before [] ((e.carryOut m).run m.before).2 := by
  obtain ⟨runner, notices, screen, h⟩ := run_carryOut e m
  rw [h]
  exact .idle rfl rfl fun _ _ => rfl

theorem Performs.inherits {task : Task} {s s' : State σ} {ds : List (Deed σ)}
    {result : Except Fault SuiteResult} (h : Performs e task s ds result s')
    (hs : task.Entered s) : Inherits s (task.activations s ds) s' := by
  -- The defaults of active suites are left open here: they are known when the suite is left.
  induction h with
  | refused hready =>
    rw [Task.activations, Activation.of_refused (not_admits_of_ready hready)]
    obtain ⟨⟨notices, rfl⟩, -⟩ := ready_error hready
    exact .idle rfl rfl fun _ _ => rfl
  | @untitled name parent suite f s s₁ s₂ hready htitle =>
    obtain ⟨rfl, ha⟩ := admits_of_ready hready
    obtain ⟨screen, rfl⟩ := title_eq htitle
    rw [Task.activations, Activation.of_admitted ha]
    exact .visit ha (.refl _) (declared_enter name s₁) rfl
      (Plan.defaults_openSchema _ name) (Plan.defaults_openSchema _ name name)
  | @visited name parent suite ds result s s₁ s₂ s₃ hready htitle hsteps ih =>
    obtain ⟨rfl, ha⟩ := admits_of_ready hready
    obtain ⟨screen, rfl⟩ := title_eq htitle
    rw [Task.activations, Activation.of_admitted ha]
    have hname : name ∈ (enter name s₁).active := List.mem_append_right _ List.mem_cons_self
    have hdeclared : (enter name s₁).plan.declared = s₁.plan.declared := declared_enter name s₁
    have hdefaults : ∀ n, (enter name s₁).plan.defaults n = s₁.plan.defaults n :=
      Plan.defaults_openSchema _ name
    obtain ⟨-, hleft⟩ := (frame_defaults e).of_performs hsteps
    have hn : name ∈ (enter name s₁).plan.suiteNames :=
      Plan.suiteNames_of_declared hdeclared ▸ Plan.mem_suiteNames_of_runnable? ha.1
    have hown := hleft name hn
    rw [Deed.mending_of_own (hsteps.mending_own hname)] at hown
    exact .visit ha (ih hname) hdeclared rfl hdefaults (hown.trans (by rw [← hdefaults name]; rfl))
  | done => exact .refl _
  | raised href hbelow hf ih =>
    rw [Task.activations, Deed.begunOf_reached]
    exact ih trivial
  | handed href hbelow hy hx ih =>
    rw [Task.activations, Deed.begunOf_reached]
    exact ih trivial
  | @resumed name parent ts x x' y below ds result result' t s s₁ s' href hbelow hy hx hrest ihb
      ihr =>
    rw [Task.activations, Deed.begunOf_cons, Deed.begunOf_reached]
    have hb := ihb trivial
    have hname : name ∈ s₁.active := hb.active ▸ hs
    exact hb.trans (ihr hname)
  | @defaults name parent ts x ds result t s s' href hinit hrest ih =>
    have hm : Inherits s [] (Moment.mended ⟨s, name, parent, t⟩) := by
      refine .idle (Plan.declared_updateSuite _ name fun _ => rfl) rfl fun n hn => ?_
      exact Plan.defaults_updateSuite_of_ne _ _ fun hne => hn (hne ▸ hs)
    exact hm.trans (ih hs)
  | @failed name parent ts x f t s s' href hinit hrun =>
    have hc := idle_carryOut (e := e) ⟨s, name, parent, t⟩
    rw [hrun] at hc
    exact hc
  | @cut name parent x r shown result t ts s s₁ s' href hinit hrun hcut hshown hresult =>
    have hc := idle_carryOut (e := e) ⟨s, name, parent, t⟩
    rw [hrun] at hc
    have hs' : Inherits s₁ [] s' := by
      rw [run_display] at hshown
      split at hshown <;> cases hshown <;> exact .idle rfl rfl fun _ _ => rfl
    exact hc.trans hs'
  | @executed name parent ts x r ds result t s s₁ s' href hinit hrun hcut hrest ih =>
    have hc := idle_carryOut (e := e) ⟨s, name, parent, t⟩
    rw [hrun] at hc
    have hname : name ∈ s₁.active := hc.active ▸ hs
    exact hc.trans (ih hname)

def activations (tops : List (Activation σ)) : List (Activation σ) :=
  tops.flatMap fun t => (Task.suite t.name t.parent).activations t.before t.deeds

theorem PerformsAll.inherits {names : List String} {s s' : State σ} {visits : List (Visit σ)}
    {result : Except Fault (List SuiteResult)} (h : PerformsAll e names s visits result s') :
    Inherits s (activations (visits.map Visit.alone)) s' := by
  induction h with
  | done => exact .refl _
  | @raised name names ds f s s' hrun =>
    rw [activations, List.map_cons, List.map_nil, List.flatMap_singleton]
    exact hrun.inherits trivial
  | @next name names ds x visits result s s₁ s' hrun hrest ih =>
    rw [activations, List.map_cons, List.flatMap_cons]
    have hcounted : Inherits s₁ [] (counted x s₁) := .idle rfl rfl fun _ _ => rfl
    exact (hrun.inherits trivial).trans (hcounted.trans ih)

theorem Session.inherits {requests : List Request} {s s' : State σ} {tops : List (Activation σ)}
    (h : Session e requests s tops s') : Inherits s (activations tops) s' := by
  induction h with
  | done => exact .refl _
  | run hrun hrest ih => exact (hrun.inherits trivial).trans ih
  | plan hrun hrest ih =>
    rw [activations, List.flatMap_append]
    exact hrun.inherits.trans ih

/-- What a step meets that an activation comes to after these others of its suite, where `earlier`
are the activations begun before: the suite as the plan declares it, with the defaults that these have
left, mended by the steps of the suite above this one. -/
structure Meets (p : Plan) (earlier : List (Activation σ)) (a : Activation σ)
    (above : List (Deed σ)) (d : Deed σ) : Prop where
  suite : d.moment.suite = a.name
  parent : d.moment.parent = a.parent
  step : (p.suite a.name).tests[above.length]? = some d.moment.step
  declared : d.moment.now.declared = (p.suite a.name).declared
  defaults : d.moment.now.defaults =
    ((p.defaults a.name).mended (cameTo a.name earlier)).mended
      ((p.suite a.name).tests.take above.length)

theorem Performs.meets {name : String} {parent : Option Test} {s s' : State σ}
    {above below : List (Deed σ)} {d : Deed σ} {result : Except Fault SuiteResult}
    (h : Performs e (.suite name parent) s (above ++ d :: below) result s') :
    Meets s.plan [] ⟨name, parent, s, above ++ d :: below⟩ above d := by
  obtain ⟨hmoments, hprefix⟩ := h.leads
  obtain ⟨hsuite, hparent⟩ := hmoments d (by simp)
  obtain ⟨rest, hrest⟩ := hprefix
  have habove : (s.plan.suite name).tests.take above.length = above.map (·.moment.step) := by
    rw [← hrest, List.map_append, List.append_assoc, ← List.length_map (·.moment.step),
      List.take_left]
  have hstep : (s.plan.suite name).tests[above.length]? = some d.moment.step := by
    rw [← hrest, List.map_append, List.append_assoc, ← List.length_map (·.moment.step),
      List.getElem?_append_right (Nat.le_refl _), Nat.sub_self]
    rfl
  generalize hds : above ++ d :: below = ds at h hrest
  cases h with
  | refused hready => simp at hds
  | untitled hready htitle => simp at hds
  | @visited _ _ suite _ _ _ s₁ s₂ s₃ hready htitle hsteps =>
    obtain ⟨hs, ha⟩ := admits_of_ready hready
    rw [hs] at htitle
    obtain ⟨screen, rfl⟩ := title_eq htitle
    subst hds
    have hname : name ∈ (enter name s).active := List.mem_append_right _ List.mem_cons_self
    have hown := hsteps.mending_own hname
    have hdeclared := declared_enter name s
    obtain ⟨-, -, ht⟩ := (frame_trail e).passage.before_of_own hsteps
    obtain ⟨-, -, hd⟩ := (frame_defaults e).passage.before_of_own hsteps
    have hn : name ∈ (enter name s).plan.suiteNames :=
      Plan.suiteNames_of_declared hdeclared ▸ Plan.mem_suiteNames_of_runnable? ha.1
    have hdefaults : d.moment.before.plan.defaults name =
        (Deed.mending name above).foldl Defaults.mend ((enter name s).plan.defaults name) :=
      hd.2 name hn
    have hopen : (enter name s).plan.defaults name = s.plan.defaults name :=
      Plan.defaults_openSchema _ name name
    have habove' := Deed.mending_of_own fun d hd => hown d (List.mem_append_left _ hd)
    rw [habove', hopen] at hdefaults
    constructor
    · exact hsuite
    · exact hparent
    · exact hstep
    · have hd := Plan.declared_suite (ht.declared.trans hdeclared)
        (Plan.suiteNames_of_declared (ht.declared.trans hdeclared) ▸
          Plan.mem_suiteNames_of_runnable? ha.1)
      rw [Moment.now, hsuite]
      exact hd
    · rw [Moment.now, hsuite]
      exact hdefaults.trans (by rw [← habove]; rfl)

/-- The defaults that each step of a suite meets, whatever an engine is asked for. They are those
that the suite was declared with, mended by the steps that the earlier activations of the suite have come
to, one activation after the other, and then by those above the step. Nothing else changes them. If
no earlier activation has come to a step that holds defaults, a step meets those of the steps above
it and no others. -/
theorem step_defaults_exact (e : Engine σ) (requests : List Request) (s : State σ) :
    ∃ tops s', Session e requests s tops s' ∧ s' = requests.foldl e.answer s ∧
      (∀ t ∈ tops, ∀ d ∈ Deed.allOf t.deeds, ∃ a ∈ activations tops, d ∈ a.deeds) ∧
      (∀ a ∈ activations tops,
        a.deeds.map (·.moment.step) <+: (s.plan.suite a.name).tests ∧
        ∀ m x, .executed m x ∈ a.deeds → x = e.effect m) ∧
      ∀ earlier a later, activations tops = earlier ++ a :: later →
        ∀ above d below, a.deeds = above ++ d :: below →
          Meets s.plan earlier a above d ∧
          ((∀ t ∈ cameTo a.name earlier, t.isInit = false) →
            d.moment.now.defaults =
              (s.plan.defaults a.name).mended ((s.plan.suite a.name).tests.take above.length)) := by
  obtain ⟨tops, h⟩ := session_answer e requests s
  have hinherits := h.inherits
  have hperformed : ∀ a ∈ activations tops, ∃ result s',
      Performs e (.suite a.name a.parent) a.before a.deeds result s' := by
    intro a ha
    obtain ⟨t, ht, ha⟩ := List.mem_flatMap.1 ha
    obtain ⟨result, s', hp⟩ := h.follows.performed t ht
    exact (hp.activation a ha).2
  have htests : ∀ a ∈ activations tops,
      (a.before.plan.suite a.name).tests = (s.plan.suite a.name).tests := fun a ha =>
    Plan.tests_of_declared (hinherits.admitted a ha).2.2 a.name
  refine ⟨tops, _, h, rfl, fun t ht d hd => ?_, fun a ha => ?_, ?_⟩
  · obtain ⟨result, s', hp⟩ := h.follows.performed t ht
    obtain ⟨a, ha, hda⟩ := hp.mem_activation d hd
    exact ⟨a, List.mem_flatMap.2 ⟨t, ht, ha⟩, hda⟩
  · obtain ⟨result, s', hp⟩ := hperformed a ha
    exact ⟨htests a ha ▸ hp.leads.steps, fun m x hm => hp.effect_eq (Deed.mem_allOf hm)⟩
  · intro earlier a later hsplit above d below hds
    have ha : a ∈ activations tops := hsplit ▸ by simp
    obtain ⟨result, s', hp⟩ := hperformed a ha
    rw [hds] at hp
    have hm := hp.meets
    have hbegun := hinherits.begun earlier a later hsplit
    have hdeclared : (a.before.plan.suite a.name).declared = (s.plan.suite a.name).declared :=
      (Plan.declared_suite (hinherits.admitted a ha).2.2.symm (hinherits.admitted a ha).1).symm
    have hdefaults : d.moment.now.defaults =
        ((s.plan.defaults a.name).mended (cameTo a.name earlier)).mended
          ((s.plan.suite a.name).tests.take above.length) := by
      rw [hm.defaults, ← htests a ha, ← hbegun]
      rfl
    refine ⟨⟨hm.suite, hm.parent, ?_, hm.declared.trans hdeclared, hdefaults⟩, fun hinits => ?_⟩
    · rw [← htests a ha]
      exact hm.step
    · rw [hdefaults, Defaults.mended_eq_self hinits]

theorem Performs.head_executed {name : String} {parent : Option Test} {s s' : State σ}
    {ds : List (Deed σ)} {result : Except Fault SuiteResult} {t : Test} {ts : List Test}
    (h : Performs e (.suite name parent) s ds result s') (ha : s.Admits name)
    (ht : (s.plan.suite name).tests = t :: ts) (href : t.ref = "") (hinit : t.name ≠ initName) :
    ∃ m x below, ds = .executed m x :: below := by
  cases h with
  | refused hready => exact (not_admits_of_ready hready ha).elim
  | untitled hready htitle =>
    obtain ⟨text, htext⟩ := Screen.exists_suiteStart e.console name (parent.map (·.name))
    rw [display_error htitle] at htext
    cases htext
  | visited hready htitle hsteps =>
    obtain ⟨rfl, hrun, -⟩ := ready_ok hready
    rw [Plan.suite_of_runnable? hrun] at ht
    rw [ht] at hsteps
    cases hsteps with
    | raised href' | handed href' | resumed href' => exact (href' href).elim
    | defaults href' hinit' => exact (hinit hinit').elim
    | failed | cut => exact ⟨_, _, [], rfl⟩
    | executed => exact ⟨_, _, _, rfl⟩

/-- A suite that becomes strict after its only request. -/
def strictAtLast : Plan :=
  { (default : Plan) with
    suites := .ofList [("pets", (default : Plan).createSuite "pets"
      [{ Test.empty with name := "show", method := "get", path := "/pets" },
        { Test.empty with name := initName, strict := true }])] }

theorem strictAtLast_again {tops : List (Activation Unit)} {s' : State Unit}
    (h : Session ⟨placing, .replace, .narrow⟩ [.run "pets" none, .run "pets" none]
      (.start strictAtLast ()) tops s') :
    ∃ earlier a later m x below, activations tops = earlier ++ a :: later ∧ a.name = "pets" ∧
      a.deeds = .executed m x :: below ∧ m.now.strict = true := by
  cases h with
  | @run _ _ ds' _ _ _ _ s₁ _ hrun hrest =>
    cases hrest with
    | @run _ _ ds _ _ _ _ _ _ hagain hdone =>
      cases hdone
      have hs₁ : s₁ = ((Engine.run ⟨placing, .replace, .narrow⟩ "pets" none).run
          (.start strictAtLast ())).2 := by rw [hrun.run_eq]
      have ha : s₁.Admits "pets" := by
        rw [hs₁]
        decide +kernel
      have hstrict : (s₁.plan.defaults "pets").strict = true := by
        rw [hs₁]
        decide +kernel
      have hdeclared : s₁.plan.declared = strictAtLast.declared := hrun.trail.declared
      obtain ⟨m, x, below, rfl⟩ := hagain.head_executed ha (Plan.tests_of_declared hdeclared "pets")
        rfl (by decide)
      rw [← List.nil_append (.executed m x :: below)] at hagain
      have hnow : m.now.defaults = s₁.plan.defaults "pets" := hagain.meets.defaults
      refine ⟨(Task.suite "pets" none).activations (.start strictAtLast ()) ds',
        ⟨"pets", none, s₁, .executed m x :: below⟩, Deed.begunOf (.executed m x :: below), m, x,
        below, ?_, rfl, rfl, (congrArg (·.strict) hnow).trans hstrict⟩
      rw [activations, List.flatMap_cons, List.flatMap_singleton, Task.activations.eq_1 s₁,
        Activation.of_admitted ha, List.singleton_append]

/-- A step is not sure to meet the defaults of the steps above it alone. -/
theorem step_defaults_carried_over :
    ¬ ∀ (e : Engine Unit) (requests : List Request) (s s' : State Unit)
      (tops : List (Activation Unit)), s.active = [] → Session e requests s tops s' →
      ∀ a ∈ activations tops, ∀ above m x below, a.deeds = above ++ .executed m x :: below →
        m.now.defaults =
          (s.plan.defaults a.name).mended ((s.plan.suite a.name).tests.take above.length) := by
  intro h
  obtain ⟨tops, hsession⟩ := session_answer ⟨placing, .replace, .narrow⟩
    [.run "pets" none, .run "pets" none] (.start strictAtLast ())
  obtain ⟨earlier, a, later, m, x, below, hsplit, hname, hds, hstrict⟩ :=
    strictAtLast_again hsession
  have hm := h _ _ _ _ _ rfl hsession a (hsplit ▸ by simp) [] m x below hds
  rw [hname] at hm
  have hlax : m.now.strict = false := congrArg (·.strict) hm
  rw [hstrict] at hlax
  cases hlax

/-- The request of a suite that becomes strict after it meets, in the second run, the strict
defaults that the first run has left. -/
theorem step_defaults_exact_again :
    ∃ tops s' earlier a later m x below,
      Session ⟨placing, .replace, .narrow⟩ [.run "pets" none, .run "pets" none]
        (.start strictAtLast ()) tops s' ∧
      activations tops = earlier ++ a :: later ∧ a.deeds = [] ++ .executed m x :: below ∧
      Meets strictAtLast earlier a [] (.executed m x) ∧ m.now.strict = true ∧
      (strictAtLast.defaults a.name).strict = false := by
  obtain ⟨tops, s', h, -, -, -, hmeets⟩ := step_defaults_exact ⟨placing, .replace, .narrow⟩
    [.run "pets" none, .run "pets" none] (.start strictAtLast ())
  obtain ⟨earlier, a, later, m, x, below, hsplit, hname, hds, hstrict⟩ := strictAtLast_again h
  obtain ⟨hm, -⟩ := hmeets earlier a later hsplit [] (.executed m x) below hds
  refine ⟨tops, s', earlier, a, later, m, x, below, h, hsplit, hds, hm, hstrict, ?_⟩
  rw [hname]
  rfl

end Engine

end Runbook
