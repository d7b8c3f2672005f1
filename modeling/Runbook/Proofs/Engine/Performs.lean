import Runbook.Proofs.Engine.Deed
import Runbook.Proofs.Plan

namespace Runbook

/-- How a suite goes on after a step that has reached another, unless it ends with that one's
result. -/
def SuiteResult.resume (mode : NestedCounts) (x below : SuiteResult) : Option SuiteResult :=
  match mode with
  | .replace => if below.error.isSome then none else some x
  | .accumulate => some (x.merge below)

namespace Engine

variable {σ : Type}

/-- That there is no such suite is a result for the step that reaches it. -/
def settled : Except Fault SuiteResult → Except Fault SuiteResult
  | .error (.suiteNotFound name) => .ok ⟨.zero, some (.suiteNotFound name)⟩
  | result => result

/-- A suite to run, or the steps that are left of one. -/
inductive Task where
  | suite (name : String) (parent : Option Test)
  | steps (name : String) (parent : Option Test) (ts : List Test) (x : SuiteResult)

def title (e : Engine σ) (name : String) (parent : Option Test) : Act σ Unit :=
  display (Screen.suiteStart e.console name (parent.map (·.name)))

/-- `Performs e task s ds result s'`: from `s` on the engine does `ds` for the task, which comes to
this result in `s'`. -/
inductive Performs (e : Engine σ) :
    Task → State σ → List (Deed σ) → Except Fault SuiteResult → State σ → Prop where
  | refused {name parent f} {s s' : State σ} (hready : (ready name).run s = (.error f, s')) :
      Performs e (.suite name parent) s [] (.error f) s'
  | untitled {name parent suite f} {s s₁ s₂ : State σ}
      (hready : (ready name).run s = (.ok suite, s₁))
      (htitle : (e.title name parent).run (enter name s₁) = (.error f, s₂)) :
      Performs e (.suite name parent) s [] (.error f) (leave name s₂)
  | visited {name parent suite ds result} {s s₁ s₂ s₃ : State σ}
      (hready : (ready name).run s = (.ok suite, s₁))
      (htitle : (e.title name parent).run (enter name s₁) = (.ok (), s₂))
      (hsteps : Performs e (.steps name parent suite.tests (.start suite.tests.length)) s₂ ds
        result s₃) :
      Performs e (.suite name parent) s ds result (leave name s₃)
  | done {name parent x s} : Performs e (.steps name parent [] x) s [] (.ok x) s
  | raised {name parent ts x below result f} {t : Test} {s s' : State σ}
      (href : t.ref ≠ "")
      (hbelow : Performs e (.suite t.ref (some (Moment.forwarded ⟨s, name, parent, t⟩))) s below
        result s')
      (hf : settled result = .error f) :
      Performs e (.steps name parent (t :: ts) x) s
        [.reached ⟨s, name, parent, t⟩ below (.error f)] (.error f) s'
  | handed {name parent ts x y below result} {t : Test} {s s' : State σ}
      (href : t.ref ≠ "")
      (hbelow : Performs e (.suite t.ref (some (Moment.forwarded ⟨s, name, parent, t⟩))) s below
        result s')
      (hy : settled result = .ok y) (hx : x.resume e.nested y = none) :
      Performs e (.steps name parent (t :: ts) x) s
        [.reached ⟨s, name, parent, t⟩ below (.ok y)] (.ok y) s'
  | resumed {name parent ts x x' y below ds result result'} {t : Test} {s s₁ s' : State σ}
      (href : t.ref ≠ "")
      (hbelow : Performs e (.suite t.ref (some (Moment.forwarded ⟨s, name, parent, t⟩))) s below
        result s₁)
      (hy : settled result = .ok y) (hx : x.resume e.nested y = some x')
      (hrest : Performs e (.steps name parent ts x') s₁ ds result' s') :
      Performs e (.steps name parent (t :: ts) x) s
        (.reached ⟨s, name, parent, t⟩ below (.ok y) :: ds) result' s'
  | defaults {name parent ts x ds result} {t : Test} {s s' : State σ}
      (href : t.ref = "") (hinit : t.name = initName)
      (hrest : Performs e (.steps name parent ts x) (Moment.mended ⟨s, name, parent, t⟩) ds
        result s') :
      Performs e (.steps name parent (t :: ts) x) s (.defaults ⟨s, name, parent, t⟩ :: ds) result s'
  | failed {name parent ts x f} {t : Test} {s s' : State σ}
      (href : t.ref = "") (hinit : t.name ≠ initName)
      (hrun : (e.carryOut ⟨s, name, parent, t⟩).run s = (.error f, s')) :
      Performs e (.steps name parent (t :: ts) x) s
        [.executed ⟨s, name, parent, t⟩ (e.effect ⟨s, name, parent, t⟩)] (.error f) s'
  | cut {name parent x r shown result} {t : Test} {ts : List Test} {s s₁ s' : State σ}
      (href : t.ref = "") (hinit : t.name ≠ initName)
      (hrun : (e.carryOut ⟨s, name, parent, t⟩).run s = (.ok r, s₁)) (hcut : failsRest r = true)
      (hshown : (display (Screen.skipping e.console ts.length)).run s₁ = (shown, s'))
      (hresult : result = shown.map fun _ => (x.add r).skip ts.length) :
      Performs e (.steps name parent (t :: ts) x) s
        [.executed ⟨s, name, parent, t⟩ (e.effect ⟨s, name, parent, t⟩)] result s'
  | executed {name parent ts x r ds result} {t : Test} {s s₁ s' : State σ}
      (href : t.ref = "") (hinit : t.name ≠ initName)
      (hrun : (e.carryOut ⟨s, name, parent, t⟩).run s = (.ok r, s₁)) (hcut : failsRest r = false)
      (hrest : Performs e (.steps name parent ts (x.add r)) s₁ ds result s') :
      Performs e (.steps name parent (t :: ts) x) s
        (.executed ⟨s, name, parent, t⟩ (e.effect ⟨s, name, parent, t⟩) :: ds) result s'

/-- The deeds, the result and the state they come to are those of the task and the state. -/
theorem Performs.unique {e : Engine σ} {task : Task} {s s' s'' : State σ} {ds ds' : List (Deed σ)}
    {result result' : Except Fault SuiteResult} (h : Performs e task s ds result s')
    (h' : Performs e task s ds' result' s'') : ds = ds' ∧ result = result' ∧ s' = s'' := by
  -- The premises of a rule leave no other one: whether the suite can be entered and its title be shown,
  -- what kind of step it is, and what comes of it.
  induction h generalizing ds' result' s'' with
  | refused hready =>
    cases h' with
    | refused hready' =>
      cases hready.symm.trans hready'
      exact ⟨rfl, rfl, rfl⟩
    | untitled hready' | visited hready' => cases hready.symm.trans hready'
  | untitled hready htitle =>
    cases h' with
    | refused hready' => cases hready.symm.trans hready'
    | untitled hready' htitle' =>
      cases hready.symm.trans hready'
      cases htitle.symm.trans htitle'
      exact ⟨rfl, rfl, rfl⟩
    | visited hready' htitle' =>
      cases hready.symm.trans hready'
      cases htitle.symm.trans htitle'
  | visited hready htitle hsteps ih =>
    cases h' with
    | refused hready' => cases hready.symm.trans hready'
    | untitled hready' htitle' =>
      cases hready.symm.trans hready'
      cases htitle.symm.trans htitle'
    | visited hready' htitle' hsteps' =>
      cases hready.symm.trans hready'
      cases htitle.symm.trans htitle'
      obtain ⟨rfl, rfl, rfl⟩ := ih hsteps'
      exact ⟨rfl, rfl, rfl⟩
  | done =>
    cases h'
    exact ⟨rfl, rfl, rfl⟩
  | raised href hbelow hf ih =>
    cases h' with
    | raised href' hbelow' hf' =>
      obtain ⟨rfl, rfl, rfl⟩ := ih hbelow'
      cases hf.symm.trans hf'
      exact ⟨rfl, rfl, rfl⟩
    | handed href' hbelow' hy' | resumed href' hbelow' hy' =>
      obtain ⟨-, rfl, -⟩ := ih hbelow'
      cases hf.symm.trans hy'
    | defaults href' | failed href' | cut href' | executed href' => exact (href href').elim
  | handed href hbelow hy hx ih =>
    cases h' with
    | raised href' hbelow' hf' =>
      obtain ⟨-, rfl, -⟩ := ih hbelow'
      cases hy.symm.trans hf'
    | handed href' hbelow' hy' hx' =>
      obtain ⟨rfl, rfl, rfl⟩ := ih hbelow'
      cases hy.symm.trans hy'
      exact ⟨rfl, rfl, rfl⟩
    | resumed href' hbelow' hy' hx' =>
      obtain ⟨-, rfl, -⟩ := ih hbelow'
      cases hy.symm.trans hy'
      cases hx.symm.trans hx'
    | defaults href' | failed href' | cut href' | executed href' => exact (href href').elim
  | resumed href hbelow hy hx hrest ihb ihr =>
    cases h' with
    | raised href' hbelow' hf' =>
      obtain ⟨-, rfl, -⟩ := ihb hbelow'
      cases hy.symm.trans hf'
    | handed href' hbelow' hy' hx' =>
      obtain ⟨-, rfl, -⟩ := ihb hbelow'
      cases hy.symm.trans hy'
      cases hx.symm.trans hx'
    | resumed href' hbelow' hy' hx' hrest' =>
      obtain ⟨rfl, rfl, rfl⟩ := ihb hbelow'
      cases hy.symm.trans hy'
      cases hx.symm.trans hx'
      obtain ⟨rfl, rfl, rfl⟩ := ihr hrest'
      exact ⟨rfl, rfl, rfl⟩
    | defaults href' | failed href' | cut href' | executed href' => exact (href href').elim
  | defaults href hinit hrest ih =>
    cases h' with
    | raised href' | handed href' | resumed href' => exact (href' href).elim
    | defaults href' hinit' hrest' =>
      obtain ⟨rfl, rfl, rfl⟩ := ih hrest'
      exact ⟨rfl, rfl, rfl⟩
    | failed href' hinit' | cut href' hinit' | executed href' hinit' => exact (hinit' hinit).elim
  | failed href hinit hrun =>
    cases h' with
    | raised href' | handed href' | resumed href' => exact (href' href).elim
    | defaults href' hinit' => exact (hinit hinit').elim
    | failed href' hinit' hrun' =>
      cases hrun.symm.trans hrun'
      exact ⟨rfl, rfl, rfl⟩
    | cut href' hinit' hrun' | executed href' hinit' hrun' => cases hrun.symm.trans hrun'
  | cut href hinit hrun hcut hshown hresult =>
    cases h' with
    | raised href' | handed href' | resumed href' => exact (href' href).elim
    | defaults href' hinit' => exact (hinit hinit').elim
    | failed href' hinit' hrun' => cases hrun.symm.trans hrun'
    | cut href' hinit' hrun' hcut' hshown' hresult' =>
      cases hrun.symm.trans hrun'
      cases hshown.symm.trans hshown'
      exact ⟨rfl, hresult.trans hresult'.symm, rfl⟩
    | executed href' hinit' hrun' hcut' =>
      cases hrun.symm.trans hrun'
      cases hcut.symm.trans hcut'
  | executed href hinit hrun hcut hrest ih =>
    cases h' with
    | raised href' | handed href' | resumed href' => exact (href' href).elim
    | defaults href' hinit' => exact (hinit hinit').elim
    | failed href' hinit' hrun' => cases hrun.symm.trans hrun'
    | cut href' hinit' hrun' hcut' =>
      cases hrun.symm.trans hrun'
      cases hcut.symm.trans hcut'
    | executed href' hinit' hrun' hcut' hrest' =>
      cases hrun.symm.trans hrun'
      obtain ⟨rfl, rfl, rfl⟩ := ih hrest'
      exact ⟨rfl, rfl, rfl⟩

theorem title_eq {e : Engine σ} {name : String} {parent : Option Test} {s s' : State σ} {r : Except Fault Unit}
    (h : (e.title name parent).run s = (r, s')) : ∃ screen, s' = { s with screen := screen } := by
  unfold title at h
  rw [run_display] at h
  split at h <;> cases h <;> exact ⟨_, rfl⟩

theorem ready_ok {name : String} {s s' : State σ} {suite : Suite}
    (h : (ready name).run s = (.ok suite, s')) :
    s' = s ∧ s.plan.runnable? name = some suite ∧ name ∉ s.active := by
  rw [run_ready] at h
  split at h
  · cases h
  · rename_i hs
    split at h
    · cases h
    · rename_i hn
      cases h
      exact ⟨rfl, hs, by simpa using hn⟩

theorem ready_error {name : String} {s s' : State σ} {f : Fault}
    (h : (ready name).run s = (.error f, s')) :
    (∃ notices, s' = { s with notices := notices }) ∧
      (s.plan.runnable? name = none ∧ f = .suiteNotFound name ∨
        (s.plan.runnable? name).isSome ∧ name ∈ s.active ∧
          f = .recursion (s.active ++ [name])) := by
  rw [run_ready] at h
  split at h
  · rename_i hs
    cases h
    exact ⟨⟨_, rfl⟩, .inl ⟨hs, rfl⟩⟩
  · rename_i hs
    split at h
    · rename_i hn
      cases h
      exact ⟨⟨_, rfl⟩, .inr ⟨by simp [hs], by simpa using hn, rfl⟩⟩
    · cases h

/-- A relation between what an engine has before, its deeds and what it has after them that all it
does keeps, where a step that is executed is taken as a whole. -/
structure Passage (e : Engine σ) (R : State σ → List (Deed σ) → State σ → Prop) : Prop where
  trans {s s₁ s' : State σ} {ds ds' : List (Deed σ)} : R s ds s₁ → R s₁ ds' s' → R s (ds ++ ds') s'
  told (s : State σ) (notices : List Notice) (screen : String) :
    R s [] { s with notices := notices, screen := screen }
  visited {name : String} {s s' : State σ} {ds : List (Deed σ)} :
    (s.plan.runnable? name).isSome → name ∉ s.active → R (enter name s) ds s' →
      R s ds (leave name s')
  reached (m : Moment σ) (result : Except Fault SuiteResult) {below : List (Deed σ)}
    {s' : State σ} : R m.before below s' → R m.before [.reached m below result] s'
  defaults (m : Moment σ) : R m.before [.defaults m] m.mended
  carriedOut (m : Moment σ) :
    R m.before [.executed m (e.effect m)] ((e.carryOut m).run m.before).2

namespace Passage

variable {e : Engine σ} {R : State σ → List (Deed σ) → State σ → Prop}

theorem refl (hR : Passage e R) (s : State σ) : R s [] s := hR.told s s.notices s.screen

theorem of_performs (hR : Passage e R) {task : Task} {s s' : State σ} {ds : List (Deed σ)}
    {result : Except Fault SuiteResult} (h : Performs e task s ds result s') : R s ds s' := by
  induction h with
  | refused hready =>
    obtain ⟨⟨notices, rfl⟩, -⟩ := ready_error hready
    exact hR.told _ _ _
  | @untitled name parent suite f s s₁ s₂ hready htitle =>
    obtain ⟨rfl, hs, hn⟩ := ready_ok hready
    obtain ⟨screen, rfl⟩ := title_eq htitle
    exact hR.visited (by simp [hs]) hn (hR.told _ _ _)
  | @visited name parent suite ds result s s₁ s₂ s₃ hready htitle hsteps ih =>
    obtain ⟨rfl, hs, hn⟩ := ready_ok hready
    obtain ⟨screen, rfl⟩ := title_eq htitle
    exact hR.visited (by simp [hs]) hn (hR.trans (hR.told _ _ _) ih)
  | done => exact hR.refl _
  | raised href hbelow hf ih => exact hR.reached ⟨_, _, _, _⟩ _ ih
  | handed href hbelow hy hx ih => exact hR.reached ⟨_, _, _, _⟩ _ ih
  | resumed href hbelow hy hx hrest ihb ihr =>
    exact hR.trans (hR.reached ⟨_, _, _, _⟩ _ ihb) ihr
  | defaults href hinit hrest ih => exact hR.trans (hR.defaults _) ih
  | @failed name parent ts x f t s s' href hinit hrun =>
    have hx := hR.carriedOut ⟨s, name, parent, t⟩
    rwa [hrun] at hx
  | @cut name parent x r shown result t ts s s₁ s' href hinit hrun hcut hshown hresult =>
    have hx := hR.carriedOut ⟨s, name, parent, t⟩
    rw [hrun] at hx
    have hs : s' = { s₁ with screen := s'.screen } := by
      rw [run_display] at hshown
      split at hshown <;> cases hshown <;> rfl
    rw [hs]
    exact hR.trans hx (hR.told s₁ s₁.notices s'.screen)
  | @executed name parent ts x r ds result t s s₁ s' href hinit hrun hcut hrest ih =>
    have hx := hR.carriedOut ⟨s, name, parent, t⟩
    rw [hrun] at hx
    exact hR.trans hx ih

theorem before_of_own (hR : Passage e R) {name : String} {parent : Option Test} {ts : List Test}
    {x : SuiteResult} {s s' : State σ} {ds₁ ds₂ : List (Deed σ)} {d : Deed σ}
    {result : Except Fault SuiteResult}
    (h : Performs e (.steps name parent ts x) s (ds₁ ++ d :: ds₂) result s') :
    d.moment.suite = name ∧ d.moment.parent = parent ∧ R s ds₁ d.moment.before := by
  generalize hds : ds₁ ++ d :: ds₂ = ds at h
  -- Each rule adds one step in front: it is `d`, or the first of those before `d`.
  induction ts generalizing x s ds ds₁ with
  | nil =>
    cases h
    simp at hds
  | cons t ts ih =>
    cases ds₁ with
    | nil =>
      cases hds
      cases h <;> exact ⟨rfl, rfl, hR.refl s⟩
    | cons d₁ ds₁ =>
      rw [List.cons_append] at hds
      cases h with
      | raised | handed | failed | cut => simp at hds
      | resumed href hbelow hy hx hrest =>
        obtain ⟨rfl, rfl⟩ := List.cons.inj hds
        obtain ⟨hn, hp, hr⟩ := ih _ rfl hrest
        exact ⟨hn, hp, hR.trans (hR.reached ⟨s, name, parent, t⟩ _ (hR.of_performs hbelow)) hr⟩
      | defaults href hinit hrest =>
        obtain ⟨rfl, rfl⟩ := List.cons.inj hds
        obtain ⟨hn, hp, hr⟩ := ih _ rfl hrest
        exact ⟨hn, hp, hR.trans (hR.defaults ⟨s, name, parent, t⟩) hr⟩
      | executed href hinit hrun hcut hrest =>
        obtain ⟨rfl, rfl⟩ := List.cons.inj hds
        obtain ⟨hn, hp, hr⟩ := ih _ rfl hrest
        have hx := hR.carriedOut ⟨s, name, parent, t⟩
        rw [hrun] at hx
        exact ⟨hn, hp, hR.trans hx hr⟩

end Passage

/-- A relation between what an engine has before, its deeds and what it has after them that all it
does keeps. -/
structure Frame (e : Engine σ) (R : State σ → List (Deed σ) → State σ → Prop) : Prop where
  trans {s s₁ s' : State σ} {ds ds' : List (Deed σ)} : R s ds s₁ → R s₁ ds' s' → R s (ds ++ ds') s'
  told (s : State σ) (notices : List Notice) (screen : String) :
    R s [] { s with notices := notices, screen := screen }
  visited {name : String} {s s' : State σ} {ds : List (Deed σ)} :
    (s.plan.runnable? name).isSome → name ∉ s.active → R (enter name s) ds s' →
      R s ds (leave name s')
  reached (m : Moment σ) (result : Except Fault SuiteResult) {below : List (Deed σ)}
    {s' : State σ} : R m.before below s' → R m.before [.reached m below result] s'
  defaults (m : Moment σ) : R m.before [.defaults m] m.mended
  executed (m : Moment σ) (runner : σ) (notices : List Notice) (screen : String) :
    R m.before [.executed m (e.effect m)]
      { m.before with
        plan := (e.effect m).record m.before.plan
        history := ⟨m.before.history.runs ++ (e.effect m).logged⟩
        runner := runner
        notices := notices
        screen := screen }

namespace Frame

variable {e : Engine σ} {R : State σ → List (Deed σ) → State σ → Prop}

theorem of_carryOut (hR : Frame e R) (m : Moment σ) :
    R m.before [.executed m (e.effect m)] ((e.carryOut m).run m.before).2 := by
  obtain ⟨runner, notices, screen, h⟩ := run_carryOut e m
  rw [h]
  exact hR.executed m runner notices screen

theorem passage (hR : Frame e R) : Passage e R where
  trans := hR.trans
  told := hR.told
  visited := hR.visited
  reached := hR.reached
  defaults := hR.defaults
  carriedOut := hR.of_carryOut

theorem of_performs (hR : Frame e R) {task : Task} {s s' : State σ} {ds : List (Deed σ)}
    {result : Except Fault SuiteResult} (h : Performs e task s ds result s') : R s ds s' :=
  hR.passage.of_performs h

end Frame

end Engine

end Runbook
