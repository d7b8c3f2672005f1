import Runbook.Proofs.Engine.Trail

namespace Runbook.Engine

variable {σ : Type}

theorem run_reach (sub : String → Option Test → Act σ SuiteResult) (t : Test) (strict : Bool)
    (s : State σ) :
    (reach sub t strict).run s = (settled ((sub t.ref (some { t with strict := strict })).run s).1,
      ((sub t.ref (some { t with strict := strict })).run s).2) := by
  rw [reach, run_tryCatch]
  rcases (sub t.ref (some { t with strict := strict })).run s with ⟨f | x, s'⟩
  · cases f <;> rfl
  · rfl

theorem run_steps_reference (e : Engine σ) {sub : String → Option Test → Act σ SuiteResult}
    (name : String) (parent : Option Test) {t : Test} (ts : List Test) (x : SuiteResult)
    (s : State σ) (href : t.ref ≠ "") :
    (e.steps sub name parent (t :: ts) x).run s =
      match (reach sub t (s.plan.suite name).strict).run s with
      | (.error f, s₁) => (.error f, s₁)
      | (.ok y, s₁) =>
        match x.resume e.nested y with
        | none => (.ok y, s₁)
        | some x' => (e.steps sub name parent ts x').run s₁ := by
  rw [steps, run_get_bind]
  simp only [href, ne_eq, not_false_eq_true, if_true]
  rw [run_bind]
  rcases (reach sub t (s.plan.suite name).strict).run s with ⟨f | y, s₁⟩
  · rfl
  · cases hm : e.nested with
    | replace => cases hy : y.error <;> simp [SuiteResult.resume, hy, run_pure]
    | accumulate => rfl

theorem run_steps_defaults (e : Engine σ) {sub : String → Option Test → Act σ SuiteResult}
    (name : String) (parent : Option Test) {t : Test} (ts : List Test) (x : SuiteResult)
    (s : State σ) (href : t.ref = "") (hinit : t.name = initName) :
    (e.steps sub name parent (t :: ts) x).run s =
      (e.steps sub name parent ts x).run (Moment.mended ⟨s, name, parent, t⟩) := by
  rw [steps, run_get_bind]
  simp only [href, hinit, ne_eq, not_true_eq_false, if_false, if_true]
  rw [run_updatePlan_bind]
  rfl

theorem run_steps_concrete (e : Engine σ) {sub : String → Option Test → Act σ SuiteResult}
    (name : String) (parent : Option Test) {t : Test} (ts : List Test) (x : SuiteResult)
    (s : State σ) (href : t.ref = "") (hinit : t.name ≠ initName) :
    (e.steps sub name parent (t :: ts) x).run s =
      match (e.carryOut ⟨s, name, parent, t⟩).run s with
      | (.error f, s₁) => (.error f, s₁)
      | (.ok r, s₁) =>
        if failsRest r then
          (((display (Screen.skipping e.console ts.length)).run s₁).1.map
              fun _ => (x.add r).skip ts.length,
            ((display (Screen.skipping e.console ts.length)).run s₁).2)
        else (e.steps sub name parent ts (x.add r)).run s₁ := by
  rw [steps, run_get_bind]
  simp only [href, hinit, ne_eq, not_true_eq_false, if_false]
  rw [run_bind, carryOut, run_bind]
  simp only [Moment.now]
  rcases (e.execute t (s.plan.suite name) parent).run s with ⟨f | r, s₁⟩
  · rfl
  simp only
  rw [run_bind, run_bind]
  rcases (e.report r).run s₁ with ⟨f | _, s₂⟩
  · rfl
  simp only [run_pure]
  cases failsRest r with
  | false => rfl
  | true =>
    simp only [if_true]
    rw [run_bind]
    rcases (display (Screen.skipping e.console ts.length)).run s₂ with ⟨f | _, s₃⟩ <;> rfl

theorem run_ensuring {α : Type} (after : State σ → State σ) (act : Act σ α) (s : State σ) :
    (ensuring after act).run s = ((act.run s).1, after (act.run s).2) := rfl

theorem run_runWithin_succ (e : Engine σ) (depth : Nat) (name : String) (parent : Option Test)
    (s : State σ) :
    (e.runWithin (depth + 1) name parent).run s =
      match (ready name).run s with
      | (.error f, s₁) => (.error f, s₁)
      | (.ok suite, s₁) =>
        match (e.title name parent).run (enter name s₁) with
        | (.error f, s₂) => (.error f, leave name s₂)
        | (.ok _, s₂) =>
          (((e.steps (e.runWithin depth) name parent suite.tests
            (.start suite.tests.length)).run s₂).1,
          leave name ((e.steps (e.runWithin depth) name parent suite.tests
            (.start suite.tests.length)).run s₂).2) := by
  rw [runWithin, run_bind]
  cases (ready name).run s with
  | mk result s₁ =>
    cases result with
    | error f => rfl
    | ok suite =>
      simp only
      rw [run_modify_bind, run_ensuring, run_bind, ← title]
      cases (e.title name parent).run (enter name s₁) with
      | mk result s₂ => cases result <;> rfl

def room (s : State σ) : Nat := (s.plan.suiteNames.filter fun n => !s.active.contains n).length

theorem room_le_size (s : State σ) : room s ≤ s.plan.suites.size :=
  List.length_filter_le _ _

theorem Trail.room_eq {s s' : State σ} {ds : List (Deed σ)} (h : Trail s ds s') :
    room s' = room s := by
  rw [room, room, h.active, Plan.suiteNames_of_declared h.declared]

theorem declared_enter (name : String) (s : State σ) :
    (enter name s).plan.declared = s.plan.declared := Plan.declared_openSchema _ _

theorem room_enter_lt {name : String} {s : State σ} (hn : (s.plan.runnable? name).isSome)
    (ha : name ∉ s.active) : room (enter name s) < room s := by
  have hf : room (enter name s) =
      ((s.plan.suiteNames.filter fun n => !s.active.contains n).filter (· ≠ name)).length := by
    rw [room, Plan.suiteNames_of_declared (declared_enter name s), List.filter_filter]
    congr 2
    funext n
    by_cases h : n = name <;> simp [enter, h]
  rw [hf, room]
  refine List.length_filter_lt_length_iff_exists.2 ⟨name, ?_, by simp⟩
  exact List.mem_filter.2 ⟨Plan.mem_suiteNames_of_runnable? hn, by simpa using ha⟩

theorem performs_steps (e : Engine σ) (sub : String → Option Test → Act σ SuiteResult) {n : Nat}
    (hsub : ∀ (s : State σ), room s < n → ∀ name parent, ∃ ds,
      Performs e (.suite name parent) s ds ((sub name parent).run s).1 ((sub name parent).run s).2)
    (name : String) (parent : Option Test) (ts : List Test) (x : SuiteResult) (s : State σ)
    (hs : room s < n) :
    ∃ ds, Performs e (.steps name parent ts x) s ds ((e.steps sub name parent ts x).run s).1
      ((e.steps sub name parent ts x).run s).2 := by
  -- No step changes which suites are active, so the bound holds for the steps that are left.
  induction ts generalizing x s with
  | nil => exact ⟨[], .done⟩
  | cons t ts ih =>
    by_cases href : t.ref = ""
    · by_cases hinit : t.name = initName
      · have hd := (Trail.defaults ⟨s, name, parent, t⟩).room_eq
        obtain ⟨ds, h⟩ := ih x (Moment.mended ⟨s, name, parent, t⟩) (by rwa [hd])
        rw [run_steps_defaults e name parent ts x s href hinit]
        exact ⟨_, .defaults href hinit h⟩
      · rw [run_steps_concrete e name parent ts x s href hinit]
        have hr := ((frame_trail e).of_carryOut ⟨s, name, parent, t⟩).room_eq
        cases hrun : (e.carryOut ⟨s, name, parent, t⟩).run s with
        | mk result s₁ =>
          rw [hrun] at hr
          cases result with
          | error f => exact ⟨_, .failed href hinit hrun⟩
          | ok r =>
            by_cases hcut : failsRest r = true
            · cases hshown : (display (Screen.skipping e.console ts.length)).run s₁ with
              | mk shown s₂ =>
                simp only [hcut, if_true, hshown]
                exact ⟨_, .cut href hinit hrun hcut hshown rfl⟩
            · rw [Bool.not_eq_true] at hcut
              obtain ⟨ds, h⟩ := ih (x.add r) s₁ (by rwa [hr])
              simp only [hcut, Bool.false_eq_true, if_false]
              exact ⟨_, .executed href hinit hrun hcut h⟩
    · obtain ⟨below, hb⟩ := hsub s hs t.ref (some (Moment.forwarded ⟨s, name, parent, t⟩))
      have hreach : (reach sub t (s.plan.suite name).strict).run s =
          (settled ((sub t.ref (some (Moment.forwarded ⟨s, name, parent, t⟩))).run s).1,
            ((sub t.ref (some (Moment.forwarded ⟨s, name, parent, t⟩))).run s).2) :=
        run_reach sub t _ s
      rw [run_steps_reference e name parent ts x s href, hreach]
      cases hout : (sub t.ref (some (Moment.forwarded ⟨s, name, parent, t⟩))).run s with
      | mk result s₁ =>
        rw [hout] at hb
        have hr := hb.trail.room_eq
        cases hy : settled result with
        | error f => exact ⟨_, .raised href hb hy⟩
        | ok y =>
          cases hx : x.resume e.nested y with
          | none =>
            simp only [hx]
            exact ⟨_, .handed href hb hy hx⟩
          | some x' =>
            obtain ⟨ds, h⟩ := ih x' s₁ (by rwa [hr])
            simp only [hx]
            exact ⟨_, .resumed href hb hy hx h⟩

theorem performs_runWithin (e : Engine σ) {depth : Nat} {s : State σ} (hs : room s < depth)
    (name : String) (parent : Option Test) :
    ∃ ds, Performs e (.suite name parent) s ds ((e.runWithin depth name parent).run s).1
      ((e.runWithin depth name parent).run s).2 := by
  -- A suite that is entered is one fewer to be entered, so the depth outlasts them.
  induction depth generalizing s name parent with
  | zero => omega
  | succ depth ih =>
    rw [run_runWithin_succ]
    cases hready : (ready name).run s with
    | mk result s₁ =>
      cases result with
      | error f => exact ⟨[], .refused hready⟩
      | ok suite =>
        dsimp only
        obtain ⟨rfl, hn, ha⟩ := ready_ok hready
        cases htitle : (e.title name parent).run (enter name s₁) with
        | mk result s₂ =>
          have he : room s₂ = room (enter name s₁) := by
            obtain ⟨screen, rfl⟩ := title_eq htitle
            rfl
          have hl : room (enter name s₁) < room s₁ := room_enter_lt (by simp [hn]) ha
          have hr : room s₂ < depth := by omega
          cases result with
          | error f => exact ⟨[], .untitled hready htitle⟩
          | ok _ =>
            obtain ⟨ds, h⟩ := performs_steps e (e.runWithin depth) (fun _ => ih) name parent
              suite.tests (.start suite.tests.length) s₂ hr
            exact ⟨ds, .visited hready htitle h⟩

/-- Every call of `run` comes to an end: it has a derivation without a bound. -/
theorem performs_run (e : Engine σ) (name : String) (parent : Option Test) (s : State σ) :
    ∃ ds, Performs e (.suite name parent) s ds ((e.run name parent).run s).1
      ((e.run name parent).run s).2 := by
  have h := performs_runWithin e (Nat.lt_succ_of_le (room_le_size s)) name parent
  rwa [run, run_get_bind]

theorem Performs.run_eq {e : Engine σ} {name : String} {parent : Option Test} {s s' : State σ}
    {ds : List (Deed σ)} {result : Except Fault SuiteResult}
    (h : Performs e (.suite name parent) s ds result s') :
    (e.run name parent).run s = (result, s') := by
  obtain ⟨ds', h'⟩ := performs_run e name parent s
  obtain ⟨-, hr, hs⟩ := h.unique h'
  exact Prod.ext hr.symm hs.symm

theorem exists_performs_steps (e : Engine σ) (name : String) (parent : Option Test) (ts : List Test)
    (x : SuiteResult) (s : State σ) :
    ∃ ds result s', Performs e (.steps name parent ts x) s ds result s' := by
  obtain ⟨ds, h⟩ := performs_steps e e.run (fun s _ name parent => performs_run e name parent s)
    name parent ts x s (Nat.lt_succ_self _)
  exact ⟨ds, _, _, h⟩

end Runbook.Engine
