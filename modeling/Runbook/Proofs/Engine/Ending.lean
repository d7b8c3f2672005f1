import Runbook.Proofs.Engine.Call
import Runbook.Proofs.Engine.Execution

namespace Runbook.Engine

variable {σ : Type} {e : Engine σ}

theorem result_of_carryOut {m : Moment σ} {s' : State σ} {r : Run}
    (h : (e.carryOut m).run m.before = (.ok r, s')) : (e.effect m).result = .ok r :=
  (carryOut_eq_ok_iff.1 (congrArg Prod.fst h)).1

def Deed.Raised (ds : List (Deed σ)) (f : Fault) : Prop := ∃ c ∈ Deed.calls ds, c.answer = .error f

namespace Deed.Raised

variable {ds below : List (Deed σ)} {d : Deed σ} {f : Fault}

theorem reached (h : Raised below f) (m : Moment σ) (result : Except Fault SuiteResult) :
    Raised [.reached m below result] f := by
  rw [Raised, Deed.calls_reached]
  exact h

theorem tail (h : Raised ds f) (d : Deed σ) : Raised (d :: ds) f := by
  obtain ⟨c, hc, hf⟩ := h
  refine ⟨c, ?_, hf⟩
  rw [← List.singleton_append, Deed.calls_append]
  exact List.mem_append_right _ hc

theorem forall_not (h : ∀ c ∈ calls ds, ∀ n, c.answer ≠ .error (.suiteNotFound n)) :
    ∀ n, ¬ Raised ds (.suiteNotFound n) := by
  rintro n ⟨c, hc, hn⟩
  exact h c hc n hn

theorem forall_not_reached {m : Moment σ} {result : Except Fault SuiteResult} :
    (∀ n, ¬ Raised (.reached m below result :: ds) (.suiteNotFound n)) ↔
      (∀ n, ¬ Raised below (.suiteNotFound n)) ∧ ∀ n, ¬ Raised ds (.suiteNotFound n) := by
  have hcalls : calls (.reached m below result :: ds) = calls below ++ calls ds := by
    rw [← List.singleton_append, calls_append, calls_reached]
  simp only [Raised, hcalls, List.mem_append, or_and_right, exists_or, not_or, forall_and]

end Deed.Raised

theorem Performs.raises {task : Task} {s s' : State σ} {ds : List (Deed σ)}
    {result : Except Fault SuiteResult} {f : Fault} (h : Performs e task s ds result s')
    (hf : Deed.Raised ds f) : e.runner.Raises f := by
  obtain ⟨c, hc, ha⟩ := hf
  exact h.serves.raises hc ha

theorem effect_error {m : Moment σ} {f : Fault} (h : (e.effect m).result = .error f) :
    f.OfData ∨ Deed.Raised [.executed m (e.effect m)] f := by
  obtain ⟨r, -, hx⟩ | ⟨r, cause, -, hx⟩ | ⟨r, g, hr, -, hx⟩ := effect_cases e m
  · right
    rw [hx] at h
    refine ⟨⟨r, m.now, _⟩, by rw [Deed.calls_executed, hx]; exact List.mem_singleton.2 rfl, ?_⟩
    cases ha : (e.runner.run r m.now m.before.runner).1.1 with
    | ok o =>
      rw [ha] at h
      cases h
    | error g =>
      rw [ha] at h
      cases h
      rfl
  · rw [hx] at h
    cases h
  · rw [hx] at h
    cases h
    exact .inl (Reference.ofData_resolveRun hr)

/-- What keeps a step from being carried out is its data, or else its call has raised it. -/
theorem carryOut_error {m : Moment σ} {s' : State σ} {f : Fault}
    (h : (e.carryOut m).run m.before = (.error f, s')) :
    f.OfData ∨ Deed.Raised [.executed m (e.effect m)] f := by
  obtain hr | ⟨r, -, hs⟩ := carryOut_eq_error_iff.1 (congrArg Prod.fst h)
  · exact effect_error hr
  · exact .inl (Screen.ofData_stepResult hs)

theorem display_error {x : Except Fault String} {s s' : State σ} {f : Fault}
    (h : (display x).run s = (.error f, s')) : x = .error f := by
  rw [run_display] at h
  split at h <;> cases h
  rfl

theorem settled_error {result : Except Fault SuiteResult} {f : Fault}
    (h : settled result = .error f) : result = .error f ∧ ∀ n, f ≠ .suiteNotFound n := by
  unfold settled at h
  split at h
  · cases h
  · rename_i hn
    refine ⟨h, ?_⟩
    rintro n rfl
    exact hn n h

theorem settled_eq_ok {result : Except Fault SuiteResult} {y : SuiteResult}
    (h : settled result = .ok y) :
    result = .ok y ∨ ∃ n, result = .error (.suiteNotFound n) ∧
      y = ⟨.zero, some (.suiteNotFound n)⟩ := by
  unfold settled at h
  split at h
  · rename_i n
    cases h
    exact .inr ⟨n, rfl, rfl⟩
  · exact .inl h

/-- The faults that can leave a task that has done this: those of the data and of its calls, and
those of the engine, that a suite is active or, where one is to be run, that there is none. -/
def Task.Faults (ds : List (Deed σ)) (f : Fault) : Task → Prop
  | .suite name _ =>
    f.OfData ∨ Deed.Raised ds f ∨ (∃ chain, f = .recursion chain) ∨ f = .suiteNotFound name
  | .steps _ _ _ _ => f.OfData ∨ Deed.Raised ds f ∨ ∃ chain, f = .recursion chain

theorem Performs.error {task : Task} {s s' : State σ} {ds : List (Deed σ)}
    {result : Except Fault SuiteResult} (h : Performs e task s ds result s') {f : Fault}
    (hf : result = .error f) : task.Faults ds f := by
  induction h with
  | refused hready =>
    cases hf
    obtain ⟨-, ⟨-, hf⟩ | ⟨-, -, hf⟩⟩ := ready_error hready
    · exact .inr (.inr (.inr hf))
    · exact .inr (.inr (.inl ⟨_, hf⟩))
  | untitled hready htitle =>
    cases hf
    exact .inl (Screen.ofData_suiteStart (display_error htitle))
  | visited hready htitle hsteps ih => exact (ih hf).imp_right (.imp_right .inl)
  | done => cases hf
  | raised href hbelow hs ih =>
    cases hf
    obtain ⟨hr, hn⟩ := settled_error hs
    obtain hd | hr | hc | hf := ih hr
    · exact .inl hd
    · exact .inr (.inl (hr.reached _ _))
    · exact .inr (.inr hc)
    · exact (hn _ hf).elim
  | handed href hbelow hy hx ih => cases hf
  | resumed href hbelow hy hx hrest ihb ihr => exact (ihr hf).imp_right (.imp_left (·.tail _))
  | defaults href hinit hrest ih => exact (ih hf).imp_right (.imp_left (·.tail _))
  | failed href hinit hrun =>
    cases hf
    exact (carryOut_error hrun).imp_right .inl
  | cut href hinit hrun hcut hshown hresult =>
    cases map_eq_error (hresult.symm.trans hf)
    exact .inl (Screen.ofData_print (display_error hshown))
  | executed href hinit hrun hcut hrest ih => exact (ih hf).imp_right (.imp_left (·.tail _))

/-- That a suite is missing is said only where it is the one to run and is not there, unless a call
has raised it. -/
theorem Performs.suiteNotFound {name n : String} {parent : Option Test} {s s' : State σ}
    {ds : List (Deed σ)} (h : Performs e (.suite name parent) s ds (.error (.suiteNotFound n)) s') :
    Deed.Raised ds (.suiteNotFound n) ∨ s.plan.runnable? name = none ∧ ds = [] ∧ n = name ∧
      ∃ notices, s' = { s with notices := notices } := by
  cases h with
  | refused hready =>
    obtain ⟨hstate, ⟨hs, hf⟩ | ⟨-, -, hf⟩⟩ := ready_error hready
    · cases hf
      exact .inr ⟨hs, rfl, rfl, hstate⟩
    · cases hf
  | untitled hready htitle => exact (Screen.ofData_suiteStart (display_error htitle)).elim
  | visited hready htitle hsteps =>
    obtain hd | hr | ⟨chain, hc⟩ := hsteps.error rfl
    · exact hd.elim
    · exact .inl hr
    · cases hc

/-- What a step gets of the suite that it names, unless a call has raised that there is none: either
there is none, or the suite has been run and the step has its result. -/
theorem Performs.settled_ok {name : String} {parent : Option Test} {s s' : State σ}
    {ds : List (Deed σ)} {result : Except Fault SuiteResult} {y : SuiteResult}
    (hcalls : ∀ n, ¬ Deed.Raised ds (.suiteNotFound n))
    (h : Performs e (.suite name parent) s ds result s') (hy : settled result = .ok y) :
    (s.plan.runnable? name = none ∧ ds = [] ∧ y = ⟨.zero, some (.suiteNotFound name)⟩) ∨
      ((s.plan.runnable? name).isSome ∧ result = .ok y) := by
  obtain rfl | ⟨n, rfl, rfl⟩ := settled_eq_ok hy
  · cases h with
    | visited hready htitle hsteps =>
      obtain ⟨rfl, hs, -⟩ := ready_ok hready
      exact .inr ⟨by simp [hs], rfl⟩
  · obtain hr | ⟨hs, rfl, rfl, -⟩ := h.suiteNotFound
    · exact (hcalls n hr).elim
    · exact .inl ⟨hs, rfl, rfl⟩

end Runbook.Engine
