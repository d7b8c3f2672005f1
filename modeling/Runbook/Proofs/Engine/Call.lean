import Runbook.Proofs.Engine.Trail
import Runbook.Proofs.Reference
import Runbook.Proofs.StepFault

namespace Runbook

variable {σ : Type}

/-- From one state the runner comes to the other by answering these calls one after the other, and
these are its answers. -/
inductive Runner.Serves (r : Runner σ) : σ → List Engine.Call → σ → Prop where
  | done {s} : Serves r s [] s
  | call {s s'} {c : Engine.Call} {cs} (hanswer : (r.run c.run c.suite s).1.1 = c.answer)
      (hrest : Serves r (r.run c.run c.suite s).2 cs s') : Serves r s (c :: cs) s'

theorem Runner.Serves.eq_of_nil {r : Runner σ} {s s' : σ} (h : r.Serves s [] s') : s' = s := by
  cases h
  rfl

theorem Runner.Serves.append {r : Runner σ} {s s₁ s' : σ} {cs cs' : List Engine.Call}
    (h : r.Serves s cs s₁) (h' : r.Serves s₁ cs' s') : r.Serves s (cs ++ cs') s' := by
  induction h with
  | done => exact h'
  | call hanswer hrest ih => exact .call hanswer (ih h')

theorem Runner.Serves.raises {r : Runner σ} {s s' : σ} {cs : List Engine.Call} {c : Engine.Call}
    {f : Fault} (h : r.Serves s cs s') (hc : c ∈ cs) (hf : c.answer = .error f) : r.Raises f := by
  induction h with
  | done => cases hc
  | @call s s' d cs hanswer hrest ih =>
    obtain rfl | hc := List.mem_cons.1 hc
    · exact ⟨_, _, s, hanswer.trans hf⟩
    · exact ih hc

namespace Engine

variable {e : Engine σ}

theorem effect_call {m : Moment σ} {c : Call} (h : c ∈ (e.effect m).call?) :
    Reference.resolveRun m.before.history (Run.ofTest m.step m.now m.parent) = (c.run, none) ∧
      c.suite = m.now ∧ c.answer = (e.runner.run c.run m.now m.before.runner).1.1 := by
  unfold effect at h
  split at h
  · rename_i r hr
    cases h
    exact ⟨hr, rfl, rfl⟩
  · cases h
  · cases h

theorem runner_dispatch (e : Engine σ) (r : Run) (suite : Suite) (s : State σ) :
    ((e.dispatch r suite).run s).2.runner = (e.runner.run r suite s.runner).2 := by
  unfold dispatch
  rw [run_modify_bind, run_bind]
  have hc : (e.call r suite).run { s with history := s.history.append r } =
      ((e.runner.run r suite s.runner).1.1, { s with
        history := s.history.append r
        runner := (e.runner.run r suite s.runner).2
        notices := s.notices ++ (e.runner.run r suite s.runner).1.2 }) := rfl
  rw [hc]
  cases (e.runner.run r suite s.runner).1.1 <;> rfl

theorem serves_execute (e : Engine σ) (m : Moment σ) :
    e.runner.Serves m.before.runner (e.effect m).call?.toList
      ((e.execute m.step m.now m.parent).run m.before).2.runner := by
  unfold execute
  rw [run_get_bind]
  split
  · rename_i r hr
    rw [effect_of_resolved hr, runner_dispatch]
    exact .call rfl .done
  · rename_i r cause hr
    rw [effect_of_unresolved hr]
    exact .done
  · rename_i r f hf hr
    rw [effect_of_stuck hf hr]
    exact .done

theorem runner_report (e : Engine σ) (r : Run) (s : State σ) :
    ((e.report r).run s).2.runner = s.runner := by
  obtain ⟨notices, screen, h⟩ := run_report e r s
  rw [h]

theorem serves_carryOut (e : Engine σ) (m : Moment σ) :
    e.runner.Serves m.before.runner (e.effect m).call?.toList
      ((e.carryOut m).run m.before).2.runner := by
  have h := serves_execute e m
  unfold carryOut
  rw [run_bind]
  rcases hx : (e.execute m.step m.now m.parent).run m.before with ⟨f | r, s'⟩
  · rwa [hx] at h
  · rw [hx] at h
    have hr := runner_report e r s'
    simp only
    rw [run_bind]
    rcases hp : (e.report r).run s' with ⟨f | _, s''⟩ <;> rw [hp] at hr <;> dsimp only at hr ⊢
    · rwa [hr]
    · rw [run_pure, hr]
      exact h

namespace Deed

def call? (d : Deed σ) : Option Call := d.effect?.bind Effect.call?

theorem calls_eq (ds : List (Deed σ)) : calls ds = (allOf ds).filterMap call? := by
  rw [calls, effects, List.filterMap_filterMap]
  rfl

theorem calls_append (ds ds' : List (Deed σ)) : calls (ds ++ ds') = calls ds ++ calls ds' := by
  rw [calls_eq, allOf_append, List.filterMap_append, calls_eq, calls_eq]

theorem calls_reached (m : Moment σ) (below : List (Deed σ)) (result : Except Fault SuiteResult) :
    calls [reached m below result] = calls below := by
  rw [calls, effects_reached, calls]

theorem calls_executed (m : Moment σ) (x : Effect) : calls [executed m x] = x.call?.toList := by
  cases h : x.call? <;> simp [calls_eq, allOf_executed, call?, effect?, h]

end Deed

theorem passage_serves (e : Engine σ) :
    Passage e fun s ds s' => e.runner.Serves s.runner (Deed.calls ds) s'.runner where
  trans h h' := by
    rw [Deed.calls_append]
    exact h.append h'
  told _ _ _ := .done
  visited _ _ h := h
  reached m result _ _ h := by
    rw [Deed.calls_reached]
    exact h
  defaults _ := .done
  carriedOut m := by
    rw [Deed.calls_executed]
    exact serves_carryOut e m

/-- What the runner is called for is what the deeds say, and no more. -/
theorem Performs.serves {task : Task} {s s' : State σ} {ds : List (Deed σ)}
    {result : Except Fault SuiteResult} (h : Performs e task s ds result s') :
    e.runner.Serves s.runner (Deed.calls ds) s'.runner :=
  (passage_serves e).of_performs h

theorem passage_effect (e : Engine σ) :
    Passage e fun _ ds _ => ∀ m x, Deed.executed m x ∈ Deed.allOf ds → x = e.effect m where
  trans h h' m x hm := by
    rw [Deed.allOf_append] at hm
    exact (List.mem_append.1 hm).elim (h m x) (h' m x)
  told _ _ _ := by simp [Deed.allOf]
  visited _ _ h := h
  reached m result below _ h m' x hm := by
    rw [Deed.allOf_reached] at hm
    obtain hm | hm := List.mem_append.1 hm
    · exact h m' x hm
    · cases List.mem_singleton.1 hm
  defaults m m' x hm := by cases List.mem_singleton.1 hm
  carriedOut m m' x hm := by
    cases List.mem_singleton.1 hm
    rfl

/-- What comes of an executed step is decided by its moment. -/
theorem Performs.effect_eq {task : Task} {s s' : State σ} {ds : List (Deed σ)}
    {result : Except Fault SuiteResult} (h : Performs e task s ds result s') {m : Moment σ}
    {x : Effect} (hm : .executed m x ∈ Deed.allOf ds) : x = e.effect m :=
  (passage_effect e).of_performs h m x hm

end Engine

end Runbook
