import Runbook.Proofs.Engine.Performs

namespace Runbook.Engine

variable {σ : Type}

structure Trail (s : State σ) (ds : List (Deed σ)) (s' : State σ) : Prop where
  results : s'.plan.results = s.plan.results ++ Deed.runs ds
  history : s'.history.runs = s.history.runs ++ (Deed.effects ds).flatMap Effect.logged
  newFailures :
    s'.plan.newFailures = s.plan.newFailures ++ (Deed.effects ds).flatMap Effect.payloads
  counts : s'.plan.counts = { s.plan.counts with
    fuzzTotal := s.plan.counts.fuzzTotal + Deed.fuzzTotal ds }
  active : s'.active = s.active
  declared : s'.plan.declared = s.plan.declared

namespace Trail

variable {s s₁ s' : State σ} {ds ds' : List (Deed σ)}

theorem told (s : State σ) (notices : List Notice) (screen : String) :
    Trail s [] { s with notices := notices, screen := screen } where
  results := by simp [Deed.runs, Deed.effects, Deed.allOf]
  history := by simp [Deed.effects, Deed.allOf]
  newFailures := by simp [Deed.effects, Deed.allOf]
  counts := by simp [Deed.fuzzTotal, Deed.effects, Deed.allOf]
  active := rfl
  declared := rfl

theorem trans (h : Trail s ds s₁) (h' : Trail s₁ ds' s') : Trail s (ds ++ ds') s' where
  results := by
    rw [h'.results, h.results, Deed.runs, Deed.runs, Deed.runs, Deed.effects_append,
      List.flatMap_append, List.append_assoc]
  history := by
    rw [h'.history, h.history, Deed.effects_append, List.flatMap_append, List.append_assoc]
  newFailures := by
    rw [h'.newFailures, h.newFailures, Deed.effects_append, List.flatMap_append, List.append_assoc]
  counts := by
    rw [h'.counts, h.counts, Deed.fuzzTotal_append, Int.add_assoc]
  active := h'.active.trans h.active
  declared := h'.declared.trans h.declared

theorem visited {name : String} (h : Trail (enter name s) ds s') : Trail s ds (leave name s') := by
  obtain ⟨store, suites, ho⟩ := s.plan.openSchema_eq name
  obtain ⟨suites', hc⟩ := s'.plan.updateSuite_eq name fun s => { s with schema := none }
  have ho' : (enter name s).plan = { s.plan with store := store, suites := suites } := ho
  have hc' : (leave name s').plan = { s'.plan with suites := suites' } := hc
  constructor
  · rw [hc', h.results, ho']
  · exact h.history
  · rw [hc', h.newFailures, ho']
  · rw [hc', h.counts, ho']
  · change s'.active.dropLast = s.active
    rw [h.active]
    exact List.dropLast_concat
  · exact (Plan.declared_closeSchema _ name).trans
      (h.declared.trans (Plan.declared_openSchema _ name))

theorem reached {m : Moment σ} (result : Except Fault SuiteResult) {below : List (Deed σ)}
    (h : Trail m.before below s') : Trail m.before [.reached m below result] s' := by
  have he := Deed.effects_reached m below result
  constructor
  · rw [h.results, Deed.runs, Deed.runs, he]
  · rw [h.history, he]
  · rw [h.newFailures, he]
  · rw [h.counts, Deed.fuzzTotal, Deed.fuzzTotal, he]
  · exact h.active
  · exact h.declared

theorem defaults (m : Moment σ) : Trail m.before [.defaults m] m.mended := by
  obtain ⟨suites, hm⟩ := m.before.plan.updateSuite_eq m.suite (·.applyInit m.step)
  have hm' : m.mended.plan = { m.before.plan with suites := suites } := hm
  have he : Deed.effects [Deed.defaults m] = [] := rfl
  constructor
  · rw [hm', Deed.runs, he, List.flatMap_nil, List.append_nil]
  · rw [he, List.flatMap_nil, List.append_nil]
    rfl
  · rw [hm', he, List.flatMap_nil, List.append_nil]
  · rw [hm', Deed.fuzzTotal, he, List.foldr_nil, Int.add_zero]
  · rfl
  · exact Plan.declared_updateSuite _ _ fun _ => rfl

theorem executed (m : Moment σ) (x : Effect) (runner : σ) (notices : List Notice)
    (screen : String) : Trail m.before [.executed m x]
      { m.before with
        plan := x.record m.before.plan
        history := ⟨m.before.history.runs ++ x.logged⟩
        runner := runner
        notices := notices
        screen := screen } := by
  have he : Deed.effects [Deed.executed m x] = [x] := rfl
  constructor
  · rw [Deed.runs, he, List.flatMap_singleton]
    rfl
  · rw [he, List.flatMap_singleton]
  · rw [he, List.flatMap_singleton]
    rfl
  · rw [Deed.fuzzTotal, he, List.foldr_cons, List.foldr_nil, Int.add_zero]
    rfl
  · rfl
  · rfl

end Trail

/-- All that an engine does leaves its trail, however it ends. -/
theorem frame_trail (e : Engine σ) : Frame e (Trail (σ := σ)) where
  trans := Trail.trans
  told := Trail.told
  visited _ _ := Trail.visited
  reached _ result := Trail.reached result
  defaults := Trail.defaults
  executed m := Trail.executed m (e.effect m)

theorem Performs.trail {e : Engine σ} {task : Task} {s s' : State σ} {ds : List (Deed σ)}
    {result : Except Fault SuiteResult} (h : Performs e task s ds result s') : Trail s ds s' :=
  (frame_trail e).of_performs h

end Runbook.Engine
