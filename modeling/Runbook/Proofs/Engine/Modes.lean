import Mathlib.Data.List.Infix
import Runbook.Proofs.Engine.Verdict

namespace Runbook

theorem SuiteResult.error_add_congr {x y : SuiteResult} (h : x.error = y.error) (r : Run) :
    (x.add r).error = (y.add r).error := by
  rw [error_add, error_add, h]

namespace Engine

variable {σ : Type}

def inMode (e : Engine σ) (mode : NestedCounts) : Engine σ := { e with nested := mode }

variable {e : Engine σ}

def Deed.handsError : Deed σ → Bool
  | reached _ _ (.ok y) => y.error.isSome
  | _ => false

/-- Tasks that differ at most in what has been counted. -/
inductive Task.Alike : Task → Task → Prop where
  | suite (name parent) : Alike (.suite name parent) (.suite name parent)
  | steps {name parent ts x y} (h : x.error = y.error) :
      Alike (.steps name parent ts x) (.steps name parent ts y)

/-- How what is done where counts are replaced (`ds`, `result`, `s`) stands to what is done where
they are added up: it is the same but for the counts, or it is the first part of it and ends with an
error. -/
inductive Agrees (ds ds' : List (Deed σ)) (result result' : Except Fault SuiteResult)
    (s s' : State σ) : Prop where
  | same (heffects : Deed.effects ds = Deed.effects ds')
      (hresult : result.map (·.error) = result'.map (·.error)) (hstate : s = s')
  | behind {y : SuiteResult} (hresult : result = .ok y) (herror : y.error.isSome)
      (heffects : Deed.effects ds <+: Deed.effects ds')
      (hhands : ∃ d ∈ Deed.allOf ds', d.handsError = true)

namespace Agrees

variable {ds ds' : List (Deed σ)} {result result' : Except Fault SuiteResult} {s s' : State σ}

theorem refl (hresult : result.map (·.error) = result'.map (·.error)) :
    Agrees ds ds result result' s s := .same rfl hresult rfl

theorem effects (h : Agrees ds ds' result result' s s') : Deed.effects ds <+: Deed.effects ds' := by
  cases h with
  | same heffects hresult hstate => exact heffects ▸ List.prefix_rfl
  | behind hresult herror heffects hhands => exact heffects

theorem append (ds₁ ds₂ : List (Deed σ)) (he : Deed.effects ds₁ = Deed.effects ds₂)
    (h : Agrees ds ds' result result' s s') :
    Agrees (ds₁ ++ ds) (ds₂ ++ ds') result result' s s' := by
  cases h with
  | same heffects hresult hstate =>
    exact .same (by rw [Deed.effects_append, Deed.effects_append, he, heffects]) hresult hstate
  | behind hresult herror heffects hhands =>
    refine .behind hresult herror ?_ ?_
    · rw [Deed.effects_append, Deed.effects_append, he]
      exact List.prefix_append_right_inj _ |>.2 heffects
    · obtain ⟨d, hd, hh⟩ := hhands
      exact ⟨d, by rw [Deed.allOf_append]; exact List.mem_append_right _ hd, hh⟩

theorem cons (m : Moment σ) (x : Effect) (h : Agrees ds ds' result result' s s') :
    Agrees (.executed m x :: ds) (.executed m x :: ds') result result' s s' :=
  h.append [.executed m x] [.executed m x] rfl

theorem leave (name : String) (h : Agrees ds ds' result result' s s') :
    Agrees ds ds' result result' (leave name s) (leave name s') := by
  cases h with
  | same heffects hresult hstate => exact .same heffects hresult (by rw [hstate])
  | behind hresult herror heffects hhands => exact .behind hresult herror heffects hhands

end Agrees

theorem settled_ok_of_map {result result' : Except Fault SuiteResult} {y : SuiteResult}
    (h : result.map (·.error) = result'.map (·.error)) (hy : settled result = .ok y) :
    ∃ y', settled result' = .ok y' ∧ y.error = y'.error := by
  cases result with
  | error f =>
    cases result' with
    | error f' =>
      cases h
      exact ⟨y, hy, rfl⟩
    | ok y' => cases h
  | ok x =>
    cases hy
    cases result' with
    | error f' => cases h
    | ok y' => exact ⟨y', rfl, Except.ok.inj h⟩

/-- What is done after a step that got an error from what it had reached is done where counts are
added up only. -/
theorem Agrees.ended (m : Moment σ) {below below' : List (Deed σ)} {y : SuiteResult}
    {handed : Except Fault SuiteResult} (ds' : List (Deed σ)) (result' : Except Fault SuiteResult)
    (s s' : State σ) (hy : y.error.isSome) (hb : Deed.effects below <+: Deed.effects below')
    (hh : ∃ d ∈ Deed.allOf [.reached m below' handed], d.handsError = true) :
    Agrees [.reached m below (.ok y)] (.reached m below' handed :: ds') (.ok y) result' s s' := by
  refine .behind rfl hy ?_ ?_
  · rw [Deed.effects_cons _ ds', Deed.effects_reached, Deed.effects_reached]
    exact hb.trans (List.prefix_append _ _)
  · obtain ⟨d, hd, hh⟩ := hh
    refine ⟨d, ?_, hh⟩
    rw [Deed.allOf_cons]
    exact List.mem_append_left _ hd

theorem Performs.agrees_handed {m : Moment σ} {ts : List Test} {x : SuiteResult}
    {below below' : List (Deed σ)} {result result' : Except Fault SuiteResult} {y : SuiteResult}
    {s s' : State σ} (href : m.step.ref ≠ "") (hs : settled result = .ok y) (hy : y.error.isSome)
    (h : Performs (e.inMode .accumulate) (.suite m.step.ref (some m.forwarded)) m.before below'
      result' s')
    (ha : Agrees below below' result result' s s') :
    ∃ ds' result'' s'', Performs (e.inMode .accumulate)
        (.steps m.suite m.parent (m.step :: ts) x) m.before ds' result'' s'' ∧
      Agrees [.reached m below (.ok y)] ds' (.ok y) result'' s s'' := by
  have hhands : ∃ d ∈ Deed.allOf [.reached m below' (settled result')], d.handsError = true := by
    rw [Deed.allOf_reached]
    cases ha with
    | same heffects hresult hstate =>
      refine ⟨.reached m below' (settled result'), by simp, ?_⟩
      obtain ⟨y', hr, he⟩ := settled_ok_of_map hresult hs
      rwa [hr, Deed.handsError, ← he]
    | behind hresult herror heffects hhands =>
      obtain ⟨d, hd, hh⟩ := hhands
      exact ⟨d, List.mem_append_left _ hd, hh⟩
  cases hr : settled result' with
  | error f =>
    rw [hr] at hhands
    exact ⟨_, _, _, .raised href h hr, .ended m [] _ s s' hy ha.effects hhands⟩
  | ok y' =>
    rw [hr] at hhands
    obtain ⟨ds', result'', s'', hrest⟩ :=
      exists_performs_steps (e.inMode .accumulate) m.suite m.parent ts (x.merge y') s'
    exact ⟨_, _, _, .resumed href h hr rfl hrest, .ended m ds' _ s s'' hy ha.effects hhands⟩

theorem Performs.agrees {task : Task} {s s' : State σ} {ds : List (Deed σ)}
    {result : Except Fault SuiteResult}
    (h : Performs (e.inMode .replace) task s ds result s') {task' : Task} (ht : task.Alike task') :
    ∃ ds' result' s'', Performs (e.inMode .accumulate) task' s ds' result' s'' ∧
      Agrees ds ds' result result' s' s'' := by
  -- On what is done where counts are replaced. The same rule applies where they are added up, except
  -- that a step which gets an error does not end the suite there.
  induction h generalizing task' with
  | refused hready =>
    cases ht
    exact ⟨_, _, _, .refused hready, .refl rfl⟩
  | untitled hready htitle =>
    cases ht
    exact ⟨_, _, _, .untitled hready htitle, .refl rfl⟩
  | visited hready htitle hsteps ih =>
    cases ht
    obtain ⟨ds', result', s'', h', ha⟩ := ih (.steps rfl)
    exact ⟨_, _, _, .visited hready htitle h', ha.leave _⟩
  | done =>
    cases ht with
    | steps hx => exact ⟨_, _, _, .done, .refl (congrArg Except.ok hx)⟩
  | raised href hbelow hs ih =>
    cases ht with
    | steps hx =>
      obtain ⟨below', result', s'', h', ha⟩ := ih (.suite _ _)
      obtain ⟨rfl, hn⟩ := settled_error hs
      cases ha with
      | same heffects hresult hstate =>
        cases result' with
        | ok y => cases hresult
        | error f' =>
          cases hresult
          refine ⟨_, _, _, .raised href h' hs, .same ?_ rfl hstate⟩
          rw [Deed.effects_reached, Deed.effects_reached, heffects]
      | behind hresult herror heffects hhands => cases hresult
  | @handed name parent ts x y below result t s s' href hbelow hs hx ih =>
    cases ht with
    | steps hxy =>
      obtain ⟨below', result', s'', h', ha⟩ := ih (.suite _ _)
      obtain ⟨-, hy⟩ := SuiteResult.resume_eq_none hx
      exact h'.agrees_handed (m := ⟨s, name, parent, t⟩) href hs hy ha
  | @resumed name parent ts x x' y below ds result result' t s s₁ s' href hbelow hs hx hrest ihb
      ihr =>
    cases ht with
    | @steps _ _ _ _ z hxz =>
      obtain ⟨hx', hy⟩ := SuiteResult.resume_replace hx
      subst hx'
      obtain ⟨below', result'', s'', h', ha⟩ := ihb (.suite _ _)
      cases ha with
      | behind hresult herror heffects hhands =>
        rw [hresult] at hs
        cases hs
        rw [hy] at herror
        cases herror
      | same heffects hresult hstate =>
        subst hstate
        obtain ⟨y', hr, he⟩ := settled_ok_of_map hresult hs
        have hz : x'.error = (z.merge y').error := by
          rw [SuiteResult.error_merge, ← he, hy, Option.or_none, hxz]
        obtain ⟨ds', result', s'', hrest', ha⟩ := ihr (.steps hz)
        refine ⟨_, _, _, .resumed href h' hr rfl hrest', ha.append [_] [_] ?_⟩
        rw [Deed.effects_reached, Deed.effects_reached, heffects]
  | defaults href hinit hrest ih =>
    cases ht with
    | steps hx =>
      obtain ⟨ds', result', s'', h', ha⟩ := ih (.steps hx)
      exact ⟨_, _, _, .defaults href hinit h', ha.append [_] [_] rfl⟩
  | failed href hinit hrun =>
    cases ht
    exact ⟨_, _, _, .failed href hinit hrun, .refl rfl⟩
  | @cut name parent x r shown result t ts s s₁ s' href hinit hrun hcut hshown hresult =>
    cases ht with
    | @steps _ _ _ _ y hx =>
      refine ⟨_, _, _, .cut href hinit hrun hcut hshown rfl, .refl ?_⟩
      rw [hresult]
      cases shown with
      | error f => rfl
      | ok _ => exact congrArg Except.ok (SuiteResult.error_add_congr hx r)
  | @executed name parent ts x r ds result t s s₁ s' href hinit hrun hcut hrest ih =>
    cases ht with
    | @steps _ _ _ _ y hx =>
      obtain ⟨ds', result', s'', h', ha⟩ := ih (.steps (SuiteResult.error_add_congr hx r))
      exact ⟨_, _, _, .executed href hinit hrun hcut h', ha.cons _ _⟩

/-- Both lists go on from `start`, the first as the second does or less far. -/
def Lags {α : Type} (start first second : List α) : Prop :=
  ∃ l l', first = start ++ l ∧ second = start ++ l' ∧ l <+: l'

/-- Where counts are replaced the runner is called as where they are added up, until a step gets an
error from the suite that it has reached; so it is with the runs that the history and the plan gain,
and with the failures. If no step gets an error, the two modes do the same, and but for the counts
they come to the same end. -/
theorem replace_follows_accumulate (e : Engine σ) (name : String) (parent : Option Test)
    (s : State σ) :
    ∃ ds result s' ds' result' s'',
      ((e.inMode .replace).run name parent).run s = (result, s') ∧
      ((e.inMode .accumulate).run name parent).run s = (result', s'') ∧
      Performs (e.inMode .replace) (.suite name parent) s ds result s' ∧
      Performs (e.inMode .accumulate) (.suite name parent) s ds' result' s'' ∧
      Deed.calls ds <+: Deed.calls ds' ∧
      Lags s.history.runs s'.history.runs s''.history.runs ∧
      Lags s.plan.results s'.plan.results s''.plan.results ∧
      Lags s.plan.newFailures s'.plan.newFailures s''.plan.newFailures ∧
      ((∀ d ∈ Deed.allOf ds', d.handsError = false) →
        Deed.calls ds = Deed.calls ds' ∧ s' = s'' ∧
          result.map (·.error) = result'.map (·.error)) := by
  obtain ⟨ds, h⟩ := performs_run (e.inMode .replace) name parent s
  obtain ⟨ds', result', s'', h', ha⟩ := h.agrees (.suite name parent)
  refine ⟨ds, _, _, ds', result', s'', rfl, h'.run_eq, h, h', ha.effects.filterMap _, ?_, ?_, ?_,
    fun hclean => ?_⟩
  · exact ⟨_, _, h.trail.history, h'.trail.history, ha.effects.flatMap _⟩
  · exact ⟨_, _, h.trail.results, h'.trail.results, ha.effects.flatMap _⟩
  · exact ⟨_, _, h.trail.newFailures, h'.trail.newFailures, ha.effects.flatMap _⟩
  · cases ha with
    | same heffects hresult hstate =>
      exact ⟨congrArg (List.filterMap Effect.call?) heffects, hstate, hresult⟩
    | behind hresult herror heffects hhands =>
      obtain ⟨d, hd, hh⟩ := hhands
      rw [hclean d hd] at hh
      cases hh

end Engine

end Runbook
