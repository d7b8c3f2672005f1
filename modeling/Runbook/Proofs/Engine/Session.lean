import Runbook.Proofs.Engine.Defaults

namespace Runbook

namespace Defaults

theorem params_foldl_mend (d : Defaults) (ts : List Test) :
    (ts.foldl mend d).params = (ts.map (·.params)).foldl Params.copyFrom d.params := by
  induction ts generalizing d with
  | nil => rfl
  | cons t ts ih => exact ih (d.mend t)

theorem strict_foldl_mend (d : Defaults) (ts : List Test) :
    (ts.foldl mend d).strict = (ts.getLast?.map (·.strict)).getD d.strict := by
  induction ts generalizing d with
  | nil => rfl
  | cons t ts ih =>
    rw [List.foldl_cons, ih, List.getLast?_cons]
    cases ts.getLast? <;> rfl

theorem eq_iff {d d' : Defaults} : d.params = d'.params ∧ d.strict = d'.strict ↔ d = d' := by
  cases d
  cases d'
  rw [mk.injEq]

end Defaults

namespace Engine

variable {σ : Type} {e : Engine σ}

namespace Activation

def result (e : Engine σ) (a : Activation σ) : Except Fault SuiteResult :=
  ((e.run a.name a.parent).run a.before).1

def left (e : Engine σ) (a : Activation σ) : State σ := ((e.run a.name a.parent).run a.before).2

def steps (a : Activation σ) : List Test := a.deeds.map (·.moment.step)

/-- It enters its suite and does what it does. -/
structure Happens (e : Engine σ) (a : Activation σ) : Prop where
  admits : a.before.Admits a.name
  performs : Performs e (.suite a.name a.parent) a.before a.deeds (a.result e) (a.left e)

end Activation

theorem Performs.happens {task : Task} {s s' : State σ} {ds : List (Deed σ)}
    {result : Except Fault SuiteResult} (h : Performs e task s ds result s') :
    ∀ a ∈ task.activations s ds, a.Happens e := by
  intro a ha
  obtain ⟨hadmits, result', s'', hp⟩ := h.activation a ha
  refine ⟨hadmits, ?_⟩
  rw [Activation.result, Activation.left, hp.run_eq]
  exact hp

theorem Performs.ne_of_begun {name : String} {parent : Option Test} {s s' : State σ}
    {ds : List (Deed σ)} {result : Except Fault SuiteResult}
    (h : Performs e (.suite name parent) s ds result s') :
    ∀ a ∈ Deed.begunOf ds, a.name ≠ name := by
  cases h with
  | refused | untitled => simp [Deed.begunOf]
  | @visited _ _ _ _ _ _ s₁ s₂ s₃ hready htitle hsteps =>
    obtain ⟨screen, rfl⟩ := title_eq htitle
    rintro a ha rfl
    have hactive : (enter a.name s₁).active = s₁.active ++ [a.name] := rfl
    exact hsteps.not_active_of_begun a ha (hactive ▸ by simp)

theorem Activation.Happens.defaults_left {a : Activation σ} (h : a.Happens e) :
    (a.left e).plan.defaults a.name = (a.before.plan.defaults a.name).mended a.steps := by
  have hname := Plan.mem_suiteNames_of_runnable? h.admits.1
  have hleft := (h.performs.inherits trivial).left a.name hname h.admits.2
  have hbegun : cameTo a.name (Deed.begunOf a.deeds) = [] := cameTo_eq_nil h.performs.ne_of_begun
  have hsteps : cameTo a.name (a :: Deed.begunOf a.deeds) = a.steps := by
    rw [cameTo_cons, hbegun, List.append_nil, Activation.steps]
  rw [Task.activations, Activation.of_admitted h.admits, List.singleton_append] at hleft
  rw [hleft]
  exact congrArg _ hsteps

theorem activations_cons {a : Activation σ} (ha : a.before.Admits a.name)
    (tops : List (Activation σ)) :
    activations (a :: tops) = a :: (Deed.begunOf a.deeds ++ activations tops) := by
  rw [activations, List.flatMap_cons, Task.activations, Activation.of_admitted ha, activations]
  rfl

namespace Session

variable {requests : List Request} {s s' : State σ} {tops : List (Activation σ)}
  {a : Activation σ}

theorem happens (h : Session e requests s tops s') (ha : a ∈ activations tops) : a.Happens e := by
  obtain ⟨t, ht, ha⟩ := List.mem_flatMap.1 ha
  obtain ⟨result, s', hp⟩ := h.follows.performed t ht
  exact hp.happens a ha

theorem exists_activation (h : Session e requests s tops s') {t : Activation σ} (ht : t ∈ tops)
    {d : Deed σ} (hd : d ∈ Deed.allOf t.deeds) : ∃ a ∈ activations tops, d ∈ a.deeds := by
  obtain ⟨result, s', hp⟩ := h.follows.performed t ht
  obtain ⟨a, ha, hda⟩ := hp.mem_activation d hd
  exact ⟨a, List.mem_flatMap.2 ⟨t, ht, ha⟩, hda⟩

theorem tests_eq (h : Session e requests s tops s') (ha : a ∈ activations tops) :
    (a.before.plan.suite a.name).tests = (s.plan.suite a.name).tests :=
  Plan.tests_of_declared (h.inherits.admitted a ha).2.2 a.name

theorem steps_prefix (h : Session e requests s tops s') (ha : a ∈ activations tops) :
    a.steps <+: (s.plan.suite a.name).tests :=
  h.tests_eq ha ▸ (h.happens ha).performs.leads.steps

theorem cameTo_subset (h : Session e requests s tops s') {as : List (Activation σ)}
    (has : as ⊆ activations tops) (n : String) : cameTo n as ⊆ (s.plan.suite n).tests := by
  intro t ht
  obtain ⟨a, hfiltered, hta⟩ := List.mem_flatMap.1 ht
  obtain ⟨ha, hn⟩ := List.mem_filter.1 hfiltered
  have hname : a.name = n := by simpa using hn
  exact hname ▸ (h.steps_prefix (has ha)).subset hta

/-- An activation leaves the defaults that its suite was declared with, mended by the steps that the
earlier activations of the suite have come to, and then by its own. -/
theorem defaults_left (h : Session e requests s tops s') {earlier later : List (Activation σ)}
    (hsplit : activations tops = earlier ++ a :: later) :
    (a.left e).plan.defaults a.name =
      ((s.plan.defaults a.name).mended (cameTo a.name earlier)).mended a.steps := by
  have ha : a ∈ activations tops := hsplit ▸ by simp
  rw [(h.happens ha).defaults_left, h.inherits.begun earlier a later hsplit]

theorem effect_eq (h : Session e requests s tops s') (ha : a ∈ activations tops) {m : Moment σ}
    {x : Effect} (hm : .executed m x ∈ a.deeds) : x = e.effect m :=
  (h.happens ha).performs.effect_eq (Deed.mem_allOf hm)

end Session

end Engine

end Runbook
