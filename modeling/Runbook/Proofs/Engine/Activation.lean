import Runbook.Proofs.Engine.Execution

namespace Runbook.Engine

variable {σ : Type}

def State.Admits (s : State σ) (name : String) : Prop :=
  (s.plan.runnable? name).isSome ∧ name ∉ s.active

instance (s : State σ) (name : String) : Decidable (s.Admits name) :=
  inferInstanceAs (Decidable (_ ∧ _))

/-- An activation of a suite: how and from where the suite is entered, and the steps that it comes
to. -/
structure Activation (σ : Type) where
  name : String
  parent : Option Test
  before : State σ
  deeds : List (Deed σ)

namespace Activation

/-- To run a suite activates it, unless it cannot be entered. -/
def of (name : String) (parent : Option Test) (s : State σ) (ds : List (Deed σ)) :
    List (Activation σ) :=
  if s.Admits name then [⟨name, parent, s, ds⟩] else []

theorem of_admitted {name : String} {s : State σ} (h : s.Admits name) (parent : Option Test)
    (ds : List (Deed σ)) : of name parent s ds = [⟨name, parent, s, ds⟩] := if_pos h

theorem of_refused {name : String} {s : State σ} (h : ¬ s.Admits name) (parent : Option Test)
    (ds : List (Deed σ)) : of name parent s ds = [] := if_neg h

end Activation

namespace Deed

mutual

/-- The activations that a step leads to, an outer one before those below it. -/
def begun : Deed σ → List (Activation σ)
  | reached m below _ =>
    Activation.of m.step.ref (some m.forwarded) m.before below ++ begunOf below
  | defaults _ => []
  | executed _ _ => []

/-- The activations that steps lead to, in the order in which they begin. -/
def begunOf : List (Deed σ) → List (Activation σ)
  | [] => []
  | d :: ds => d.begun ++ begunOf ds

end

theorem begunOf_append (ds ds' : List (Deed σ)) :
    begunOf (ds ++ ds') = begunOf ds ++ begunOf ds' := by
  induction ds with
  | nil => rfl
  | cons d ds ih => simp only [List.cons_append, begunOf, ih, List.append_assoc]

theorem begunOf_cons (d : Deed σ) (ds : List (Deed σ)) :
    begunOf (d :: ds) = begunOf [d] ++ begunOf ds := begunOf_append [d] ds

end Deed

def Deed.activates : Deed σ → Bool
  | reached m _ _ => decide (m.before.Admits m.step.ref)
  | defaults _ | executed _ _ => false

theorem Activation.length_of (name : String) (parent : Option Test) (s : State σ)
    (ds : List (Deed σ)) : (of name parent s ds).length = if s.Admits name then 1 else 0 := by
  unfold of
  split <;> rfl

namespace Deed

mutual

theorem length_begun : ∀ d : Deed σ, d.begun.length = d.all.countP activates
  | reached m below result => by
    rw [begun, all, List.length_append, Activation.length_of, length_begunOf below,
      List.countP_append, List.countP_singleton, activates, Nat.add_comm]
    simp only [decide_eq_true_eq]
  | defaults _ => rfl
  | executed _ _ => rfl

theorem length_begunOf : ∀ ds : List (Deed σ), (begunOf ds).length = (allOf ds).countP activates
  | [] => rfl
  | d :: ds => by
    rw [begunOf, allOf, List.length_append, length_begun d, length_begunOf ds, List.countP_append]

end

end Deed

def Task.activations (s : State σ) (ds : List (Deed σ)) : Task → List (Activation σ)
  | .suite name parent => Activation.of name parent s ds ++ Deed.begunOf ds
  | .steps _ _ _ _ => Deed.begunOf ds

theorem Deed.begunOf_reached (m : Moment σ) (below : List (Deed σ))
    (result : Except Fault SuiteResult) :
    Deed.begunOf [.reached m below result] =
      (Task.suite m.step.ref (some m.forwarded)).activations m.before below := by
  rw [Deed.begunOf, Deed.begun, Deed.begunOf, List.append_nil, Task.activations]

theorem not_admits_of_ready {name : String} {s s' : State σ} {f : Fault}
    (h : (ready name).run s = (.error f, s')) : ¬ s.Admits name := by
  rintro ⟨hs, hn⟩
  obtain ⟨-, ⟨hs', -⟩ | ⟨-, hn', -⟩⟩ := ready_error h
  · simp [hs'] at hs
  · exact hn hn'

theorem admits_of_ready {name : String} {s s' : State σ} {suite : Suite}
    (h : (ready name).run s = (.ok suite, s')) : s' = s ∧ s.Admits name := by
  obtain ⟨rfl, hs, hn⟩ := ready_ok h
  exact ⟨rfl, by simp [hs], hn⟩

variable {e : Engine σ}

theorem Performs.admits {name : String} {parent : Option Test} {s s' : State σ}
    {ds : List (Deed σ)} {result : Except Fault SuiteResult}
    (h : Performs e (.suite name parent) s ds result s') (hds : ds ≠ []) : s.Admits name := by
  cases h with
  | refused hready => exact (hds rfl).elim
  | untitled hready htitle => exact (hds rfl).elim
  | visited hready htitle hsteps =>
    obtain ⟨rfl, ha⟩ := admits_of_ready hready
    exact ha

/-- Every activation is performed as a suite that is run on its own. -/
theorem Performs.activation {task : Task} {s s' : State σ} {ds : List (Deed σ)}
    {result : Except Fault SuiteResult} (h : Performs e task s ds result s') :
    ∀ a ∈ task.activations s ds, a.before.Admits a.name ∧
      ∃ result' s'', Performs e (.suite a.name a.parent) a.before a.deeds result' s'' := by
  induction h with
  | refused hready =>
    rw [Task.activations, Activation.of_refused (not_admits_of_ready hready)]
    simp [Deed.begunOf]
  | untitled hready htitle =>
    obtain ⟨rfl, ha⟩ := admits_of_ready hready
    rw [Task.activations, Activation.of_admitted ha]
    exact List.forall_mem_singleton.2 ⟨ha, _, _, .untitled hready htitle⟩
  | visited hready htitle hsteps ih =>
    obtain ⟨rfl, ha⟩ := admits_of_ready hready
    rw [Task.activations, Activation.of_admitted ha]
    exact List.forall_mem_cons.2 ⟨⟨ha, _, _, .visited hready htitle hsteps⟩, ih⟩
  | done => simp [Task.activations, Deed.begunOf]
  | raised href hbelow hf ih =>
    rw [Task.activations, Deed.begunOf_reached]
    exact ih
  | handed href hbelow hy hx ih =>
    rw [Task.activations, Deed.begunOf_reached]
    exact ih
  | resumed href hbelow hy hx hrest ihb ihr =>
    rw [Task.activations, Deed.begunOf_cons, Deed.begunOf_reached]
    exact List.forall_mem_append.2 ⟨ihb, ihr⟩
  | defaults href hinit hrest ih => exact ih
  | failed href hinit hrun => simp [Task.activations, Deed.begunOf, Deed.begun]
  | cut href hinit hrun hcut hshown hresult =>
    simp [Task.activations, Deed.begunOf, Deed.begun]
  | executed href hinit hrun hcut hrest ih => exact ih

theorem Performs.mem_own_or_begun {task : Task} {s s' : State σ} {ds : List (Deed σ)}
    {result : Except Fault SuiteResult} (h : Performs e task s ds result s') :
    ∀ d ∈ Deed.allOf ds, d ∈ ds ∨ ∃ a ∈ Deed.begunOf ds, d ∈ a.deeds := by
  -- Below a step that reaches a suite, the steps of that suite are those of the activation.
  have hreached : ∀ {m : Moment σ} {below : List (Deed σ)} {result result' s'},
      Performs e (.suite m.step.ref (some m.forwarded)) m.before below result s' →
      (∀ d ∈ Deed.allOf below, d ∈ below ∨ ∃ a ∈ Deed.begunOf below, d ∈ a.deeds) →
      ∀ d ∈ Deed.allOf [.reached m below result'], d = .reached m below result' ∨
        ∃ a ∈ Deed.begunOf [.reached m below result'], d ∈ a.deeds := by
    intro m below result result' s' hb ih d hd
    rw [Deed.allOf_reached] at hd
    rw [Deed.begunOf_reached, Task.activations]
    obtain hd | hd := List.mem_append.1 hd
    · right
      obtain hd | ⟨a, ha, hd⟩ := ih d hd
      · have hm := hb.admits (List.ne_nil_of_mem hd)
        rw [Activation.of_admitted hm]
        exact ⟨_, List.mem_cons_self, hd⟩
      · exact ⟨a, List.mem_append_right _ ha, hd⟩
    · exact .inl (List.mem_singleton.1 hd)
  induction h with
  | refused hready | done => simp [Deed.allOf]
  | untitled hready htitle => simp [Deed.allOf]
  | visited hready htitle hsteps ih => exact ih
  | raised href hbelow hf ih =>
    intro d hd
    exact (hreached (m := ⟨_, _, _, _⟩) hbelow ih d hd).imp_left List.mem_singleton.2
  | handed href hbelow hy hx ih =>
    intro d hd
    exact (hreached (m := ⟨_, _, _, _⟩) hbelow ih d hd).imp_left List.mem_singleton.2
  | resumed href hbelow hy hx hrest ihb ihr =>
    intro d hd
    rw [Deed.allOf_cons] at hd
    rw [Deed.begunOf_cons]
    obtain hd | hd := List.mem_append.1 hd
    · obtain rfl | ⟨a, ha, hd⟩ := hreached (m := ⟨_, _, _, _⟩) hbelow ihb d hd
      · exact .inl List.mem_cons_self
      · exact .inr ⟨a, List.mem_append_left _ ha, hd⟩
    · obtain hd | ⟨a, ha, hd⟩ := ihr d hd
      · exact .inl (List.mem_cons_of_mem _ hd)
      · exact .inr ⟨a, List.mem_append_right _ ha, hd⟩
  | defaults href hinit hrest ih =>
    refine List.forall_mem_cons.2 ⟨.inl List.mem_cons_self, fun d hd => ?_⟩
    exact (ih d hd).imp_left (List.mem_cons_of_mem _)
  | failed href hinit hrun => exact List.forall_mem_singleton.2 (.inl (List.mem_singleton.2 rfl))
  | cut href hinit hrun hcut hshown hresult =>
    exact List.forall_mem_singleton.2 (.inl (List.mem_singleton.2 rfl))
  | executed href hinit hrun hcut hrest ih =>
    refine List.forall_mem_cons.2 ⟨.inl List.mem_cons_self, fun d hd => ?_⟩
    exact (ih d hd).imp_left (List.mem_cons_of_mem _)

/-- Every step at any depth is a step of an activation. -/
theorem Performs.mem_activation {name : String} {parent : Option Test} {s s' : State σ}
    {ds : List (Deed σ)} {result : Except Fault SuiteResult}
    (h : Performs e (.suite name parent) s ds result s') :
    ∀ d ∈ Deed.allOf ds, ∃ a ∈ (Task.suite name parent).activations s ds, d ∈ a.deeds := by
  intro d hd
  rw [Task.activations]
  obtain hd | ⟨a, ha, hd⟩ := h.mem_own_or_begun d hd
  · rw [Activation.of_admitted (h.admits (List.ne_nil_of_mem hd))]
    exact ⟨_, List.mem_cons_self, hd⟩
  · exact ⟨a, List.mem_append_right _ ha, hd⟩

namespace Deed

mutual

theorem mem_begun {a : Activation σ} : ∀ d : Deed σ, a ∈ d.begun → ∃ m below result,
    reached m below result ∈ d.all ∧ a = ⟨m.step.ref, some m.forwarded, m.before, below⟩
  | reached m below result, h => by
    rw [begun] at h
    rw [all]
    obtain h | h := List.mem_append.1 h
    · refine ⟨m, below, result, List.mem_append_right _ (List.mem_singleton.2 rfl), ?_⟩
      unfold Activation.of at h
      split at h
      · exact List.mem_singleton.1 h
      · simp at h
    · obtain ⟨m', below', result', hm, ha⟩ := mem_begunOf below h
      exact ⟨m', below', result', List.mem_append_left _ hm, ha⟩
  | defaults m, h => by simp [begun] at h
  | executed m x, h => by simp [begun] at h

theorem mem_begunOf {a : Activation σ} : ∀ ds : List (Deed σ), a ∈ begunOf ds → ∃ m below result,
    reached m below result ∈ allOf ds ∧ a = ⟨m.step.ref, some m.forwarded, m.before, below⟩
  | [], h => by simp [begunOf] at h
  | d :: ds, h => by
    rw [begunOf] at h
    rw [allOf]
    obtain h | h := List.mem_append.1 h
    · obtain ⟨m, below, result, hm, ha⟩ := mem_begun d h
      exact ⟨m, below, result, List.mem_append_left _ hm, ha⟩
    · obtain ⟨m, below, result, hm, ha⟩ := mem_begunOf ds h
      exact ⟨m, below, result, List.mem_append_right _ hm, ha⟩

end

end Deed

theorem Task.mem_activations {name : String} {parent : Option Test} {s : State σ}
    {ds : List (Deed σ)} {a : Activation σ}
    (h : a ∈ (Task.suite name parent).activations s ds) :
    a = ⟨name, parent, s, ds⟩ ∨ ∃ m below result, Deed.reached m below result ∈ Deed.allOf ds ∧
      a = ⟨m.step.ref, some m.forwarded, m.before, below⟩ := by
  rw [Task.activations] at h
  obtain h | h := List.mem_append.1 h
  · left
    unfold Activation.of at h
    split at h
    · exact List.mem_singleton.1 h
    · simp at h
  · exact .inr (Deed.mem_begunOf ds h)

end Runbook.Engine
