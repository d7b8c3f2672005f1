import Runbook.Proofs.Engine.Counting
import Runbook.Proofs.Engine.Nesting
import Runbook.Proofs.Loop

namespace Runbook.Engine

variable {σ : Type} {e : Engine σ}

def Task.stack (s : State σ) : Task → List String
  | .suite name _ => s.active ++ [name]
  | .steps _ _ _ _ => s.active

/-- The steps that are left are steps of the suite that was entered last. -/
def Task.Own (p : Plan) (s : State σ) : Task → Prop
  | .suite _ _ => True
  | .steps name _ ts _ => s.active.getLast? = some name ∧ ts ⊆ (p.suite name).tests

/-- The suites of a task are a chain in which each has a step that names the next. -/
structure Task.Chained (p : Plan) (s : State σ) (task : Task) : Prop where
  declared : s.plan.declared = p.declared
  runnable : ∀ n ∈ s.active, (p.runnable? n).isSome
  refers : (task.stack s).IsChain p.Refers
  own : task.Own p s

namespace Task.Chained

variable {p : Plan} {s s' : State σ} {name : String} {parent : Option Test} {t : Test}
  {ts : List Test} {x : SuiteResult}

theorem enter {suite : Suite} {screen : String} (h : Task.Chained p s (.suite name parent))
    (hn : s.plan.runnable? name = some suite) (x : SuiteResult) :
    Task.Chained p { enter name s with screen := screen } (.steps name parent suite.tests x) where
  declared := (declared_enter name s).trans h.declared
  runnable := by
    refine List.forall_mem_append.2 ⟨h.runnable, List.forall_mem_singleton.2 ?_⟩
    rw [← Plan.isSome_runnable?_of_declared h.declared, hn, Option.isSome_some]
  refers := h.refers
  own := by
    refine ⟨List.getLast?_concat, ?_⟩
    rw [← Plan.tests_of_declared h.declared, Plan.suite_of_runnable? hn]
    exact List.Subset.refl _

theorem reach (h : Task.Chained p s (.steps name parent (t :: ts) x)) (href : t.ref ≠ "")
    (parent' : Option Test) : Task.Chained p s (.suite t.ref parent') where
  declared := h.declared
  runnable := h.runnable
  refers := by
    refine h.refers.append (List.isChain_singleton _) fun a ha b hb => ?_
    obtain ⟨hlast, hts⟩ := h.own
    rw [Task.stack, hlast] at ha
    cases ha
    cases hb
    exact ⟨t, hts List.mem_cons_self, href, rfl⟩
  own := trivial

theorem next (h : Task.Chained p s (.steps name parent (t :: ts) x)) {ds : List (Deed σ)}
    (hs : Trail s ds s') (y : SuiteResult) : Task.Chained p s' (.steps name parent ts y) where
  declared := hs.declared.trans h.declared
  runnable := hs.active ▸ h.runnable
  refers := by
    have hr : s.active.IsChain p.Refers := h.refers
    rwa [← hs.active] at hr
  own := ⟨hs.active ▸ h.own.1, List.subset_of_cons_subset h.own.2⟩

theorem start {name : String} (hs : s.active = []) (hp : s.plan.declared = p.declared)
    (parent : Option Test) : Task.Chained p s (.suite name parent) where
  declared := hp
  runnable := by simp [hs]
  refers := by
    rw [Task.stack, hs]
    exact List.isChain_singleton _
  own := trivial

end Task.Chained

/-- A suite is said to be reached again only if it is, unless a call has raised so. -/
theorem Performs.loop {p : Plan} {task : Task} {s s' : State σ} {ds : List (Deed σ)}
    {result : Except Fault SuiteResult} {chain : List String} (h : Performs e task s ds result s')
    (hc : task.Chained p s) (hr : result = .error (.recursion chain)) :
    Deed.Raised ds (.recursion chain) ∨ p.Loop (task.stack s) chain := by
  -- The invariant is that the active suites, with what the task adds, are a chain of references.
  induction h with
  | refused hready =>
    cases hr
    obtain ⟨-, ⟨-, hf⟩ | ⟨hs, hn, hf⟩⟩ := ready_error hready
    · cases hf
    · cases hf
      refine .inr ⟨List.prefix_rfl, ?_, hc.refers, ⟨_, _, rfl, hn⟩⟩
      refine List.forall_mem_append.2 ⟨hc.runnable, List.forall_mem_singleton.2 ?_⟩
      exact (Plan.isSome_runnable?_of_declared hc.declared _).1 hs
  | untitled hready htitle =>
    cases hr
    exact (Screen.ofData_suiteStart (display_error htitle)).elim
  | @visited name parent suite ds result s s₁ s₂ s₃ hready htitle hsteps ih =>
    obtain ⟨rfl, hn, -⟩ := ready_ok hready
    obtain ⟨screen, rfl⟩ := title_eq htitle
    exact ih (hc.enter hn _) hr
  | done => cases hr
  | raised href hbelow hs ih =>
    cases hr
    obtain ⟨hr, -⟩ := settled_error hs
    exact (ih (hc.reach href _) hr).imp (·.reached _ _) (·.of_start (List.prefix_append _ _))
  | handed href hbelow hy hx ih => cases hr
  | @resumed name parent ts x x' y below ds result result' t s s₁ s' href hbelow hy hx hrest ihb
      ihr =>
    have hl : Deed.Raised ds (.recursion chain) ∨ p.Loop s₁.active chain :=
      ihr (hc.next hbelow.trail _) hr
    rw [hbelow.trail.active] at hl
    exact hl.imp_left (·.tail _)
  | @defaults name parent ts x ds result t s s' href hinit hrest ih =>
    exact (ih (hc.next (Trail.defaults ⟨s, name, parent, t⟩) _) hr).imp_left (·.tail _)
  | failed href hinit hrun =>
    cases hr
    obtain hd | hr := carryOut_error hrun
    · exact hd.elim
    · exact .inl hr
  | cut href hinit hrun hcut hshown hresult =>
    cases map_eq_error (hresult.symm.trans hr)
    exact (Screen.ofData_print (display_error hshown)).elim
  | @executed name parent ts x r ds result t s s₁ s' href hinit hrun hcut hrest ih =>
    have hs := (frame_trail e).of_carryOut ⟨s, name, parent, t⟩
    rw [hrun] at hs
    have hl : Deed.Raised ds (.recursion chain) ∨ p.Loop s₁.active chain := ih (hc.next hs _) hr
    rw [hs.active] at hl
    exact hl.imp_left (·.tail _)

/-- What is left of running a suite of the plan: its counts are added to those of the plan. -/
def counted (x : SuiteResult) (s : State σ) : State σ :=
  { s with plan := { s.plan with counts := s.plan.counts + x.counts } }

/-- `PerformsAll e names s visits result s'`: from `s` on the engine runs these suites one after the
other, which comes to this result in `s'`. -/
inductive PerformsAll (e : Engine σ) : List String → State σ → List (Visit σ) →
    Except Fault (List SuiteResult) → State σ → Prop where
  | done {s} : PerformsAll e [] s [] (.ok []) s
  | raised {name names ds f} {s s' : State σ}
      (hrun : Performs e (.suite name none) s ds (.error f) s') :
      PerformsAll e (name :: names) s [⟨name, s, ds⟩] (.error f) s'
  | next {name names ds x visits result} {s s₁ s' : State σ}
      (hrun : Performs e (.suite name none) s ds (.ok x) s₁)
      (hrest : PerformsAll e names (counted x s₁) visits result s') :
      PerformsAll e (name :: names) s (⟨name, s, ds⟩ :: visits) (result.map (x :: ·)) s'

theorem run_runAll_cons (e : Engine σ) (name : String) (names : List String) (s : State σ) :
    (e.runAll (name :: names)).run s = match (e.run name none).run s with
      | (.error f, s₁) => (.error f, s₁)
      | (.ok x, s₁) => (((e.runAll names).run (counted x s₁)).1.map (x :: ·),
          ((e.runAll names).run (counted x s₁)).2) := by
  rw [runAll, run_bind]
  rcases (e.run name none).run s with ⟨f | x, s₁⟩
  · rfl
  · simp only
    rw [run_updatePlan_bind, run_bind, ← counted]
    rcases (e.runAll names).run (counted x s₁) with ⟨f | xs, s'⟩ <;> rfl

theorem performs_runAll (e : Engine σ) (names : List String) (s : State σ) :
    ∃ visits, PerformsAll e names s visits ((e.runAll names).run s).1
      ((e.runAll names).run s).2 := by
  induction names generalizing s with
  | nil => exact ⟨[], .done⟩
  | cons name names ih =>
    obtain ⟨ds, h⟩ := performs_run e name none s
    rw [run_runAll_cons]
    cases hrun : (e.run name none).run s with
    | mk result s₁ =>
      rw [hrun] at h
      cases result with
      | error f => exact ⟨_, .raised h⟩
      | ok x =>
        obtain ⟨visits, hrest⟩ := ih (counted x s₁)
        exact ⟨_, .next h hrest⟩

theorem PerformsAll.visits {p : Plan} {names : List String} {s s' : State σ}
    {visits : List (Visit σ)} {result : Except Fault (List SuiteResult)}
    (h : PerformsAll e names s visits result s') (hs : s.active = [])
    (hp : s.plan.declared = p.declared) :
    s'.active = [] ∧ ∀ v ∈ visits, v.name ∈ names ∧ v.before.active = [] ∧
      v.before.plan.declared = p.declared ∧
      ∃ y s'', Performs e (.suite v.name none) v.before v.deeds y s'' := by
  induction h with
  | done => exact ⟨hs, by simp⟩
  | raised hrun =>
    refine ⟨hrun.trail.active.trans hs, List.forall_mem_singleton.2 ?_⟩
    exact ⟨List.mem_cons_self, hs, hp, _, _, hrun⟩
  | next hrun hrest ih =>
    obtain ⟨hs', hv⟩ := ih (hrun.trail.active.trans hs) (hrun.trail.declared.trans hp)
    refine ⟨hs', List.forall_mem_cons.2 ⟨⟨List.mem_cons_self, hs, hp, _, _, hrun⟩, ?_⟩⟩
    intro v hm
    obtain ⟨hn, hv⟩ := hv v hm
    exact ⟨List.mem_cons_of_mem _ hn, hv⟩

theorem PerformsAll.loop {p : Plan} {names : List String} {s s' : State σ}
    {visits : List (Visit σ)} {result : Except Fault (List SuiteResult)} {chain : List String}
    (h : PerformsAll e names s visits result s') (hs : s.active = [])
    (hp : s.plan.declared = p.declared) (hr : result = .error (.recursion chain)) :
    (∃ v ∈ visits, Deed.Raised v.deeds (.recursion chain)) ∨
      ∃ name ∈ names, p.Loop [name] chain := by
  induction h with
  | done => cases hr
  | raised hrun =>
    cases hr
    have hl := hrun.loop (.start hs hp none) rfl
    rw [Task.stack, hs] at hl
    exact hl.imp (fun hraised => ⟨_, List.mem_singleton.2 rfl, hraised⟩)
      fun hl => ⟨_, List.mem_cons_self, hl⟩
  | next hrun hrest ih =>
    obtain ⟨v, hv, hraised⟩ | ⟨name, hn, hl⟩ := ih (hrun.trail.active.trans hs)
      (hrun.trail.declared.trans hp) (map_eq_error hr)
    · exact .inl ⟨v, List.mem_cons_of_mem _ hv, hraised⟩
    · exact .inr ⟨name, List.mem_cons_of_mem _ hn, hl⟩

def circle : Plan := planOf [
  ("orders", [("list", "", "get"), ("refund", "refunds", "")]),
  ("refunds", [("show", "", "get"), ("order", "orders", "")])]

end Runbook.Engine
