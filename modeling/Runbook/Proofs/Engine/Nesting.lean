import Runbook.Proofs.Engine.Execution

namespace Runbook

/-- Different suites of the plan. -/
structure Plan.Nests (p : Plan) (stack : List String) : Prop where
  nodup : stack.Nodup
  registered : stack ⊆ p.suiteNames

namespace Plan.Nests

variable {p : Plan} {stack : List String}

theorem nil (p : Plan) : p.Nests [] := ⟨List.nodup_nil, List.nil_subset _⟩

theorem concat {name : String} (h : p.Nests stack) (hn : (p.runnable? name).isSome)
    (ha : name ∉ stack) : p.Nests (stack ++ [name]) where
  nodup := by
    refine List.nodup_append.2 ⟨h.nodup, by simp, ?_⟩
    rintro a hs b hb rfl
    exact ha (List.mem_singleton.1 hb ▸ hs)
  registered := List.append_subset.2
    ⟨h.registered, List.cons_subset.2 ⟨mem_suiteNames_of_runnable? hn, List.nil_subset _⟩⟩

theorem dropLast (h : p.Nests stack) : p.Nests stack.dropLast where
  nodup := h.nodup.sublist (List.dropLast_sublist _)
  registered := List.Subset.trans (List.dropLast_subset _) h.registered

theorem length_le (h : p.Nests stack) : stack.length ≤ p.suites.size :=
  h.nodup.length_le_of_subset h.registered

end Plan.Nests

namespace Engine

variable {σ : Type}

/-- The active suites are different suites of the plan. -/
structure Nested (p : Plan) (s : State σ) : Prop where
  active : p.Nests s.active
  declared : s.plan.declared = p.declared

namespace Nested

variable {p : Plan} {s s' : State σ} {name : String}

theorem congr (h : Nested p s) (ha : s'.active = s.active)
    (hd : s'.plan.declared = s.plan.declared) : Nested p s' where
  active := ha ▸ h.active
  declared := hd.trans h.declared

theorem enter (h : Nested p s) (hn : (s.plan.runnable? name).isSome) (ha : name ∉ s.active) :
    Nested p (enter name s) where
  active := h.active.concat ((Plan.isSome_runnable?_of_declared h.declared name).1 hn) ha
  declared := (declared_enter name s).trans h.declared

theorem leave (h : Nested p s) : Nested p (leave name s) where
  active := h.active.dropLast
  declared := (Plan.declared_closeSchema _ name).trans h.declared

end Nested

theorem frame_nested (e : Engine σ) (p : Plan) : Frame e fun s ds s' =>
    Nested p s → (∀ d ∈ Deed.allOf ds, Nested p d.moment.before) ∧ Nested p s' where
  trans h h' hs := by
    obtain ⟨hd, hs₁⟩ := h hs
    obtain ⟨hd', hs'⟩ := h' hs₁
    rw [Deed.allOf_append]
    exact ⟨List.forall_mem_append.2 ⟨hd, hd'⟩, hs'⟩
  told s notices screen hs := ⟨by simp [Deed.allOf], hs.congr rfl rfl⟩
  visited hn ha h hs := by
    obtain ⟨hd, hs'⟩ := h (hs.enter hn ha)
    exact ⟨hd, hs'.leave⟩
  reached m result below s' h hs := by
    obtain ⟨hd, hs'⟩ := h hs
    rw [Deed.allOf_reached]
    exact ⟨List.forall_mem_append.2 ⟨hd, List.forall_mem_singleton.2 hs⟩, hs'⟩
  defaults m hs := by
    rw [Deed.allOf_defaults]
    have hd := m.before.plan.declared_updateSuite m.suite (f := (·.applyInit m.step)) fun _ => rfl
    exact ⟨List.forall_mem_singleton.2 hs, hs.congr rfl hd⟩
  executed m runner notices screen hs := by
    rw [Deed.allOf_executed]
    exact ⟨List.forall_mem_singleton.2 hs, hs.congr rfl rfl⟩

/-- The active suites when this one has been entered, if it can be entered. -/
def State.entered? (s : State σ) (name : String) : Option (List String) :=
  if (s.plan.runnable? name).isSome ∧ name ∉ s.active then some (enter name s).active else none

theorem Nested.nests_entered {p : Plan} {s : State σ} {name : String} {stack : List String}
    (h : Nested p s) (hs : stack ∈ s.entered? name) : p.Nests stack := by
  unfold State.entered? at hs
  split at hs
  · rename_i hn
    cases hs
    exact (h.enter hn.1 hn.2).active
  · cases hs

/-- The active suites at a step, and when the suite that it reaches has been entered. -/
def Deed.stacks : Deed σ → List (List String)
  | reached m _ _ => m.before.active :: (m.before.entered? m.step.ref).toList
  | defaults m | executed m _ => [m.before.active]

structure Visit (σ : Type) where
  name : String
  before : State σ
  deeds : List (Deed σ)

/-- The active suites each time that a suite is entered and at each step. -/
def Visit.stacks (v : Visit σ) : List (List String) :=
  (v.before.entered? v.name).toList ++ (Deed.allOf v.deeds).flatMap Deed.stacks

theorem Nested.nests_stacks {p : Plan} {d : Deed σ} {stack : List String}
    (h : Nested p d.moment.before) (hs : stack ∈ d.stacks) : p.Nests stack := by
  cases d with
  | reached m below result =>
    obtain rfl | hs := List.mem_cons.1 hs
    · exact h.active
    · exact h.nests_entered (Option.mem_toList.1 hs)
  | defaults m =>
    cases List.mem_singleton.1 hs
    exact h.active
  | executed m x =>
    cases List.mem_singleton.1 hs
    exact h.active

/-- No suite is entered while it is active. -/
theorem Performs.nests_stacks {e : Engine σ} {p : Plan} {name : String} {parent : Option Test}
    {s s' : State σ} {ds : List (Deed σ)} {result : Except Fault SuiteResult}
    (h : Performs e (.suite name parent) s ds result s') (hs : Nested p s) :
    ∀ stack ∈ (Visit.mk name s ds).stacks, p.Nests stack := by
  obtain ⟨hd, -⟩ := (frame_nested e p).of_performs h hs
  refine List.forall_mem_append.2 ⟨fun stack hm => hs.nests_entered (Option.mem_toList.1 hm), ?_⟩
  intro stack hm
  obtain ⟨d, hds, hm⟩ := List.mem_flatMap.1 hm
  exact (hd d hds).nests_stacks hm

/-- Any greater bound on how deep suites reach each other gives the same. -/
theorem run_runWithin (e : Engine σ) {depth : Nat} {s : State σ} (hs : s.plan.suites.size < depth)
    (name : String) (parent : Option Test) :
    (e.runWithin depth name parent).run s = (e.run name parent).run s := by
  obtain ⟨ds, h⟩ := performs_runWithin e (Nat.lt_of_le_of_lt (room_le_size s) hs) name parent
  exact h.run_eq.symm

end Engine

end Runbook
