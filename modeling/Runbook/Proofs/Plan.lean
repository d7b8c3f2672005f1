import Runbook.Plan
import Runbook.Proofs.Registry

namespace Runbook

def Suite.declared (s : Suite) : Suite :=
  { s with params := .empty, strict := false, schema := none }

namespace Plan

def declared (p : Plan) : Plan :=
  { p with
    store := none
    suites := p.suites.mapValues Suite.declared
    results := []
    counts := .zero
    newFailures := [] }

theorem updateSuite_eq (p : Plan) (name : String) (f : Suite → Suite) :
    ∃ suites, p.updateSuite name f = { p with suites := suites } := by
  unfold updateSuite
  split
  · exact ⟨_, rfl⟩
  · exact ⟨p.suites, rfl⟩

theorem declared_updateSuite (p : Plan) (name : String) {f : Suite → Suite}
    (hf : ∀ s, (f s).declared = s.declared) : (p.updateSuite name f).declared = p.declared := by
  unfold updateSuite
  cases h : p.suites.get? name with
  | none => rfl
  | some s =>
    have hs : (p.suites.mapValues Suite.declared).get? name = some (f s).declared := by
      rw [Registry.get?_mapValues, h, Option.map_some, hf]
    simp only [declared, Registry.mapValues_put, Registry.put_of_get? hs]

theorem get?_updateSuite (p : Plan) (name n : String) (f : Suite → Suite) :
    (p.updateSuite name f).suites.get? n =
      if name = n then (p.suites.get? n).map f else p.suites.get? n := by
  unfold updateSuite
  cases h : p.suites.get? name with
  | none =>
    by_cases hn : name = n
    · subst n
      simp [h]
    · simp [hn]
  | some s =>
    simp only [Registry.get?_put]
    by_cases hn : name = n
    · subst n
      simp [h]
    · simp [hn]

theorem suite_updateSuite_of_ne {name n : String} (p : Plan) (f : Suite → Suite) (hn : name ≠ n) :
    (p.updateSuite name f).suite n = p.suite n := by
  obtain ⟨suites, hp⟩ := p.updateSuite_eq name f
  have hg := p.get?_updateSuite name n f
  rw [hp] at hg ⊢
  simp only [hn, if_false] at hg
  simp only [suite, hg, createSuite]

theorem suite_updateSuite {name : String} {p : Plan} {s : Suite} (f : Suite → Suite)
    (hs : p.suites.get? name = some s) : (p.updateSuite name f).suite name = f s := by
  have hg := p.get?_updateSuite name name f
  rw [if_pos rfl, hs, Option.map_some] at hg
  rw [suite, hg, Option.getD_some]

theorem field_updateSuite {α : Type} (g : Suite → α) (p : Plan) (name n : String)
    {f : Suite → Suite} (hf : ∀ s, g (f s) = g s) :
    g ((p.updateSuite name f).suite n) = g (p.suite n) := by
  by_cases hn : name = n
  · subst n
    cases hs : p.suites.get? name with
    | none => rw [updateSuite, hs]
    | some s => rw [suite_updateSuite f hs, suite, hs, Option.getD_some, hf]
  · rw [suite_updateSuite_of_ne p f hn]

theorem store_updateSuite (p : Plan) (name : String) (f : Suite → Suite) :
    (p.updateSuite name f).store = p.store := by
  obtain ⟨suites, hp⟩ := p.updateSuite_eq name f
  rw [hp]

theorem openSchema_eq (p : Plan) (name : String) :
    ∃ store suites, p.openSchema name = { p with store := store, suites := suites } := by
  unfold openSchema
  split
  · rename_i clone store _
    obtain ⟨suites, hs⟩ := updateSuite_eq { p with store := some store } name
      fun s => { s with schema := some clone }
    exact ⟨some store, suites, hs⟩
  · obtain ⟨suites, hs⟩ := updateSuite_eq p name fun s => { s with schema := none }
    exact ⟨p.store, suites, hs⟩

theorem declared_openSchema (p : Plan) (name : String) :
    (p.openSchema name).declared = p.declared := by
  unfold openSchema
  split
  · exact declared_updateSuite _ name fun _ => rfl
  · exact declared_updateSuite _ name fun _ => rfl

theorem declared_closeSchema (p : Plan) (name : String) :
    (p.closeSchema name).declared = p.declared :=
  declared_updateSuite p name fun _ => rfl

theorem store_openSchema (p : Plan) (name : String) :
    (p.openSchema name).store = p.store.map fun store => store.clone.2 := by
  unfold openSchema
  cases h : p.store <;> simp [store_updateSuite, h]

theorem suite_openSchema_of_ne {name n : String} (p : Plan) (hn : name ≠ n) :
    (p.openSchema name).suite n = p.suite n := by
  unfold openSchema
  split
  · rw [suite_updateSuite_of_ne _ _ hn]
    rfl
  · exact suite_updateSuite_of_ne p _ hn

theorem schema_openSchema {name : String} {p : Plan} {s : Suite}
    (hs : p.suites.get? name = some s) :
    ((p.openSchema name).suite name).schema = p.store.map fun store => store.clone.1 := by
  unfold openSchema
  cases h : p.store with
  | none => simp only [Option.map_none, suite_updateSuite _ hs]
  | some store =>
    have hs' : ({ p with store := some store.clone.2 } : Plan).suites.get? name = some s := hs
    simp only [Option.map_some, suite_updateSuite _ hs']

theorem store_closeSchema (p : Plan) (name : String) : (p.closeSchema name).store = p.store :=
  store_updateSuite p name _

theorem suite_closeSchema_of_ne {name n : String} (p : Plan) (hn : name ≠ n) :
    (p.closeSchema name).suite n = p.suite n := suite_updateSuite_of_ne p _ hn

theorem schema_closeSchema (p : Plan) (name : String) :
    ((p.closeSchema name).suite name).schema = none := by
  unfold closeSchema
  cases hs : p.suites.get? name with
  | none => simp [updateSuite, suite, hs, createSuite]
  | some s => rw [suite_updateSuite _ hs]

theorem schema_suite {p : Plan} (h : ∀ suite ∈ p.suites.values, suite.schema = none)
    (name : String) : (p.suite name).schema = none := by
  rw [suite]
  cases hs : p.suites.get? name with
  | none => rfl
  | some suite => exact h suite (Registry.mem_values_of_get? hs)

variable {p q : Plan}

theorem suiteNames_of_declared (h : p.declared = q.declared) : p.suiteNames = q.suiteNames := by
  have ho : p.declared.suites.order = q.declared.suites.order := by rw [h]
  exact ho

theorem tests_suite (p : Plan) (n : String) :
    (p.suite n).tests = ((p.declared.suites.get? n).map (·.tests)).getD [] := by
  simp only [declared, Registry.get?_mapValues, suite]
  cases p.suites.get? n <;> rfl

theorem tests_of_declared (h : p.declared = q.declared) (n : String) :
    (p.suite n).tests = (q.suite n).tests := by
  rw [tests_suite, tests_suite, h]

theorem runnable?_eq_some_iff {n : String} {s : Suite} :
    p.runnable? n = some s ↔ p.suites.get? n = some s ∧ s.tests ≠ [] := by
  simp [runnable?]

theorem suite_of_runnable? {n : String} {s : Suite} (h : p.runnable? n = some s) :
    p.suite n = s := by
  rw [suite, (runnable?_eq_some_iff.1 h).1, Option.getD_some]

theorem isSome_runnable?_iff {n : String} : (p.runnable? n).isSome ↔ (p.suite n).tests ≠ [] := by
  simp only [runnable?, suite]
  cases p.suites.get? n <;> simp [createSuite]

theorem isSome_runnable?_of_declared (h : p.declared = q.declared) (n : String) :
    (p.runnable? n).isSome ↔ (q.runnable? n).isSome := by
  rw [isSome_runnable?_iff, isSome_runnable?_iff, tests_of_declared h]

theorem mem_suiteNames_of_runnable? {n : String} (h : (p.runnable? n).isSome) :
    n ∈ p.suiteNames := by
  obtain ⟨s, hs⟩ := Option.isSome_iff_exists.1 h
  exact (Registry.mem_order_iff _ _).2 (Option.isSome_iff_exists.2 ⟨s, (runnable?_eq_some_iff.1 hs).1⟩)

end Plan

end Runbook
