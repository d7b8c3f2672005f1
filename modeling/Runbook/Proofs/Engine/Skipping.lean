import Runbook.Proofs.Engine.Counting
import Runbook.Proofs.Engine.Modes
import Runbook.Proofs.Engine.Session

namespace Runbook

theorem Dict.isEmpty_iff_keys {κ α : Type} [BEq κ] {d : Dict κ α} :
    d.isEmpty = true ↔ d.keys = [] := by
  rw [isEmpty, keys, List.isEmpty_iff, List.map_eq_nil_iff]

theorem Run.method_ofTest (t : Test) (s : Suite) (parent : Option Test) :
    (ofTest t s parent).method = t.method := by cases parent <;> rfl

namespace Reference

theorem pathKeys_next {α : Type} {r : Run} {p : Progress} {part : Run → Except Fault α}
    {put : Run → α → Run} (hp : p.1.params.path.keys = r.params.path.keys)
    (hput : ∀ q a, part q = .ok a → (put q a).params.path.keys = q.params.path.keys) :
    (p.next part put).1.params.path.keys = r.params.path.keys := by
  obtain ⟨q, _ | f⟩ := p
  · unfold Progress.next
    dsimp only
    split
    · rename_i a ha
      exact (hput q a ha).trans hp
    · exact hp
  · exact hp

/-- Whatever the references stand for, no argument of a path comes or goes. -/
theorem pathKeys_resolveRun (h : History) (r : Run) :
    (resolveRun h r).1.params.path.keys = r.params.path.keys := by
  refine pathKeys_next ?_ fun _ _ _ => rfl
  refine pathKeys_next ?_ fun _ _ _ => rfl
  refine pathKeys_next ?_ fun _ _ _ => rfl
  refine pathKeys_next ?_ fun _ _ hs => Dict.keys_mapValuesM hs
  refine pathKeys_next ?_ fun _ _ _ => rfl
  exact pathKeys_next rfl fun _ _ _ => rfl

end Reference

namespace SuiteResult

variable {x x' y : SuiteResult} {mode : NestedCounts}

theorem skipped_add (x : SuiteResult) (r : Run) :
    (x.add r).counts.skipped = x.counts.skipped := by
  cases hr : r.error <;> simp [add, hr]

theorem skipped_skip (x : SuiteResult) (n : Nat) :
    (x.skip n).counts.skipped = x.counts.skipped + n := rfl

theorem skipped_start (n : Nat) : (start n).counts.skipped = 0 := rfl

/-- What a step adds to the skipped ones of its suite from the suite that it has reached. -/
def brings (mode : NestedCounts) (y : SuiteResult) : Int :=
  match mode with
  | .replace => 0
  | .accumulate => y.counts.skipped

theorem skipped_resume (h : x.resume mode y = some x') :
    x'.counts.skipped = x.counts.skipped + y.brings mode := by
  cases mode with
  | replace => rw [(resume_replace h).1, brings, Int.add_zero]
  | accumulate =>
    cases h
    rw [skipped_merge, brings]

end SuiteResult

namespace Engine

variable {σ : Type} {e : Engine σ}

/-- A step that posts to a collection, as its arguments and those of what reaches its suite and of
the suite are laid together, and has no response or one of a status that says that it has failed. -/
structure FailedCreation (m : Moment σ) (x : Effect) : Prop where
  method : m.run.method = "post"
  path : m.run.params.path.keys = []
  response : ∀ a ∈ x.response?, 300 ≤ a.status

theorem run_of_result {m : Moment σ} {r : Run} (h : (e.effect m).result = .ok r) :
    r.method = m.run.method ∧ r.params.path.keys = m.run.params.path.keys ∧
      r.response = (e.effect m).response? := by
  have hresolved : ∀ {q : Run} {f : Option Fault},
      Reference.resolveRun m.before.history (Run.ofTest m.step m.now m.parent) = (q, f) →
      q.method = m.run.method ∧ q.params.path.keys = m.run.params.path.keys ∧
        q.response = none := by
    intro q f hq
    have hkeys := Reference.pathKeys_resolveRun m.before.history m.run
    rw [Moment.run, hq] at hkeys
    obtain ⟨params, path, rfl⟩ := Reference.resolveRun_eq hq
    exact ⟨rfl, hkeys, Run.response_ofTest _ _ _⟩
  obtain ⟨q, hq, hx⟩ | ⟨q, cause, hq, hx⟩ | ⟨q, f, -, -, hx⟩ := effect_cases e m
  · obtain ⟨hmethod, hkeys, -⟩ := hresolved hq
    rw [hx] at h ⊢
    cases ha : (e.runner.run q m.now m.before.runner).1.1 with
    | ok o =>
      rw [ha] at h
      cases h
      exact ⟨hmethod, hkeys, rfl⟩
    | error f =>
      rw [ha] at h
      cases h
  · obtain ⟨hmethod, hkeys, hresponse⟩ := hresolved hq
    rw [hx] at h ⊢
    cases h
    exact ⟨hmethod, hkeys, hresponse⟩
  · rw [hx] at h
    cases h

theorem failsRest_iff {m : Moment σ} {r : Run} (h : (e.effect m).result = .ok r) :
    failsRest r = true ↔ FailedCreation m (e.effect m) := by
  obtain ⟨hmethod, hkeys, hresponse⟩ := run_of_result h
  simp only [failsRest, Run.isCreate, Bool.and_eq_true, beq_iff_eq, hmethod, hresponse,
    Dict.isEmpty_iff_keys, hkeys, Option.all_eq_true, decide_eq_true_eq]
  constructor
  · rintro ⟨⟨hpost, hpath⟩, hstatus⟩
    exact ⟨hpost, hpath, hstatus⟩
  · rintro ⟨hpost, hpath, hstatus⟩
    exact ⟨⟨hpost, hpath⟩, hstatus⟩

namespace Deed

def brings (mode : NestedCounts) : Deed σ → Int
  | reached _ _ (.ok y) => y.brings mode
  | reached _ _ (.error _) | defaults _ | executed _ _ => 0

/-- How many of the skipped steps of a suite are those of the suites that its steps have reached. -/
def brought (mode : NestedCounts) (ds : List (Deed σ)) : Int := (ds.map (brings mode)).sum

theorem brought_cons (mode : NestedCounts) (d : Deed σ) (ds : List (Deed σ)) :
    brought mode (d :: ds) = d.brings mode + brought mode ds := by
  rw [brought, List.map_cons, List.sum_cons, brought]

end Deed

/-- How far the steps `ts` are gone through if `ds` is what is done for them, and how many of them
are skipped. -/
structure Halts (mode : NestedCounts) (ts : List Test) (ds : List (Deed σ)) (own : Int) : Prop where
  steps : ds.map (·.moment.step) <+: ts
  cut : ∀ i m x, ds[i]? = some (.executed m x) → FailedCreation m x →
    ds.length = i + 1 ∧ own = ts.length - i - 1
  stops : ds.length < ts.length → ∃ d, ds.getLast? = some d ∧
    ((∃ m x, d = .executed m x ∧ FailedCreation m x) ∨ mode = .replace ∧ d.handsError = true)
  unskipped : (∀ m x, .executed m x ∈ ds → ¬ FailedCreation m x) →
    (mode = .replace → ∀ d ∈ ds, d.handsError = false) → own = 0

namespace Halts

variable {mode : NestedCounts} {ts : List Test} {ds : List (Deed σ)} {own : Int}

theorem nil (mode : NestedCounts) : Halts mode [] ([] : List (Deed σ)) 0 where
  steps := List.prefix_rfl
  cut i m x h := by simp at h
  stops h := by simp at h
  unskipped _ _ := rfl

theorem cons {d : Deed σ} (h : Halts mode ts ds own)
    (hd : ∀ m x, d = .executed m x → ¬ FailedCreation m x) :
    Halts mode (d.moment.step :: ts) (d :: ds) own where
  steps := List.cons_prefix_cons.2 ⟨rfl, h.steps⟩
  cut i m x hi hfailed := by
    cases i with
    | zero => exact (hd m x (Option.some.inj hi) hfailed).elim
    | succ i =>
      obtain ⟨hlength, hown⟩ := h.cut i m x hi hfailed
      rw [List.length_cons, hlength, List.length_cons]
      exact ⟨rfl, by omega⟩
  stops hlt := by
    obtain ⟨last, hlast, hstop⟩ := h.stops (Nat.lt_of_succ_lt_succ hlt)
    exact ⟨last, by rw [List.getLast?_cons, hlast, Option.getD_some], hstop⟩
  unskipped hcreations hhands :=
    h.unskipped (fun m x hm => hcreations m x (List.mem_cons_of_mem d hm))
      fun hmode d' hd' => hhands hmode d' (List.mem_cons_of_mem d hd')

theorem last {m : Moment σ} {x : Effect} (mode : NestedCounts) (hfailed : FailedCreation m x)
    (ts : List Test) : Halts mode (m.step :: ts) [.executed m x] ts.length where
  steps := List.cons_prefix_cons.2 ⟨rfl, List.nil_prefix⟩
  cut i m' x' hi _ := by
    cases i with
    | zero => exact ⟨rfl, by rw [List.length_cons]; omega⟩
    | succ i => simp at hi
  stops _ := ⟨_, rfl, .inl ⟨m, x, rfl, hfailed⟩⟩
  unskipped hcreations _ := (hcreations m x List.mem_cons_self hfailed).elim

theorem handed {m : Moment σ} {below : List (Deed σ)} {y : SuiteResult} (hy : y.error.isSome)
    (ts : List Test) (own : Int) :
    Halts .replace (m.step :: ts) [.reached m below (.ok y)] own where
  steps := List.cons_prefix_cons.2 ⟨rfl, List.nil_prefix⟩
  cut i m' x' hi _ := by
    cases i with
    | zero => cases hi
    | succ i => simp at hi
  stops _ := ⟨_, rfl, .inr ⟨rfl, hy⟩⟩
  unskipped _ hhands := by
    have hnone := hhands rfl _ List.mem_cons_self
    rw [Deed.handsError, hy] at hnone
    cases hnone

end Halts

theorem Performs.halts {name : String} {parent : Option Test} {ts : List Test} {x y : SuiteResult}
    {s s' : State σ} {ds : List (Deed σ)}
    (h : Performs e (.steps name parent ts x) s ds (.ok y) s') :
    Halts e.nested ts ds (y.counts.skipped - x.counts.skipped - Deed.brought e.nested ds) := by
  -- On the steps that are left; each of them changes the result that the rest starts from.
  induction ts generalizing x s ds with
  | nil =>
    cases h
    have hown : y.counts.skipped - y.counts.skipped - Deed.brought e.nested ([] : List (Deed σ)) =
        0 := by simp [Deed.brought]
    exact hown ▸ .nil _
  | cons t ts ih =>
    generalize hresult : Except.ok y = result at h
    cases h with
    | raised | failed => cases hresult
    | @handed _ _ _ _ z below _ _ _ _ href hbelow hy hx =>
      cases hresult
      obtain ⟨hmode, hy⟩ := SuiteResult.resume_eq_none hx
      rw [hmode]
      exact .handed (m := ⟨s, name, parent, t⟩) hy ts _
    | @resumed _ _ _ _ x' z below ds _ _ _ _ _ _ href hbelow hy hx hrest =>
      subst hresult
      have hown : y.counts.skipped - x.counts.skipped -
            Deed.brought e.nested (.reached ⟨s, name, parent, t⟩ below (.ok z) :: ds) =
          y.counts.skipped - x'.counts.skipped - Deed.brought e.nested ds := by
        rw [SuiteResult.skipped_resume hx, Deed.brought_cons, Deed.brings]
        omega
      rw [hown]
      exact (ih hrest).cons (d := .reached ⟨s, name, parent, t⟩ below (.ok z)) (by simp)
    | @defaults _ _ _ _ ds _ _ _ _ href hinit hrest =>
      subst hresult
      rw [Deed.brought_cons, Deed.brings, Int.zero_add]
      exact (ih hrest).cons (d := .defaults ⟨s, name, parent, t⟩) (by simp)
    | @cut _ _ _ r shown _ _ _ _ s₁ _ href hinit hrun hcut hshown hshow =>
      have hfailed := (failsRest_iff (result_of_carryOut hrun)).1 hcut
      obtain ⟨-, -, rfl⟩ := map_eq_ok_iff.1 (hresult.trans hshow).symm
      have hown : ((x.add r).skip ts.length).counts.skipped - x.counts.skipped -
            Deed.brought e.nested [.executed ⟨s, name, parent, t⟩ (e.effect ⟨s, name, parent, t⟩)] =
          ts.length := by
        rw [SuiteResult.skipped_skip, SuiteResult.skipped_add]
        simp [Deed.brought, Deed.brings]
      rw [hown]
      exact .last e.nested hfailed ts
    | @executed _ _ _ _ r ds _ _ _ s₁ _ href hinit hrun hcut hrest =>
      subst hresult
      have hgoes : ¬ FailedCreation ⟨s, name, parent, t⟩ (e.effect ⟨s, name, parent, t⟩) := by
        rw [← failsRest_iff (result_of_carryOut hrun), hcut]
        exact Bool.false_ne_true
      have hrest := ih hrest
      rw [SuiteResult.skipped_add] at hrest
      rw [Deed.brought_cons, Deed.brings, Int.zero_add]
      refine hrest.cons (d := .executed ⟨s, name, parent, t⟩ (e.effect ⟨s, name, parent, t⟩)) ?_
      intro m x hm
      cases hm
      exact hgoes

theorem Performs.halts_suite {name : String} {parent : Option Test} {x : SuiteResult}
    {s s' : State σ} {ds : List (Deed σ)}
    (h : Performs e (.suite name parent) s ds (.ok x) s') :
    Halts e.nested (s.plan.suite name).tests ds
      (x.counts.skipped - Deed.brought e.nested ds) := by
  cases h with
  | visited hready htitle hsteps =>
    obtain ⟨rfl, hrun, -⟩ := ready_ok hready
    rw [Plan.suite_of_runnable? hrun]
    have hh := hsteps.halts
    rwa [SuiteResult.skipped_start, Int.sub_zero] at hh

/-- What a creation that fails does to a suite of the steps `ts` for which `ds` is done and of which
the suite itself skips `own`. No step after it is done, and those are the skipped ones. Otherwise all
steps are done, unless counts are replaced and a step gets an error. Where counts are added up, a
step that reaches a suite is not the last one. -/
structure CutsRest (mode : NestedCounts) (ts : List Test) (ds : List (Deed σ)) (own : Int) :
    Prop where
  steps : ds.map (·.moment.step) <+: ts
  cut : ∀ i m x, ds[i]? = some (.executed m x) → FailedCreation m x →
    ds.length = i + 1 ∧ own = ts.length - i - 1
  whole : (∀ m x, .executed m x ∈ ds → ¬ FailedCreation m x) →
    (mode = .replace → ∀ d ∈ ds, d.handsError = false) → ds.map (·.moment.step) = ts ∧ own = 0
  goesOn : mode = .accumulate → ∀ i m below result, ds[i]? = some (.reached m below result) →
    i + 1 < ts.length → i + 1 < ds.length

theorem Halts.cutsRest {mode : NestedCounts} {ts : List Test} {ds : List (Deed σ)} {own : Int}
    (h : Halts mode ts ds own) : CutsRest mode ts ds own where
  steps := h.steps
  cut := h.cut
  whole hcreations hhands := by
    refine ⟨h.steps.eq_of_length_le ?_, h.unskipped hcreations hhands⟩
    rw [List.length_map]
    by_contra hlt
    obtain ⟨d, hlast, ⟨m, x, rfl, hfailed⟩ | ⟨hmode, hhand⟩⟩ := h.stops (Nat.lt_of_not_le hlt)
    · exact hcreations m x (List.mem_of_getLast? hlast) hfailed
    · rw [hhands hmode d (List.mem_of_getLast? hlast)] at hhand
      cases hhand
  goesOn hmode i m below result hi hts := by
    obtain ⟨hlt, -⟩ := List.getElem?_eq_some_iff.1 hi
    by_contra hend
    have hlength : ds.length = i + 1 := by omega
    obtain ⟨d, hlast, hstop⟩ := h.stops (hlength ▸ hts)
    rw [List.getLast?_eq_getElem?, hlength, Nat.add_sub_cancel, hi] at hlast
    cases hlast
    obtain ⟨m', x, hd, -⟩ | ⟨hreplace, -⟩ := hstop
    · cases hd
    · rw [hmode] at hreplace
      cases hreplace

/-- Whatever an engine is asked for, each activation that returns goes through the first steps of its
suite. A creation that fails, whatever outcome it expects, is the last of them, and the steps behind
it are what the activation skips. If there is none, and no step gets an error that ends the suite,
all steps are gone through and none is skipped. What is skipped below a step does not stop the suite
where counts are added up. -/
theorem failed_creation_cuts_rest (e : Engine σ) (requests : List Request) (s : State σ) :
    ∃ tops s', Session e requests s tops s' ∧ s' = requests.foldl e.answer s ∧
      (∀ t ∈ tops, ∀ d ∈ Deed.allOf t.deeds, ∃ a ∈ activations tops, d ∈ a.deeds) ∧
      ∀ a ∈ activations tops,
        (∀ d ∈ a.deeds, d.moment.suite = a.name ∧ d.moment.parent = a.parent) ∧
        (∀ m x, .executed m x ∈ a.deeds → x = e.effect m) ∧
        ∀ x, a.result e = .ok x → CutsRest e.nested (s.plan.suite a.name).tests a.deeds
          (x.counts.skipped - Deed.brought e.nested a.deeds) := by
  obtain ⟨tops, h⟩ := session_answer e requests s
  refine ⟨tops, _, h, rfl, fun t ht d hd => h.exists_activation ht hd, fun a ha => ?_⟩
  refine ⟨(h.happens ha).performs.leads.moments, fun m x hm => h.effect_eq ha hm, fun x hx => ?_⟩
  have hp := (h.happens ha).performs
  rw [hx] at hp
  have hh := hp.halts_suite
  rw [h.tests_eq ha] at hh
  exact hh.cutsRest

theorem response_readOnly {mode : NestedCounts} {m : Moment Unit} (h : m.run.method = "post") :
    ((shopping mode).effect m).response? = none := by
  obtain ⟨q, hq, hx⟩ | ⟨q, cause, -, hx⟩ | ⟨q, f, -, -, hx⟩ := effect_cases (shopping mode) m
  · obtain ⟨params, path, rfl⟩ := Reference.resolveRun_eq hq
    have hpost : ((Run.ofTest m.step m.now m.parent).method == "post") = true := beq_iff_eq.2 h
    rw [hx]
    simp only [shopping, readOnly, hpost, if_true, Effect.response?]
  · rw [hx]
    rfl
  · rw [hx]
    rfl

def closedShop : Plan :=
  planOf [("orders", [("order", "", "post"), ("check", "", "get"), ("list", "", "get")])]

def orderStep : Test := { Test.empty with name := "order", method := "post", path := "/order" }

theorem failedCreation_orderStep {mode : NestedCounts} {m : Moment Unit} (hparent : m.parent = none)
    (hstep : m.step = orderStep) (hpath : m.now.params.path = .empty) :
    FailedCreation m ((shopping mode).effect m) := by
  have hmethod : m.run.method = "post" := by rw [Moment.run, Run.method_ofTest, hstep, orderStep]
  refine ⟨hmethod, ?_, ?_⟩
  · have hkeys : (orderStep.params.path.fill m.now.params.path).keys = [] := by rw [hpath]; rfl
    rw [Moment.run, hparent, hstep]
    exact hkeys
  · rw [response_readOnly hmethod]
    exact fun a ha => absurd ha (Option.not_mem_none a)

/-- The order fails, so that the two steps behind it are skipped. -/
theorem failed_creation_cuts_rest_orders :
    ∃ tops s' a m y x, Session (shopping .accumulate) [.run "orders" none] (.start closedShop ())
        tops s' ∧
      a ∈ activations tops ∧ a.deeds = [.executed m y] ∧ FailedCreation m y ∧
      a.result (shopping .accumulate) = .ok x ∧ x.counts.skipped = 2 := by
  obtain ⟨tops, s', h, -, -, ha⟩ := failed_creation_cuts_rest (shopping .accumulate)
    [.run "orders" none] (.start closedShop ())
  cases h with
  | @run _ _ ds _ _ _ _ s₁ _ hrun hrest =>
    cases hrest
    have hadmits : (State.start closedShop ()).Admits "orders" := by decide +kernel
    have hmem : (⟨"orders", none, .start closedShop (), ds⟩ : Activation Unit) ∈
        activations [⟨"orders", none, .start closedShop (), ds⟩] := by
      rw [activations_cons hadmits]
      exact List.mem_cons_self
    obtain ⟨-, heffect, hcuts⟩ := ha _ hmem
    obtain ⟨m, y, below, rfl⟩ := hrun.head_executed hadmits rfl rfl (by decide)
    obtain rfl := heffect m y List.mem_cons_self
    have hrun' := hrun
    rw [← List.nil_append (.executed m _ :: below)] at hrun'
    have hmeets := hrun'.meets
    have hfailed : FailedCreation m ((shopping .accumulate).effect m) :=
      failedCreation_orderStep hmeets.parent (Option.some.inj hmeets.step).symm
        (congrArg (·.params.path) hmeets.defaults)
    obtain ⟨x, s', hx, hskipped⟩ := exists_ok (f := fun x : SuiteResult => x.counts.skipped) (c := 2)
      (a := (shopping .accumulate).run "orders" none) (s := .start closedShop ())
      (by decide +kernel)
    have hresult : Activation.result (shopping .accumulate)
        ⟨"orders", none, .start closedShop (), []⟩ = .ok x := by
      rw [Activation.result, hx]
    obtain ⟨hlength, -⟩ := (hcuts x hresult).cut 0 m _ rfl hfailed
    obtain rfl := List.length_eq_zero_iff.1 (Nat.succ.inj hlength)
    exact ⟨_, _, _, m, _, x, .run hrun .done, hmem, rfl, hfailed, hresult, hskipped⟩

end Engine

end Runbook
