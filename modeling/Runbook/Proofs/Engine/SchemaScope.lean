import Mathlib.Data.List.Nodup
import Runbook.Proofs.Engine.Activation
import Runbook.Proofs.Engine.Call
import Runbook.Proofs.Engine.Counting

namespace Runbook

namespace SchemaStore

/-- The copy of the store that is made after `n` others. -/
def nth (n : Nat) : SchemaClone := (SchemaStore.clone ⟨n⟩).1

theorem nth_injective : Function.Injective nth := by
  intro m n h
  have hl : "clone" ++ toString (m + 1) = "clone" ++ toString (n + 1) := congrArg (·.label) h
  rw [String.append_right_inj, Nat.toString_eq_repr, Nat.toString_eq_repr, Nat.repr, Nat.repr,
    String.ofList_inj] at hl
  -- digits read back as the number that they write
  have hread := congrArg (Nat.ofDigitChars 10 · 0) hl
  simp only [Nat.ofDigitChars_ten_toDigits] at hread
  omega

end SchemaStore

namespace Plan

def copies (p : Plan) : Nat := p.store.elim 0 (·.clones)

theorem copies_openSchema {p : Plan} (h : p.store.isSome) (name : String) :
    (p.openSchema name).copies = p.copies + 1 := by
  obtain ⟨store, hs⟩ := Option.isSome_iff_exists.1 h
  rw [copies, store_openSchema, copies, hs]
  rfl

theorem clone_eq {p : Plan} (h : p.store.isSome) :
    (p.store.map fun store => store.clone.1) = some (SchemaStore.nth p.copies) := by
  obtain ⟨store, hs⟩ := Option.isSome_iff_exists.1 h
  rw [copies, hs]
  rfl

end Plan

namespace Engine

variable {σ : Type} {e : Engine σ}

/-- There is a schema store, and exactly the active suites hold a copy of it, which are different
suites. All copies that are held have been made of the store. -/
structure Scoped (s : State σ) : Prop where
  store : s.plan.store.isSome
  distinct : s.active.Nodup
  holds : ∀ n, (s.plan.suite n).schema.isSome ↔ n ∈ s.active
  issued : ∀ n, ∀ c ∈ (s.plan.suite n).schema, ∃ i < s.plan.copies, c = SchemaStore.nth i

namespace Scoped

variable {s s' : State σ} {name : String}

theorem congr (h : Scoped s) (ha : s'.active = s.active) (hs : s'.plan.store = s.plan.store)
    (hc : ∀ n, (s'.plan.suite n).schema = (s.plan.suite n).schema) : Scoped s' where
  store := hs ▸ h.store
  distinct := ha ▸ h.distinct
  holds n := by rw [hc, ha, h.holds]
  issued n := by
    rw [hc, Plan.copies, hs]
    exact h.issued n

theorem start {p : Plan} (hs : p.store.isSome)
    (hp : ∀ suite ∈ p.suites.values, suite.schema = none) (runner : σ) :
    Scoped (State.start p runner) := by
  have hp := Plan.schema_suite hp
  constructor
  · exact hs
  · exact List.nodup_nil
  · simp [State.start, hp]
  · simp [State.start, hp]

theorem enter (h : Scoped s) (ha : s.Admits name) : Scoped (enter name s) := by
  obtain ⟨suite, hs⟩ := Option.isSome_iff_exists.1 ha.1
  have hget : s.plan.suites.get? name = some suite := (Plan.runnable?_eq_some_iff.1 hs).1
  have hown : ((s.plan.openSchema name).suite name).schema =
      some (SchemaStore.nth s.plan.copies) := by
    rw [Plan.schema_openSchema hget, Plan.clone_eq h.store]
  have hcopies : (s.plan.openSchema name).copies = s.plan.copies + 1 :=
    Plan.copies_openSchema h.store name
  constructor
  · change (s.plan.openSchema name).store.isSome
    rw [Plan.store_openSchema, Option.isSome_map]
    exact h.store
  · exact List.nodup_append.2 ⟨h.distinct, by simp, by
      rintro a hs b hb rfl
      exact ha.2 (List.mem_singleton.1 hb ▸ hs)⟩
  · intro n
    change ((s.plan.openSchema name).suite n).schema.isSome ↔ n ∈ s.active ++ [name]
    by_cases hn : name = n
    · subst n
      simp [hown]
    · rw [Plan.suite_openSchema_of_ne _ hn, h.holds]
      simp [Ne.symm hn]
  · intro n c hc
    change c ∈ ((s.plan.openSchema name).suite n).schema at hc
    change ∃ i < (s.plan.openSchema name).copies, _
    rw [hcopies]
    by_cases hn : name = n
    · subst n
      rw [hown] at hc
      exact ⟨_, Nat.lt_succ_self _, (Option.some.inj hc).symm⟩
    · rw [Plan.suite_openSchema_of_ne _ hn] at hc
      obtain ⟨i, hi, hc⟩ := h.issued n c hc
      exact ⟨i, Nat.lt_succ_of_lt hi, hc⟩

theorem leave (h : Scoped s) {active : List String} (ha : s.active = active ++ [name]) :
    Scoped (leave name s) := by
  have hnodup := h.distinct
  rw [ha] at hnodup
  have hname : name ∉ active := fun hm =>
    (List.nodup_append.1 hnodup).2.2 name hm name (List.mem_singleton.2 rfl) rfl
  have hactive : (Engine.leave name s).active = active := by
    change s.active.dropLast = active
    rw [ha, List.dropLast_concat]
  have hstore : (Engine.leave name s).plan.store = s.plan.store := Plan.store_closeSchema _ _
  constructor
  · rw [hstore]
    exact h.store
  · rw [hactive]
    exact (List.nodup_append.1 hnodup).1
  · intro n
    rw [hactive]
    change ((s.plan.closeSchema name).suite n).schema.isSome ↔ n ∈ active
    by_cases hn : name = n
    · subst n
      simp [Plan.schema_closeSchema, hname]
    · rw [Plan.suite_closeSchema_of_ne _ hn, h.holds, ha]
      simp [Ne.symm hn]
  · intro n c hc
    rw [Plan.copies, hstore]
    change c ∈ ((s.plan.closeSchema name).suite n).schema at hc
    by_cases hn : name = n
    · subst n
      simp [Plan.schema_closeSchema] at hc
    · rw [Plan.suite_closeSchema_of_ne _ hn] at hc
      exact h.issued n c hc

end Scoped

/-- What was done between two states keeps the copies where they are: the same suites are active and
hold the copies that they held, and at each step it was so that only active suites held any. -/
structure KeepsScopes (s : State σ) (ds : List (Deed σ)) (s' : State σ) : Prop where
  active : s'.active = s.active
  after : Scoped s'
  deeds : ∀ d ∈ Deed.allOf ds, Scoped d.moment.before
  kept : ∀ n ∈ s.active, (s'.plan.suite n).schema = (s.plan.suite n).schema

namespace KeepsScopes

variable {s s₁ s' : State σ} {ds ds' : List (Deed σ)} {name : String}

theorem of_congr (hs : Scoped s) (ha : s'.active = s.active) (hst : s'.plan.store = s.plan.store)
    (hc : ∀ n, (s'.plan.suite n).schema = (s.plan.suite n).schema)
    (hds : ∀ d ∈ Deed.allOf ds, d.moment.before = s) : KeepsScopes s ds s' where
  active := ha
  after := hs.congr ha hst hc
  deeds d hd := by
    rw [hds d hd]
    exact hs
  kept n _ := hc n

theorem trans (h : KeepsScopes s ds s₁) (h' : KeepsScopes s₁ ds' s') :
    KeepsScopes s (ds ++ ds') s' where
  active := h'.active.trans h.active
  after := h'.after
  deeds := by
    rw [Deed.allOf_append]
    exact List.forall_mem_append.2 ⟨h.deeds, h'.deeds⟩
  kept n hn := (h'.kept n (h.active ▸ hn)).trans (h.kept n hn)

theorem visited (h : KeepsScopes (enter name s) ds s') (hn : name ∉ s.active) :
    KeepsScopes s ds (leave name s') where
  active := by
    change s'.active.dropLast = s.active
    rw [h.active]
    exact List.dropLast_concat
  after := h.after.leave h.active
  deeds := h.deeds
  kept n hm := by
    have hne : name ≠ n := fun he => hn (he ▸ hm)
    change ((s'.plan.closeSchema name).suite n).schema = _
    rw [Plan.suite_closeSchema_of_ne _ hne, h.kept n (List.mem_append_left _ hm)]
    change ((s.plan.openSchema name).suite n).schema = _
    rw [Plan.suite_openSchema_of_ne _ hne]

theorem reached {m : Moment σ} {below : List (Deed σ)} (result : Except Fault SuiteResult)
    (hs : Scoped m.before) (h : KeepsScopes m.before below s') :
    KeepsScopes m.before [.reached m below result] s' where
  active := h.active
  after := h.after
  deeds := by
    rw [Deed.allOf_reached]
    exact List.forall_mem_append.2 ⟨h.deeds, List.forall_mem_singleton.2 hs⟩
  kept := h.kept

end KeepsScopes

theorem frame_scopes (e : Engine σ) :
    Frame e fun s ds s' => Scoped s → KeepsScopes s ds s' where
  trans h h' hs := (h hs).trans (h' (h hs).after)
  told s notices screen hs := .of_congr hs rfl rfl (fun _ => rfl) (by simp [Deed.allOf])
  visited hn ha h hs := (h (hs.enter ⟨hn, ha⟩)).visited ha
  reached m result below s' h hs := (h hs).reached result hs
  defaults m hs := by
    refine .of_congr hs rfl (Plan.store_updateSuite _ _ _) (fun n => ?_) ?_
    · exact Plan.field_updateSuite (·.schema) _ _ _ fun _ => rfl
    · exact List.forall_mem_singleton.2 rfl
  executed m runner notices screen hs := by
    refine .of_congr hs rfl rfl (fun _ => rfl) ?_
    exact List.forall_mem_singleton.2 rfl

def Activation.clone (a : Activation σ) : Option SchemaClone :=
  a.before.plan.store.map fun store => store.clone.1

/-- A step of an activation: the suite is the one that was entered last, it still holds the copy that
was made for the activation, and so does a run that the runner gets. -/
structure Activation.Covers (a : Activation σ) (d : Deed σ) : Prop where
  suite : d.moment.suite = a.name
  innermost : d.moment.before.active = a.before.active ++ [a.name]
  before : Scoped d.moment.before
  held : d.moment.now.schema = a.clone
  called : ∀ c ∈ d.call?, c.suite.schema = a.clone ∧ c.run.schema = a.clone

theorem Performs.covers {a : Activation σ} {result : Except Fault SuiteResult} {s' : State σ}
    (hs : Scoped a.before)
    (h : Performs e (.suite a.name a.parent) a.before a.deeds result s') :
    ∀ d ∈ a.deeds, a.Covers d := by
  obtain ⟨name, parent, s, ds⟩ := a
  intro d hd
  cases h with
  | refused | untitled => simp at hd
  | @visited _ _ suite _ _ _ s₁ s₂ s₃ hready htitle hsteps =>
    obtain ⟨rfl, hrun, hn⟩ := ready_ok hready
    obtain ⟨screen, rfl⟩ := title_eq htitle
    have hget : s₁.plan.suites.get? name = some suite := (Plan.runnable?_eq_some_iff.1 hrun).1
    have hs₂ : Scoped { enter name s₁ with screen := screen } :=
      (hs.enter ⟨by simp [hrun], hn⟩).congr rfl rfl fun _ => rfl
    obtain ⟨before, after, rfl⟩ := List.append_of_mem hd
    obtain ⟨hsuite, hparent, hk⟩ := (frame_scopes e).passage.before_of_own hsteps
    have hk := hk hs₂
    have hheld : d.moment.now.schema = s₁.plan.store.map fun store => store.clone.1 := by
      rw [Moment.now, hsuite, hk.kept name (List.mem_append_right _ (List.mem_singleton.2 rfl))]
      exact Plan.schema_openSchema hget
    refine ⟨hsuite, hk.active, hk.after, hheld, fun c hc => ?_⟩
    cases d with
    | reached m below result => cases hc
    | defaults m => cases hc
    | executed m x =>
      have hx : x = e.effect m := by
        refine hsteps.effect_eq ?_
        rw [Deed.allOf_append, Deed.allOf_cons, Deed.allOf_executed]
        simp
      rw [hx] at hc
      obtain ⟨hr, hsuite, -⟩ := effect_call hc
      obtain ⟨params, path, hr⟩ := Reference.resolveRun_eq hr
      rw [hsuite, hr]
      exact ⟨hheld, (Run.schema_ofTest _ _ _).trans hheld⟩

/-- The copies that were made between two states are those of these activations, one for each, in
the order in which they begin. -/
structure Copied (s : State σ) (as : List (Activation σ)) (s' : State σ) : Prop where
  store : s'.plan.store.isSome
  count : s'.plan.copies = s.plan.copies + as.length
  clones : as.map Activation.clone =
    (List.range' s.plan.copies as.length).map fun i => some (SchemaStore.nth i)

namespace Copied

variable {s s₁ s' : State σ} {as as' : List (Activation σ)} {name : String}

theorem refl (hs : s.plan.store.isSome) : Copied s [] s := ⟨hs, rfl, rfl⟩

theorem congr (h : Copied s as s₁) (hs : s'.plan.store = s₁.plan.store) : Copied s as s' where
  store := hs ▸ h.store
  count := by rw [Plan.copies, hs, ← h.count, Plan.copies]
  clones := h.clones

theorem trans (h : Copied s as s₁) (h' : Copied s₁ as' s') : Copied s (as ++ as') s' where
  store := h'.store
  count := by rw [h'.count, h.count, List.length_append, Nat.add_assoc]
  clones := by
    rw [List.map_append, h.clones, h'.clones, h.count, List.length_append, ← List.range'_append_1,
      List.map_append]

theorem enter (hs : s.plan.store.isSome) (parent : Option Test) (ds : List (Deed σ)) :
    Copied s [⟨name, parent, s, ds⟩] (enter name s) where
  store := by
    change (s.plan.openSchema name).store.isSome
    rwa [Plan.store_openSchema, Option.isSome_map]
  count := Plan.copies_openSchema hs name
  clones := by
    rw [List.map_singleton, Activation.clone, Plan.clone_eq hs]
    rfl

theorem leave (h : Copied s as s') : Copied s as (leave name s') :=
  h.congr (Plan.store_closeSchema _ _)

end Copied

theorem store_carryOut {m : Moment σ} {r : Except Fault Run} {s' : State σ}
    (h : (e.carryOut m).run m.before = (r, s')) : s'.plan.store = m.before.plan.store := by
  obtain ⟨runner, notices, screen, hx⟩ := run_carryOut e m
  rw [h] at hx
  cases hx
  rfl

theorem Performs.copied {task : Task} {s s' : State σ} {ds : List (Deed σ)}
    {result : Except Fault SuiteResult} (h : Performs e task s ds result s')
    (hs : s.plan.store.isSome) : Copied s (task.activations s ds) s' := by
  -- Only entering a suite makes a copy; all other rules leave the store as it is.
  induction h with
  | refused hready =>
    rw [Task.activations, Activation.of_refused (not_admits_of_ready hready)]
    obtain ⟨⟨notices, rfl⟩, -⟩ := ready_error hready
    exact (Copied.refl hs).congr rfl
  | @untitled name parent suite f s s₁ s₂ hready htitle =>
    obtain ⟨rfl, ha⟩ := admits_of_ready hready
    obtain ⟨screen, rfl⟩ := title_eq htitle
    rw [Task.activations, Activation.of_admitted ha]
    have he : Copied s₁ [⟨name, parent, s₁, []⟩] { enter name s₁ with screen := screen } :=
      (Copied.enter hs parent []).congr rfl
    exact he.leave
  | @visited name parent suite ds result s s₁ s₂ s₃ hready htitle hsteps ih =>
    obtain ⟨rfl, ha⟩ := admits_of_ready hready
    obtain ⟨screen, rfl⟩ := title_eq htitle
    rw [Task.activations, Activation.of_admitted ha]
    have he : Copied s₁ [⟨name, parent, s₁, ds⟩] { enter name s₁ with screen := screen } :=
      (Copied.enter hs parent ds).congr rfl
    exact (he.trans (ih he.store)).leave
  | done => exact .refl hs
  | raised href hbelow hf ih =>
    rw [Task.activations, Deed.begunOf_reached]
    exact ih hs
  | handed href hbelow hy hx ih =>
    rw [Task.activations, Deed.begunOf_reached]
    exact ih hs
  | resumed href hbelow hy hx hrest ihb ihr =>
    rw [Task.activations, Deed.begunOf_cons, Deed.begunOf_reached]
    exact (ihb hs).trans (ihr (ihb hs).store)
  | @defaults name parent ts x ds result t s s' href hinit hrest ih =>
    have hm : Copied s [] (Moment.mended ⟨s, name, parent, t⟩) :=
      (Copied.refl hs).congr (Plan.store_updateSuite _ _ _)
    exact hm.trans (ih hm.store)
  | @failed name parent ts x f t s s' href hinit hrun =>
    exact (Copied.refl hs).congr (store_carryOut (m := ⟨s, name, parent, t⟩) hrun)
  | @cut name parent x r shown result t ts s s₁ s' href hinit hrun hcut hshown hresult =>
    refine (Copied.refl hs).congr (Eq.trans ?_ (store_carryOut (m := ⟨s, name, parent, t⟩) hrun))
    rw [run_display] at hshown
    split at hshown <;> cases hshown <;> rfl
  | @executed name parent ts x r ds result t s s₁ s' href hinit hrun hcut hrest ih =>
    have hm : Copied s [] s₁ :=
      (Copied.refl hs).congr (store_carryOut (m := ⟨s, name, parent, t⟩) hrun)
    exact hm.trans (ih hm.store)

/-- The copies of the activations of a task are different ones. -/
theorem Copied.nodup {s s' : State σ} {as : List (Activation σ)} (h : Copied s as s') :
    (as.map Activation.clone).Nodup := by
  rw [h.clones]
  exact List.Nodup.map (fun _ _ h => SchemaStore.nth_injective (Option.some.inj h))
    List.nodup_range'

theorem Copied.not_mem {s s' : State σ} {as : List (Activation σ)} (h : Copied s as s')
    (hs : Scoped s) (n : String) (hn : n ∈ s.active) :
    (s.plan.suite n).schema ∉ as.map Activation.clone := by
  obtain ⟨c, hc⟩ := Option.isSome_iff_exists.1 ((hs.holds n).2 hn)
  obtain ⟨i, hi, rfl⟩ := hs.issued n c hc
  rw [hc, h.clones]
  intro hm
  obtain ⟨j, hj, hij⟩ := List.mem_map.1 hm
  have hle : s.plan.copies ≤ j := (List.mem_range'_1.1 hj).1
  have heq : j = i := SchemaStore.nth_injective (Option.some.inj hij)
  omega

def stocked : Plan :=
  { planOf [("orders", [("pets", "pets", ""), ("stock", "stock", ""), ("check", "", "get")]),
      ("pets", [("feed", "", "get")])] with
    store := some ⟨0⟩ }

end Engine

end Runbook
