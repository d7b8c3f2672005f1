import Runbook.Proofs.PlanFile.Clash

namespace Runbook

theorem Params.empty_copyFrom (p : Params) : Params.empty.copyFrom p = p := by
  obtain ⟨query, form, path, header, body⟩ := p
  have hslot (s : Slot) : Dict.combine .empty s = s := Dict.ofList_entries s
  simp only [copyFrom, empty, hslot, Body.copyFrom]

namespace PlanFile

open Yaml (Node)

def initSteps (es : List (String × List Test)) : List Test :=
  (es.filter (·.1 == initName)).flatMap (·.2)

/-- The arguments of steps, each copied over those of the steps before it. -/
def argumentsOf (inits : List Test) : Params :=
  inits.foldl (fun p t => p.copyFrom t.params) .empty

def strictOf (inits : List Test) : Bool := (inits.getLast?.map (·.strict)).getD false

/-- The suite of an entry that stands behind these steps called `meqa_init`. -/
def suiteAfter (auth : Auth) (inits : List Test) (name : String) (tests : List Test) : Suite where
  name := name
  tests := tests.map fun t => { t with suite := name }
  params := argumentsOf inits
  strict := strictOf inits
  auth := auth
  comment := ""
  schema := none

/-- The suites of entries in their order, where the first entry stands behind the steps `inits`. -/
def suitesAfter (auth : Auth) : List Test → List (String × List Test) → List Suite
  | _, [] => []
  | inits, (name, tests) :: es =>
    if name = initName then suitesAfter auth (inits ++ tests) es
    else suiteAfter auth inits name tests :: suitesAfter auth inits es

/-- A plan that was opened with these options and stands behind these steps called `meqa_init`. -/
def planAfter (o : Plan.Options) (suites : Registry) (inits : List Test) : Plan :=
  { Plan.ofOptions o with
    suites := suites, params := argumentsOf inits, strict := strictOf inits }

/-- A plan that was opened with these options and has come to these entries. -/
structure Loaded (o : Plan.Options) (es : List (String × List Test)) (p : Plan) : Prop where
  suites : p.suites.entries = (suitesAfter o.auth [] es).map fun s => (s.name, s)
  others : p = planAfter o p.suites (initSteps es)

variable {o : Plan.Options} {es fs : List (String × List Test)} {p q : Plan}

theorem initSteps_append (es fs : List (String × List Test)) :
    initSteps (es ++ fs) = initSteps es ++ initSteps fs := by
  rw [initSteps, List.filter_append, List.flatMap_append]
  rfl

theorem initSteps_init (tests : List Test) (es : List (String × List Test)) :
    initSteps ((initName, tests) :: es) = tests ++ initSteps es := by
  rw [initSteps, List.filter_cons_of_pos (by simp), List.flatMap_cons]
  rfl

theorem initSteps_suite {name : String} (h : name ≠ initName) (tests : List Test)
    (es : List (String × List Test)) : initSteps ((name, tests) :: es) = initSteps es := by
  rw [initSteps, List.filter_cons_of_neg (by simpa using h)]
  rfl

/-- What stands behind entries meets their defaults, and does not reach back to them. -/
theorem suitesAfter_append (auth : Auth) (inits : List Test) (es fs : List (String × List Test)) :
    suitesAfter auth inits (es ++ fs) =
      suitesAfter auth inits es ++ suitesAfter auth (inits ++ initSteps es) fs := by
  induction es generalizing inits with
  | nil => simp [suitesAfter, initSteps]
  | cons e es ih =>
    obtain ⟨name, tests⟩ := e
    rw [List.cons_append, suitesAfter, suitesAfter]
    by_cases hname : name = initName
    · subst hname
      rw [if_pos rfl, if_pos rfl, ih, initSteps_init, List.append_assoc]
    · rw [if_neg hname, if_neg hname, ih, initSteps_suite hname, List.cons_append]

theorem names_suitesAfter (auth : Auth) (inits : List Test) (es : List (String × List Test)) :
    (suitesAfter auth inits es).map (·.name) = (es.map (·.1)).filter (· != initName) := by
  induction es generalizing inits with
  | nil => rfl
  | cons e es ih =>
    obtain ⟨name, tests⟩ := e
    rw [suitesAfter, List.map_cons]
    by_cases hname : name = initName
    · subst hname
      rw [if_pos rfl, ih, List.filter_cons_of_neg (by simp)]
    · rw [if_neg hname, List.map_cons, ih, List.filter_cons_of_pos (by simpa using hname)]
      rfl

theorem length_suitesAfter (auth : Auth) (inits : List Test) (es : List (String × List Test)) :
    (suitesAfter auth inits es).length = es.countP (·.1 != initName) := calc
  (suitesAfter auth inits es).length = ((suitesAfter auth inits es).map (·.name)).length :=
    (List.length_map _).symm
  _ = (es.map (·.1)).countP (· != initName) := by
    rw [names_suitesAfter, List.countP_eq_length_filter]
  _ = es.countP (·.1 != initName) := List.countP_map

theorem applyDefaults_planAfter (o : Plan.Options) (suites : Registry) (inits : List Test)
    (t : Test) :
    (planAfter o suites inits).applyDefaults t = planAfter o suites (inits ++ [t]) := by
  have hparams : argumentsOf (inits ++ [t]) = (argumentsOf inits).copyFrom t.params := by
    rw [argumentsOf, List.foldl_append]
    rfl
  have hstrict : strictOf (inits ++ [t]) = t.strict := by
    rw [strictOf, List.getLast?_concat]
    rfl
  rw [planAfter, planAfter, hparams, hstrict]
  rfl

theorem foldl_planAfter (o : Plan.Options) (suites : Registry) (inits tests : List Test) :
    tests.foldl Plan.applyDefaults (planAfter o suites inits) =
      planAfter o suites (inits ++ tests) := by
  induction tests generalizing inits with
  | nil => rw [List.append_nil, List.foldl_nil]
  | cons t ts ih => rw [List.foldl_cons, applyDefaults_planAfter, ih, ← List.append_cons]

theorem createSuite_planAfter (o : Plan.Options) (suites : Registry) (inits : List Test)
    (name : String) (tests : List Test) :
    (planAfter o suites inits).createSuite name (tests.map fun t => { t with suite := name }) =
      suiteAfter o.auth inits name tests := by
  rw [Plan.createSuite, Params.empty_copyFrom]
  rfl

namespace Loaded

theorem ofOptions (o : Plan.Options) : Loaded o [] (.ofOptions o) := ⟨rfl, rfl⟩

theorem unique (hp : Loaded o es p) (hq : Loaded o es q) : p = q := by
  have hsuites : p.suites = q.suites := Registry.eq_of_entries (hp.suites.trans hq.suites.symm)
  rw [hp.others, hq.others, hsuites]

theorem names (h : Loaded o es p) : p.suiteNames = (es.map (·.1)).filter (· != initName) := by
  rw [Plan.suiteNames, ← p.suites.map_fst_entries, h.suites, List.map_map]
  exact names_suitesAfter o.auth [] es

theorem values (h : Loaded o es p) : p.suites.values = suitesAfter o.auth [] es := by
  rw [Registry.values, h.suites, List.map_map]
  exact List.map_id _

theorem isPrefix (hp : Loaded o es p) (hq : Loaded o (es ++ fs) q) :
    p.suites.entries <+: q.suites.entries := by
  rw [hp.suites, hq.suites, suitesAfter_append, List.map_append]
  exact List.prefix_append _ _

theorem register_init {tests : List Test} (h : Loaded o es p) :
    Loaded o (es ++ [(initName, tests)]) (tests.foldl Plan.applyDefaults p) := by
  have hsteps : initSteps (es ++ [(initName, tests)]) = initSteps es ++ tests := by
    rw [initSteps_append, initSteps_init]
    exact congrArg _ (List.append_nil _)
  constructor
  · rw [suites_foldl_applyDefaults, h.suites, suitesAfter_append, suitesAfter, if_pos rfl,
      suitesAfter, List.append_nil]
  · rw [suites_foldl_applyDefaults, hsteps, ← foldl_planAfter, ← h.others]

theorem register_suite {name : String} {tests : List Test} (h : Loaded o es p)
    (hname : name ≠ initName) (hnew : name ∉ p.suiteNames) :
    Loaded o (es ++ [(name, tests)]) { p with
      suites := p.suites.put name
        (p.createSuite name (tests.map fun t => { t with suite := name })) } := by
  have hsteps : initSteps (es ++ [(name, tests)]) = initSteps es := by
    rw [initSteps_append, initSteps_suite hname]
    exact List.append_nil _
  have hcreated : p.createSuite name (tests.map fun t => { t with suite := name }) =
      suiteAfter o.auth (initSteps es) name tests := by
    rw [h.others, createSuite_planAfter]
  have hothers (r : Registry) : { p with suites := r } = planAfter o r (initSteps es) :=
    congrArg (fun q : Plan => { q with suites := r }) h.others
  constructor
  · rw [hcreated, Registry.entries_put_of_new hnew, h.suites, suitesAfter_append, suitesAfter,
      if_neg hname, List.map_append]
    rfl
  · rw [hsteps]
    exact hothers _

theorem register {name : String} {tests : List Test} (h : Loaded o es p)
    (hreg : PlanFile.register p name tests = .ok q) : Loaded o (es ++ [(name, tests)]) q := by
  unfold PlanFile.register at hreg
  by_cases hname : name = initName
  · subst hname
    rw [if_pos rfl] at hreg
    cases hreg
    exact h.register_init
  · rw [if_neg hname, Plan.add] at hreg
    by_cases hnew : name ∈ p.suiteNames
    · have hin : p.suites.contains name = true := (Registry.mem_order_iff _ _).1 hnew
      rw [Plan.createSuite, if_pos hin] at hreg
      cases hreg
    · have hout : p.suites.contains name = false := by
        rw [← Bool.not_eq_true, Registry.contains_iff]
        exact hnew
      rw [Plan.createSuite, if_neg (by simp [hout])] at hreg
      cases hreg
      exact h.register_suite hname hnew

theorem registerAll (h : Loaded o es p)
    (hreg : fs.foldlM (fun p e => PlanFile.register p e.1 e.2) p = .ok q) :
    Loaded o (es ++ fs) q := by
  induction fs generalizing es p with
  | nil =>
    cases hreg
    rwa [List.append_nil]
  | cons e fs ih =>
    obtain ⟨r, hone, hrest⟩ := bind_eq_ok hreg
    rw [List.append_cons]
    exact ih (h.register hone) hrest

end Loaded

variable {chunk : String} {index : Int}

theorem orValueFault_eq {α : Type} {x : Option α} {a : α} {ns ns' : List Notice}
    (h : (orValueFault x).run ns = (.ok a, ns')) : orValueFault x = pure a := by
  cases x with
  | none => cases h
  | some b =>
    cases h
    rfl

theorem decode_eq {v : Value} {ns ns' : List Notice}
    (h : (decode chunk index).run ns = (.ok v, ns')) (j : Int) : decode chunk j = pure v := by
  have hfault (f : Yaml.ReadFault) :
      (readFault chunk index f : Logged Value).run ns ≠ (.ok v, ns') :=
    by cases f <;> exact fun h => by cases h
  unfold decode at h ⊢
  cases hnode : Node.ofText chunk.toList with
  | error f =>
    rw [hnode] at h
    exact (hfault f h).elim
  | ok node =>
    simp only [hnode] at h
    cases hname : repeatedName? node with
    | some name =>
      simp only [hname] at h
      cases h
    | none =>
      simp only [hname] at h ⊢
      rcases node with _ | n
      · cases h
        rfl
      · cases hbuild : Yaml.Construct.ofNode n with
        | error f =>
          simp only [hbuild] at h
          exact (hfault f h).elim
        | ok w =>
          simp only [hbuild] at h ⊢
          cases h
          rfl

theorem suiteTests_eq {name tests : Value} {ts : List Test} {ns ns' : List Notice}
    (h : (suiteTests chunk index name tests).run ns = (.ok ts, ns')) (j : Int) :
    suiteTests chunk j name tests = pure ts := by
  unfold suiteTests at h ⊢
  cases hlist : listed? tests with
  | none =>
    simp only [hlist] at h
    obtain ⟨_, _, -, h⟩ := run_bind_eq_ok h
    cases h
  | some vs =>
    cases hcheck : checkTests vs with
    | ok us =>
      simp only [hlist, hcheck] at h ⊢
      cases h
      rfl
    | mistaken ms =>
      simp only [hlist, hcheck] at h
      obtain ⟨_, _, -, h⟩ := run_bind_eq_ok h
      obtain ⟨_, _, -, h⟩ := run_bind_eq_ok h
      cases h

theorem suitesOf_eq {es : List (Value × Value)} {d d' : Dict String (List Test)}
    {ns ns' : List Notice} (h : (suitesOf chunk index es d).run ns = (.ok d', ns')) (j : Int) :
    suitesOf chunk j es d = pure d' := by
  induction es generalizing d ns with
  | nil =>
    cases h
    rfl
  | cons e es ih =>
    obtain ⟨name, tests⟩ := e
    obtain ⟨ts, ns₁, htests, h⟩ := run_bind_eq_ok h
    obtain ⟨n, ns₂, hname, h⟩ := run_bind_eq_ok h
    rw [suitesOf, suiteTests_eq htests j, pure_bind, orValueFault_eq hname, pure_bind]
    exact ih h

theorem decodeSuites_eq {suites : Dict String (List Test)} {ns ns' : List Notice}
    (h : (decodeSuites chunk index).run ns = (.ok suites, ns')) (j : Int) :
    decodeSuites chunk j = pure suites := by
  obtain ⟨v, ns₁, hdecode, h⟩ := run_bind_eq_ok h
  rw [decodeSuites, decode_eq hdecode j, pure_bind]
  cases v with
  | null =>
    cases h
    rfl
  | map es => exact suitesOf_eq h j
  | _ => cases h

def DecodesTo (chunk : String) (suites : Dict String (List Test)) : Prop :=
  ∀ index, decodeSuites chunk index = pure suites

theorem DecodesTo.unique {d d' : Dict String (List Test)} (h : DecodesTo chunk d)
    (h' : DecodesTo chunk d') : d = d' := by
  have hrun := congrArg (fun x : Logged _ => x.run []) ((h 0).symm.trans (h' 0))
  exact Except.ok.inj (Prod.ext_iff.1 hrun).1

def Takes (chunk : String) (p q : Plan) : Prop :=
  ∃ suites, DecodesTo chunk suites ∧ takenName? p suites = none ∧
    suites.entries.foldlM (fun p e => register p e.1 e.2) p = .ok q

/-- A plan takes in chunks one after the other. -/
inductive TakesAll : List String → Plan → Plan → Prop where
  | nil (p : Plan) : TakesAll [] p p
  | cons {chunk : String} {chunks : List String} {p q r : Plan} (h : Takes chunk p q)
      (hs : TakesAll chunks q r) : TakesAll (chunk :: chunks) p r

theorem run_registerAll_eq_ok {es : List (String × List Test)} {s s' : Intake} :
    (registerAll es).run s = (.ok (), s') ↔
      ∃ q, es.foldlM (fun p e => register p e.1 e.2) s.plan = .ok q ∧
        s' = { s with plan := q } := by
  induction es generalizing s with
  | nil =>
    constructor
    · intro h
      cases h
      exact ⟨_, rfl, rfl⟩
    · rintro ⟨q, h, rfl⟩
      cases h
      rfl
  | cons e es ih =>
    obtain ⟨name, tests⟩ := e
    rw [run_registerAll_cons, List.foldlM_cons]
    cases register s.plan name tests with
    | error f =>
      constructor
      · intro h
        cases h
      · rintro ⟨q, h, -⟩
        cases h
    | ok p => exact ih

theorem run_takeChunk_eq_ok {s s' : Intake} :
    (takeChunk chunk index).run s = (.ok (), s') ↔
      ∃ q, Takes chunk s.plan q ∧ s' = { s with plan := q } := by
  rw [run_takeChunk]
  constructor
  · intro h
    rcases hdecode : (decodeSuites chunk index).run s.notices with ⟨f | suites, ns⟩
    · rw [hdecode] at h
      cases h
    · have hpure := decodeSuites_eq hdecode
      obtain rfl : ns = s.notices := by
        rw [hpure index] at hdecode
        cases hdecode
        rfl
      rw [hdecode] at h
      dsimp only at h
      cases htaken : takenName? s.plan suites with
      | some name =>
        simp only [htaken] at h
        cases h
      | none =>
        simp only [htaken] at h
        obtain ⟨q, hreg, rfl⟩ := run_registerAll_eq_ok.1 h
        exact ⟨q, ⟨suites, hpure, htaken, hreg⟩, rfl⟩
  · rintro ⟨q, ⟨suites, hdecode, htaken, hreg⟩, rfl⟩
    have hrun : (decodeSuites chunk index).run s.notices = (.ok suites, s.notices) := by
      rw [hdecode index]
      rfl
    rw [hrun]
    simp only [htaken]
    exact run_registerAll_eq_ok.2 ⟨q, hreg, rfl⟩

/-- Whether chunks are taken in does not hang on their numbers and not on what was noted. -/
theorem run_takeChunks_eq_ok {chunks : List String} {s s' : Intake} :
    (takeChunks chunks index).run s = (.ok (), s') ↔
      ∃ q, TakesAll chunks s.plan q ∧ s' = { s with plan := q } := by
  induction chunks generalizing s index with
  | nil =>
    constructor
    · intro h
      cases h
      exact ⟨_, .nil _, rfl⟩
    · rintro ⟨q, h, rfl⟩
      cases h
      rfl
  | cons chunk chunks ih =>
    constructor
    · intro h
      obtain ⟨_, s₁, hone, hrest⟩ := run_bind_eq_ok h
      obtain ⟨p, hp, rfl⟩ := run_takeChunk_eq_ok.1 hone
      obtain ⟨q, hq, rfl⟩ := ih.1 hrest
      exact ⟨q, .cons hp hq, rfl⟩
    · rintro ⟨q, h, rfl⟩
      cases h with
      | @cons _ _ _ p _ hp hq =>
        rw [takeChunks, run_bind, run_takeChunk_eq_ok.2 ⟨p, hp, rfl⟩]
        exact ih.2 ⟨q, hq, rfl⟩

theorem takesAll_append_iff {before after : List String} {p r : Plan} :
    TakesAll (before ++ after) p r ↔ ∃ q, TakesAll before p q ∧ TakesAll after q r := by
  induction before generalizing p with
  | nil =>
    constructor
    · exact fun h => ⟨p, .nil p, h⟩
    · rintro ⟨_, ⟨⟩, h⟩
      exact h
  | cons chunk before ih =>
    constructor
    · rintro (_ | ⟨hone, hrest⟩)
      obtain ⟨q, hbefore, hafter⟩ := ih.1 hrest
      exact ⟨q, .cons hone hbefore, hafter⟩
    · rintro ⟨q, _ | ⟨hone, hbefore⟩, hafter⟩
      exact .cons hone (ih.2 ⟨q, hbefore, hafter⟩)

def Lists (chunk : String) (es : List (String × List Test)) : Prop :=
  ∃ suites, DecodesTo chunk suites ∧ suites.entries = es

theorem Loaded.takes (h : Loaded o es p) (ht : Takes chunk p q) :
    ∃ listed, Lists chunk listed ∧ Loaded o (es ++ listed) q := by
  obtain ⟨suites, hdecode, -, hreg⟩ := ht
  exact ⟨_, ⟨suites, hdecode, rfl⟩, h.registerAll hreg⟩

theorem Loaded.takesAll {chunks : List String} (h : Loaded o es p) (ht : TakesAll chunks p q) :
    ∃ lists, List.Forall₂ Lists chunks lists ∧ Loaded o (es ++ lists.flatten) q := by
  induction ht generalizing es with
  | nil p => exact ⟨[], .nil, by rwa [List.flatten_nil, List.append_nil]⟩
  | cons hone hrest ih =>
    obtain ⟨listed, hlisted, hq⟩ := h.takes hone
    obtain ⟨lists, hlists, hr⟩ := ih hq
    refine ⟨listed :: lists, .cons hlisted hlists, ?_⟩
    rwa [List.flatten_cons, ← List.append_assoc]

/-- Whatever more chunks come to, also when one of them fails, the entries before them stay. -/
theorem Loaded.takeChunks {chunks : List String} {s : Intake} (h : Loaded o es s.plan) :
    ∃ more, Loaded o (es ++ more) ((PlanFile.takeChunks chunks index).run s).2.plan := by
  induction chunks generalizing s es index with
  | nil => exact ⟨[], by rwa [List.append_nil]⟩
  | cons chunk chunks ih =>
    rw [PlanFile.takeChunks, run_bind]
    have hone := takesIn s chunk index
    rcases hrun : (takeChunk chunk index).run s with ⟨f | ⟨⟩, s₁⟩
    · rw [hrun] at hone
      cases hone with
      | nothing => exact ⟨[], by rwa [List.append_nil]⟩
    · obtain ⟨q, hq, rfl⟩ := run_takeChunk_eq_ok.1 hrun
      obtain ⟨listed, -, hlisted⟩ := h.takes hq
      obtain ⟨more, hmore⟩ := @ih (es ++ listed) (index + 1) { s with plan := q } hlisted
      exact ⟨listed ++ more, by rwa [← List.append_assoc]⟩

/-- A plan that is loaded from a file has come to the entries that its chunks list. -/
theorem loaded_of_load {s : Storage} {path : String} {ns ns' : List Notice}
    (h : (load s path o).run ns = (.ok p, ns')) :
    ∃ chunks lists, List.Forall₂ Lists chunks lists ∧ Loaded o lists.flatten p := by
  unfold load at h
  split at h
  · cases h
  · obtain ⟨_, _, -, h⟩ := run_bind_eq_ok h
    cases h
  · obtain ⟨q, ns₁, htake, h⟩ := run_bind_eq_ok h
    obtain ⟨_, _, -, h⟩ := run_bind_eq_ok h
    cases h
    rw [Taking.run_onto] at htake
    rcases hrun : (takeChunks _ 0).run ⟨.ofOptions o, ns⟩ with ⟨f | ⟨⟩, s₁⟩
    · rw [hrun] at htake
      cases htake
    · rw [hrun] at htake
      cases htake
      obtain ⟨q, hall, rfl⟩ := run_takeChunks_eq_ok.1 hrun
      obtain ⟨lists, hlists, hq⟩ := (Loaded.ofOptions o).takesAll hall
      exact ⟨_, lists, hlists, hq⟩

end PlanFile

end Runbook
