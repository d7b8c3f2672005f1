import Runbook.PlanFile.Chunk
import Runbook.Proofs.Fault
import Runbook.Proofs.Plan
import Mathlib.Data.List.Forall2

namespace Runbook

/-- The suites of a plan stand under their names, which differ, and none is called `meqa_init`. -/
structure Plan.Consistent (p : Plan) : Prop where
  names : p.suites.values.map (·.name) = p.suiteNames
  distinct : p.suiteNames.Nodup
  noInit : initName ∉ p.suiteNames
  lookup : ∀ n s, p.suites.get? n = some s ↔ s ∈ p.suites.values ∧ s.name = n

theorem Plan.Consistent.of_named {p : Plan} (hinit : initName ∉ p.suiteNames)
    (h : ∀ n s, p.suites.get? n = some s → s.name = n) : p.Consistent := by
  have hentries : ∀ e ∈ p.suites.entries, e.2.name = e.1 := fun e he =>
    h e.1 e.2 (Registry.get?_eq_some_iff.2 he)
  refine ⟨?_, p.suites.nodup_order, hinit, fun n s => ⟨fun hs => ?_, ?_⟩⟩
  · rw [Plan.suiteNames, ← p.suites.map_fst_entries, Registry.values, List.map_map]
    exact List.map_congr_left hentries
  · exact ⟨Registry.mem_values_of_get? hs, h n s hs⟩
  · rintro ⟨hs, rfl⟩
    obtain ⟨e, he, rfl⟩ := List.mem_map.1 hs
    rw [hentries e he]
    exact Registry.get?_eq_some_iff.2 he

namespace PlanFile

def withDefaults (p : Plan) (es : List (String × List Test)) : Plan :=
  ((es.filter (·.1 == initName)).flatMap (·.2)).foldl Plan.applyDefaults p

theorem withDefaults_init (p : Plan) (tests : List Test) (es : List (String × List Test)) :
    withDefaults p ((initName, tests) :: es) =
      withDefaults (tests.foldl Plan.applyDefaults p) es := by
  rw [withDefaults, List.filter_cons_of_pos (by simp), List.flatMap_cons, List.foldl_append]
  rfl

theorem withDefaults_suite {name : String} (h : name ≠ initName) (p : Plan) (tests : List Test)
    (es : List (String × List Test)) :
    withDefaults p ((name, tests) :: es) = withDefaults p es := by
  rw [withDefaults, List.filter_cons_of_neg (by simpa using h)]
  rfl

theorem foldl_applyDefaults (p : Plan) (suites : Registry) (tests : List Test) :
    tests.foldl Plan.applyDefaults { p with suites := suites } =
      { tests.foldl Plan.applyDefaults p with suites := suites } := by
  induction tests generalizing p with
  | nil => rfl
  | cons t ts ih => exact ih (p.applyDefaults t)

theorem withDefaults_suites (p : Plan) (suites : Registry)
    (es : List (String × List Test)) :
    withDefaults { p with suites := suites } es = { withDefaults p es with suites := suites } :=
  foldl_applyDefaults p suites _

theorem suites_foldl_applyDefaults (p : Plan) (tests : List Test) :
    (tests.foldl Plan.applyDefaults p).suites = p.suites := by
  induction tests generalizing p with
  | nil => rfl
  | cons t ts ih => exact ih (p.applyDefaults t)

/-- The first plan becomes the second one when these entries are taken in. Each entry that is not
called `meqa_init` is declared once, after the suites that were there, with its steps and the
defaults as they stand at its place. -/
structure Registers (p : Plan) (es : List (String × List Test)) (p' : Plan) : Prop where
  names : p'.suiteNames = p.suiteNames ++ (es.map (·.1)).filter (· != initName)
  kept : ∀ n ∈ p.suiteNames, p'.suites.get? n = p.suites.get? n
  taken : ∀ before name tests after, es = before ++ (name, tests) :: after → name ≠ initName →
    p'.suites.get? name = some ((withDefaults p before).createSuite name
      (tests.map fun t => { t with suite := name }))
  others : p' = { withDefaults p es with suites := p'.suites }

namespace Registers

variable {p p' : Plan} {es : List (String × List Test)}

theorem nil (p : Plan) : Registers p [] p where
  names := (List.append_nil _).symm
  kept _ _ := rfl
  taken := by simp
  others := rfl

theorem init {tests : List Test} (h : Registers (tests.foldl Plan.applyDefaults p) es p') :
    Registers p ((initName, tests) :: es) p' := by
  have hsuites := suites_foldl_applyDefaults p tests
  constructor
  · rw [h.names, Plan.suiteNames, hsuites, List.map_cons, List.filter_cons_of_neg (by simp)]
    rfl
  · rw [← hsuites]
    intro n hn
    apply h.kept
    rwa [Plan.suiteNames, hsuites]
  · intro before name ts after hes hname
    rcases before with _ | ⟨e, before⟩
    · cases hes
      exact (hname rfl).elim
    · obtain ⟨rfl, hrest⟩ := List.cons.inj hes
      rw [h.taken before name ts after hrest hname, withDefaults_init]
  · rw [withDefaults_init]
    exact h.others

theorem suite {name : String} {tests : List Test} {suites : Registry}
    (hname : name ≠ initName) (hnew : name ∉ p.suiteNames)
    (hsuites : suites = p.suites.put name
      (p.createSuite name (tests.map fun t => { t with suite := name })))
    (h : Registers { p with suites := suites } es p') : Registers p ((name, tests) :: es) p' := by
  have horder : suites.order = p.suiteNames ++ [name] := by
    rw [hsuites]
    exact Registry.order_put_of_new hnew _
  have hmem {n : String} (hn : n ∈ p.suiteNames ++ [name]) : n ∈ suites.order := horder ▸ hn
  constructor
  · have hnames : p'.suiteNames = suites.order ++ (es.map (·.1)).filter (· != initName) := h.names
    rw [hnames, horder, List.map_cons, List.filter_cons_of_pos (by simpa using hname),
      List.append_assoc]
    rfl
  · intro n hn
    have hold : p'.suites.get? n = suites.get? n := h.kept n (hmem (List.mem_append_left _ hn))
    have hne : name ≠ n := fun he => hnew (he ▸ hn)
    rw [hold, hsuites, Registry.get?_put, if_neg (by simpa using hne)]
  · intro before n ts after hes hn
    rcases before with _ | ⟨e, before⟩
    · cases hes
      have hold : p'.suites.get? name = suites.get? name :=
        h.kept name (hmem (List.mem_append_right _ List.mem_cons_self))
      rw [hold, hsuites, Registry.get?_put, if_pos (by simp)]
      rfl
    · obtain ⟨rfl, hrest⟩ := List.cons.inj hes
      rw [h.taken before n ts after hrest hn, withDefaults_suite hname, withDefaults_suites]
      rfl
  · rw [withDefaults_suite hname]
    exact h.others.trans (by rw [withDefaults_suites])

theorem consistent (h : Registers p es p') (hp : p.Consistent) : p'.Consistent := by
  have hmem : ∀ n ∈ p'.suiteNames, n ∈ p.suiteNames ∨ n ∈ es.map (·.1) ∧ n ≠ initName := by
    intro n hn
    rw [h.names] at hn
    simpa only [List.mem_append, List.mem_filter, bne_iff_ne] using hn
  refine .of_named (fun hinit => ?_) fun n s hs => ?_
  · rcases hmem _ hinit with hold | ⟨-, hne⟩
    · exact hp.noInit hold
    · exact hne rfl
  · have hn : n ∈ p'.suiteNames := (Registry.mem_order_iff _ _).2 (by rw [hs]; rfl)
    rcases hmem n hn with hold | ⟨hnew, hne⟩
    · rw [h.kept n hold] at hs
      exact ((hp.lookup n s).1 hs).2
    · obtain ⟨⟨n, tests⟩, he, rfl⟩ := List.mem_map.1 hnew
      obtain ⟨before, after, hes⟩ := List.append_of_mem he
      rw [h.taken before n tests after hes hne] at hs
      cases hs
      rfl

end Registers

theorem run_registerAll_cons (name : String) (tests : List Test) (es : List (String × List Test))
    (s : Intake) :
    (registerAll ((name, tests) :: es)).run s = match register s.plan name tests with
      | .ok p => (registerAll es).run { s with plan := p }
      | .error f => (.error f, s) := by
  rw [registerAll, run_get_bind]
  cases register s.plan name tests <;> rfl

theorem run_registerAll {es : List (String × List Test)} (s : Intake)
    (hdistinct : (es.map (·.1)).Nodup)
    (hnew : ∀ n ∈ es.map (·.1), n ≠ initName → n ∉ s.plan.suiteNames) :
    ∃ p', (registerAll es).run s = (.ok (), { s with plan := p' }) ∧ Registers s.plan es p' := by
  induction es generalizing s with
  | nil => exact ⟨s.plan, rfl, .nil _⟩
  | cons e es ih =>
    obtain ⟨name, tests⟩ := e
    rw [List.map_cons, List.nodup_cons] at hdistinct
    rw [run_registerAll_cons]
    by_cases hname : name = initName
    · subst hname
      rw [register, if_pos rfl]
      obtain ⟨p', hrun, hreg⟩ := ih { s with plan := tests.foldl Plan.applyDefaults s.plan }
        hdistinct.2 fun n hn hne => by
          rw [Plan.suiteNames, suites_foldl_applyDefaults]
          exact hnew n (List.mem_cons_of_mem _ hn) hne
      exact ⟨p', hrun, hreg.init⟩
    · have hfresh := hnew name List.mem_cons_self hname
      have hno : s.plan.suites.contains name = false := by
        rw [← Bool.not_eq_true, Registry.contains_iff]
        exact hfresh
      rw [register, if_neg hname, Plan.add, Plan.createSuite, hno, if_neg (by simp)]
      obtain ⟨p', hrun, hreg⟩ := ih { s with plan := { s.plan with
        suites := s.plan.suites.put name
          (s.plan.createSuite name (tests.map fun t => { t with suite := name })) } }
        hdistinct.2 fun n hn hne hmem => by
          rw [Plan.suiteNames, Registry.order_put_of_new hfresh, List.mem_append] at hmem
          rcases hmem with hmem | hmem
          · exact hnew n (List.mem_cons_of_mem _ hn) hne hmem
          · obtain rfl := List.mem_singleton.1 hmem
            exact hdistinct.1 hn
      exact ⟨p', hrun, hreg.suite hname hfresh rfl⟩

/-- Work on the side gives a result without a notice, or a fault with the notices of that fault. -/
def Gives {α : Type} (x : Logged α) (P : α → Prop) (Q : Fault → List Notice → Prop) : Prop :=
  ∀ ns, (∃ a, x.run ns = (.ok a, ns) ∧ P a) ∨
    ∃ f noted, x.run ns = (.error f, ns ++ noted) ∧ Q f noted

section Gives

variable {α β : Type} {P P' : α → Prop} {R : β → Prop} {Q Q' : Fault → List Notice → Prop}

theorem Gives.pure {a : α} (h : P a) : Gives (pure a : Logged α) P Q := fun _ =>
  .inl ⟨a, rfl, h⟩

theorem Gives.throw {f : Fault} (h : Q f []) : Gives (throw f : Logged α) P Q := fun _ =>
  .inr ⟨f, [], by rw [List.append_nil]; rfl, h⟩

theorem Gives.noted {n : Notice} {f : Fault} (h : Q f [n]) :
    Gives (do note n; MonadExcept.throw f : Logged α) P Q := fun _ =>
  .inr ⟨f, [n], rfl, h⟩

theorem Gives.bind {x : Logged α} {g : α → Logged β} (hx : Gives x P Q)
    (hg : ∀ a, P a → Gives (g a) R Q) : Gives (x >>= g) R Q := by
  intro ns
  rw [run_bind]
  rcases hx ns with ⟨a, hrun, ha⟩ | ⟨f, noted, hrun, hf⟩
  · rw [hrun]
    exact hg a ha ns
  · rw [hrun]
    exact .inr ⟨f, noted, rfl, hf⟩

theorem Gives.imp {x : Logged α} (hx : Gives x P Q) (hP : ∀ a, P a → P' a)
    (hQ : ∀ f noted, Q f noted → Q' f noted) : Gives x P' Q' := by
  intro ns
  rcases hx ns with ⟨a, hrun, ha⟩ | ⟨f, noted, hrun, hf⟩
  · exact .inl ⟨a, hrun, hP a ha⟩
  · exact .inr ⟨f, noted, hrun, hQ f noted hf⟩

/-- What gives nothing behind its notice fails with that notice. -/
theorem Gives.after {n : Notice} {x : Logged α}
    (hx : Gives x (fun _ => False) fun f noted => Q f (n :: noted)) :
    Gives (do note n; x) P Q := by
  intro ns
  rcases hx (ns ++ [n]) with ⟨a, -, ha⟩ | ⟨f, noted, hrun, hf⟩
  · exact ha.elim
  · exact .inr ⟨f, n :: noted, hrun.trans (by rw [List.append_assoc]; rfl), hf⟩

end Gives

/-- An entry of a chunk names a suite and lists its steps. -/
structure Names (e : Value × Value) (suite : String × List Test) : Prop where
  name : e.1.text? = some suite.1
  tests : ∃ vs, listed? e.2 = some vs ∧ checkTests vs = .ok suite.2

/-- What a chunk holds: no suites, or those that the entries of a mapping name. -/
inductive Decodes (chunk : String) : Dict String (List Test) → Prop where
  | nothing (h : Yaml.read chunk.toList = .ok .null) : Decodes chunk .empty
  | suites {es : List (Value × Value)} {named : List (String × List Test)}
      (h : Yaml.read chunk.toList = .ok (.map es)) (hnamed : List.Forall₂ Names es named) :
      Decodes chunk (Dict.ofList named)

/-- Why a chunk is not decoded, with the fault and what is noted. -/
inductive Undecoded (chunk : String) (index : Int) : Fault → List Notice → Prop where
  | notYaml (h : Yaml.read chunk.toList = .error .malformed) :
      Undecoded chunk index (.chunk index .notYaml) [.badChunk index chunk]
  | repeated {node : Option Yaml.Node} {name : String}
      (h : Yaml.Node.ofText chunk.toList = .ok node) (hname : repeatedName? node = some name) :
      Undecoded chunk index (.duplicateSuite name) [.duplicateInChunk index]
  | notMapping {v : Value} (h : Yaml.read chunk.toList = .ok v) (hnull : v ≠ .null)
      (hmap : ∀ es, v ≠ .map es) : Undecoded chunk index (.chunk index .notMapping) []
  | notTestList {es : List (Value × Value)} {e : Value × Value} {suite : String}
      (h : Yaml.read chunk.toList = .ok (.map es)) (he : e ∈ es) (hlist : listed? e.2 = none)
      (hsuite : e.1.literal? = some suite) :
      Undecoded chunk index (.chunk index (.notTestList suite)) []
  | badTest {es : List (Value × Value)} {e : Value × Value} {vs : List Value} {suite : String}
      {mistakes : List Mistake} (h : Yaml.read chunk.toList = .ok (.map es)) (he : e ∈ es)
      (hlist : listed? e.2 = some vs) (hbad : checkTests vs = .mistaken mistakes)
      (hsuite : e.1.literal? = some suite) :
      Undecoded chunk index (.chunk index (.badTest suite mistakes)) [.badChunk index chunk]
  /-- The text has the form of a document and is none, as when an escape stands for no character. -/
  | unreadable {f : Yaml.ReadFault} (h : Yaml.Node.ofText chunk.toList = .error f)
      (hf : f ≠ .malformed) : Undecoded chunk index (.data f.dataFault) []
  /-- A text does not have the form that its tag says. -/
  | unbuilt {n : Yaml.Node} {f : Yaml.ReadFault} (h : Yaml.Node.ofText chunk.toList = .ok (some n))
      (hbuild : Yaml.Construct.ofNode n = .error f) (hf : f ≠ .malformed) :
      Undecoded chunk index (.data f.dataFault) []
  /-- The name of a suite is a number too long to be written. -/
  | unnamed {es : List (Value × Value)} {e : Value × Value} {noted : List Notice}
      (h : Yaml.read chunk.toList = .ok (.map es)) (he : e ∈ es)
      (hname : e.1.text? = none ∨ e.1.literal? = none) (hnoted : noted ⊆ [.badChunk index chunk]) :
      Undecoded chunk index (.data .value) noted

variable {chunk : String} {index : Int}

theorem gives_readFault {α : Type} {P : α → Prop} {Q : Fault → List Notice → Prop}
    {f : Yaml.ReadFault} (hbad : f = .malformed → Q (.chunk index .notYaml) [.badChunk index chunk])
    (hdata : f ≠ .malformed → Q (.data f.dataFault) []) :
    Gives (readFault chunk index f : Logged α) P Q := by
  cases f with
  | malformed => exact .noted (hbad rfl)
  | _ => exact .throw (hdata (by simp))

theorem gives_decode : Gives (decode chunk index)
    (fun v => Yaml.read chunk.toList = .ok v) (Undecoded chunk index) := by
  unfold decode
  cases hnode : Yaml.Node.ofText chunk.toList with
  | error f =>
    refine gives_readFault (fun hf => .notYaml ?_) fun hf => .unreadable hnode hf
    rw [Yaml.read, hnode, hf]
  | ok node =>
    cases hname : repeatedName? node with
    | some name =>
      simp only [hname]
      exact .noted (.repeated hnode hname)
    | none =>
      simp only [hname]
      rcases node with _ | n
      · exact .pure (by rw [Yaml.read, hnode])
      · cases hbuild : Yaml.Construct.ofNode n with
        | error f =>
          simp only [hbuild]
          refine gives_readFault (fun hf => .notYaml ?_) fun hf => .unbuilt hnode hbuild hf
          rw [Yaml.read, hnode]
          exact hbuild.trans (congrArg _ hf)
        | ok v =>
          simp only [hbuild]
          refine .pure ?_
          rw [Yaml.read, hnode]
          exact hbuild

theorem gives_orValueFault {α : Type} {o : Option α} {Q : Fault → List Notice → Prop}
    (h : o = none → Q (.data .value) []) : Gives (orValueFault o) (fun a => o = some a) Q := by
  cases o with
  | none => exact .throw (h rfl)
  | some a => exact .pure rfl

theorem gives_suiteTests {es : List (Value × Value)} {e : Value × Value}
    (h : Yaml.read chunk.toList = .ok (.map es)) (he : e ∈ es) :
    Gives (suiteTests chunk index e.1 e.2)
      (fun ts => ∃ vs, listed? e.2 = some vs ∧ checkTests vs = .ok ts) (Undecoded chunk index) := by
  unfold suiteTests
  cases hlist : listed? e.2 with
  | none =>
    refine .bind (gives_orValueFault fun hno => .unnamed h he (.inr hno) (List.nil_subset _)) ?_
    exact fun suite hsuite => .throw (.notTestList h he hlist hsuite)
  | some vs =>
    cases hcheck : checkTests vs with
    | ok ts =>
      simp only [hcheck]
      exact .pure ⟨vs, rfl, hcheck⟩
    | mistaken mistakes =>
      simp only [hcheck]
      refine .after (.bind (gives_orValueFault fun hno => ?_) ?_)
      · exact .unnamed h he (.inr hno) (List.Subset.refl _)
      · exact fun suite hsuite => .throw (.badTest h he hlist hcheck hsuite)

theorem gives_suitesOf {all es : List (Value × Value)} (h : Yaml.read chunk.toList = .ok (.map all))
    (hes : es ⊆ all) (suites : Dict String (List Test)) :
    Gives (suitesOf chunk index es suites)
      (fun d => ∃ named, List.Forall₂ Names es named ∧ d = suites.putAll named)
      (Undecoded chunk index) := by
  induction es generalizing suites with
  | nil => exact .pure ⟨[], .nil, rfl⟩
  | cons e es ih =>
    obtain ⟨he, hes⟩ := List.cons_subset.1 hes
    refine .bind (gives_suiteTests h he) fun ts hts => ?_
    refine .bind (gives_orValueFault fun hno => .unnamed h he (.inl hno) (List.nil_subset _)) ?_
    intro name hname
    refine (ih hes _).imp ?_ fun _ _ hf => hf
    rintro d ⟨named, hnamed, rfl⟩
    exact ⟨(name, ts) :: named, .cons ⟨hname, hts⟩ hnamed, rfl⟩

theorem gives_decodeSuites :
    Gives (decodeSuites chunk index) (Decodes chunk) (Undecoded chunk index) := by
  refine .bind gives_decode fun v hv => ?_
  cases v with
  | null => exact .pure (.nothing hv)
  | map es =>
    refine (gives_suitesOf hv (List.Subset.refl es) .empty).imp ?_ fun _ _ hf => hf
    rintro d ⟨named, hnamed, rfl⟩
    exact .suites hv hnamed
  | _ => exact .throw (.notMapping hv (by simp) (by simp))

/-- Why a plan does not take a chunk in, with the fault and what is noted. -/
inductive Refuses (p : Plan) (chunk : String) (index : Int) : Fault → List Notice → Prop where
  | undecoded {f : Fault} {noted : List Notice} (h : Undecoded chunk index f noted) :
      Refuses p chunk index f noted
  | declared {suites : Dict String (List Test)} {name : String} (h : Decodes chunk suites)
      (hname : name ∈ suites.keys) (hinit : name ≠ initName) (hdeclared : name ∈ p.suiteNames) :
      Refuses p chunk index (.duplicateSuite name) [.duplicateSuite name index]

/-- A chunk is taken in as a whole, or it is refused and the plan stays as it is. -/
inductive TakesIn (s : Intake) (chunk : String) (index : Int) :
    Except Fault Unit → Intake → Prop where
  | whole {suites : Dict String (List Test)} {p : Plan} (h : Decodes chunk suites)
      (hp : Registers s.plan suites.entries p) : TakesIn s chunk index (.ok ()) { s with plan := p }
  | nothing {f : Fault} {noted : List Notice} (h : Refuses s.plan chunk index f noted) :
      TakesIn s chunk index (.error f) { s with notices := s.notices ++ noted }

theorem Taking.run_onto (p : Plan) (x : Taking Unit) (ns : List Notice) :
    (Taking.onto p x).run ns =
      ((x.run ⟨p, ns⟩).1.map fun _ => (x.run ⟨p, ns⟩).2.plan, (x.run ⟨p, ns⟩).2.notices) := rfl

theorem run_takeChunk (s : Intake) (chunk : String) (index : Int) :
    (takeChunk chunk index).run s = match (decodeSuites chunk index).run s.notices with
      | (.error f, ns) => (.error f, { s with notices := ns })
      | (.ok suites, ns) =>
        match takenName? s.plan suites with
        | some name =>
          (.error (.duplicateSuite name), { s with notices := ns ++ [.duplicateSuite name index] })
        | none => (registerAll suites.entries).run { s with notices := ns } := by
  have haside : (Taking.aside (decodeSuites chunk index)).run s =
      (((decodeSuites chunk index).run s.notices).1,
        { s with notices := ((decodeSuites chunk index).run s.notices).2 }) := rfl
  rw [takeChunk, run_bind, haside]
  rcases (decodeSuites chunk index).run s.notices with ⟨_ | suites, ns⟩
  · rfl
  · dsimp only
    rw [run_get_bind]
    cases takenName? s.plan suites <;> rfl

theorem takenName?_eq_some {p : Plan} {suites : Dict String (List Test)} {name : String}
    (h : takenName? p suites = some name) :
    name ∈ suites.keys ∧ name ≠ initName ∧ name ∈ p.suiteNames := by
  have hp := List.find?_some h
  rw [Bool.and_eq_true, bne_iff_ne, Registry.contains_iff] at hp
  exact ⟨List.mem_of_find?_eq_some h, hp.1, hp.2⟩

theorem takenName?_eq_none {p : Plan} {suites : Dict String (List Test)}
    (h : takenName? p suites = none) :
    ∀ n ∈ suites.keys, n ≠ initName → n ∉ p.suiteNames := by
  intro n hn hinit hmem
  apply List.find?_eq_none.1 h n hn
  rw [Bool.and_eq_true, bne_iff_ne, Registry.contains_iff]
  exact ⟨hinit, hmem⟩

theorem takesIn (s : Intake) (chunk : String) (index : Int) :
    TakesIn s chunk index ((takeChunk chunk index).run s).1 ((takeChunk chunk index).run s).2 := by
  rw [run_takeChunk]
  rcases gives_decodeSuites s.notices with ⟨suites, hrun, hsuites⟩ | ⟨f, noted, hrun, hf⟩
  · rw [hrun]
    cases htaken : takenName? s.plan suites with
    | some name =>
      obtain ⟨hname, hinit, hdeclared⟩ := takenName?_eq_some htaken
      simp only [htaken]
      exact .nothing (.declared hsuites hname hinit hdeclared)
    | none =>
      obtain ⟨p, hreg, hp⟩ :=
        run_registerAll s (Dict.nodup_keys suites) (takenName?_eq_none htaken)
      simp only [htaken, hreg]
      exact .whole hsuites hp
  · rw [hrun]
    exact .nothing (.undecoded hf)

/-- Chunks with their numbers taken in one after the other, also after one that fails. -/
def takeEach : List (String × Int) → Intake → Intake
  | [], s => s
  | (chunk, index) :: cs, s => takeEach cs ((takeChunk chunk index).run s).2

theorem TakesIn.consistent {s s' : Intake} {r : Except Fault Unit}
    (h : TakesIn s chunk index r s') (hs : s.plan.Consistent) : s'.plan.Consistent := by
  cases h with
  | whole h hp => exact hp.consistent hs
  | nothing h => exact hs

theorem consistent_takeEach (cs : List (String × Int)) {s : Intake} (hs : s.plan.Consistent) :
    (takeEach cs s).plan.Consistent := by
  induction cs generalizing s with
  | nil => exact hs
  | cons c cs ih => exact ih ((takesIn s c.1 c.2).consistent hs)

theorem consistent_ofOptions (o : Plan.Options) : (Plan.ofOptions o).Consistent :=
  .of_named List.not_mem_nil fun _ _ h => by cases h

/-- Whatever chunks a plan has come to, it is consistent, and the next chunk is taken in as a whole
or leaves the plan as it is. -/
theorem take_all_or_nothing (o : Plan.Options) (ns : List Notice) (earlier : List (String × Int))
    (chunk : String) (index : Int) :
    ∃ s r s', takeEach earlier ⟨.ofOptions o, ns⟩ = s ∧ (takeChunk chunk index).run s = (r, s') ∧
      s.plan.Consistent ∧ s'.plan.Consistent ∧ TakesIn s chunk index r s' := by
  have hs := @consistent_takeEach earlier ⟨.ofOptions o, ns⟩ (consistent_ofOptions o)
  have h := takesIn (takeEach earlier ⟨.ofOptions o, ns⟩) chunk index
  exact ⟨_, _, _, rfl, rfl, hs, h.consistent hs, h⟩

/-- An escape for a character past the last one makes a chunk fail neither as a chunk nor as a name
that is there already, and before any value is built. -/
theorem take_raises_otherwise :
    ¬ ∀ (o : Plan.Options) (ns : List Notice) (earlier : List (String × Int)) (chunk : String)
      (index : Int) (f : Fault) (s : Intake),
      (takeChunk chunk index).run (takeEach earlier ⟨.ofOptions o, ns⟩) = (.error f, s) →
        (∃ name, f = .duplicateSuite name) ∨ (∃ cause, f = .chunk index cause) ∨
          ∃ n g, Yaml.Node.ofText chunk.toList = .ok (some n) ∧ Yaml.Construct.ofNode n = .error g ∧
            f = .data g.dataFault := by
  intro h
  have hread : Yaml.Node.ofText "a: \"\\U00110000\"\n".toList = .error .noCharacter := rfl
  have hrun : (takeChunk "a: \"\\U00110000\"\n" 0).run ⟨.ofOptions .default, []⟩ =
      (.error (.data .value), ⟨.ofOptions .default, []⟩) := rfl
  rcases h .default [] [] _ 0 _ _ hrun with ⟨_, hname⟩ | ⟨_, hchunk⟩ | ⟨n, _, hnode, -⟩
  · cases hname
  · cases hchunk
  · rw [hread] at hnode
    cases hnode

end PlanFile

end Runbook
