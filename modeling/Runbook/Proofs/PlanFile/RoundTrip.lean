import Runbook.Proofs.PlanFile.Clash
import Runbook.Proofs.PlanFile.Splitting
import Runbook.Proofs.PlanFile.Step
import Runbook.Proofs.Storage
import Runbook.Proofs.Yaml.Writing

namespace Runbook

namespace PlanFile

/-- A chunk holds a document with these data, in which no key stands twice. -/
def ReadsAs (chunk : String) (v : Value) : Prop :=
  ∃ n, Yaml.Node.ofText chunk.toList = .ok (some n) ∧ repeatedName? (some n) = none ∧
    Yaml.Construct.ofNode n = .ok v

/-- The texts of suites have no line of three dashes, and each is read as what it was written for,
also with a blank line before it and the heading of the next suite behind it. -/
def ReadBack : List Suite → Prop
  | [] => True
  | s :: ss =>
    (∀ text, Yaml.write? (document s) = some text →
      ['-', '-', '-'] ∉ Text.cutAt '\n' text.toList ∧
      ReadsAs ("\n" ++ text ++ following ss) (document s)) ∧ ReadBack ss

def dsl (p : Plan) : List (String × List (List (String × Value))) :=
  p.suites.values.map fun u => (u.name, u.tests.map Test.toDsl)

def rereadEntries (ss : List Suite) : List (String × List Test) :=
  ss.map fun u => (u.name, u.tests.map Test.reread)

variable {s : Suite} {ss : List Suite} {index : Int}

theorem run_decodeSuites_document {chunk : String} (h : ReadsAs chunk (document s))
    (hsteps : ∀ t ∈ s.tests, ∃ v, t.ReadFrom v) (ns : List Notice) :
    (decodeSuites chunk index).run ns =
      (.ok (Dict.ofList [(s.name, s.tests.map Test.reread)]), ns) := by
  obtain ⟨n, hread, hname, hbuild⟩ := h
  refine run_decodeSuites hread hname hbuild (.cons ⟨rfl, ?_⟩ .nil) ns
  exact ⟨_, rfl, checkTests_toDsl hsteps⟩

theorem run_takeChunk_remarks {chunk : String} (h : Yaml.Remarks chunk.toList)
    (hchunk : chunk.toList.all Yaml.isAllowed = true) (x : Intake) :
    (takeChunk chunk index).run x = (.ok (), x) := by
  have hdecode : decode chunk index = pure .null := by
    unfold decode
    rw [Yaml.Node.ofText_remarks h hchunk]
    rfl
  have hsuites : (decodeSuites chunk index).run x.notices = (.ok .empty, x.notices) := by
    rw [decodeSuites, hdecode, pure_bind]
    rfl
  rw [run_takeChunk, hsuites]
  rfl

theorem run_takeChunk_document {chunk : String} (h : ReadsAs chunk (document s))
    (hsteps : ∀ t ∈ s.tests, ∃ v, t.ReadFrom v) (x : Intake) (hnew : s.name ∉ x.plan.suiteNames) :
    (takeChunk chunk index).run x = (registerAll [(s.name, s.tests.map Test.reread)]).run x := by
  have htaken : takenName? x.plan (Dict.ofList [(s.name, s.tests.map Test.reread)]) = none := by
    refine List.find?_eq_none.2 fun n hn => ?_
    obtain rfl : n = s.name := List.mem_singleton.1 hn
    rw [Bool.and_eq_true, Registry.contains_iff]
    exact fun hold => hnew hold.2
  rw [run_takeChunk, run_decodeSuites_document h hsteps]
  simp only [htaken]
  rfl

theorem run_registerAll_append (e : String × List Test) (es : List (String × List Test))
    (x : Intake) :
    (registerAll (e :: es)).run x = match (registerAll [e]).run x with
      | (.ok (), x') => (registerAll es).run x'
      | (.error f, x') => (.error f, x') := by
  obtain ⟨name, tests⟩ := e
  rw [run_registerAll_cons, run_registerAll_cons]
  cases register x.plan name tests <;> rfl

/-- The chunks of suites are taken in like one chunk that holds all of them. -/
theorem run_takeChunks (hread : ReadBack ss)
    (hwritten : ∀ u ∈ ss, Yaml.write? (document u) = some (chunkText u))
    (hsteps : ∀ u ∈ ss, ∀ t ∈ u.tests, ∃ v, t.ReadFrom v)
    (hdistinct : (ss.map (·.name)).Nodup) (hinit : ∀ u ∈ ss, u.name ≠ initName)
    (x : Intake) (hnew : ∀ u ∈ ss, u.name ∉ x.plan.suiteNames) :
    (takeChunks (chunksOf ss) index).run x = (registerAll (rereadEntries ss)).run x := by
  induction ss generalizing x index with
  | nil => rfl
  | cons s ss ih =>
    obtain ⟨hs, hwritten⟩ := List.forall_mem_cons.1 hwritten
    obtain ⟨hstep, hsteps⟩ := List.forall_mem_cons.1 hsteps
    obtain ⟨hname, hinit⟩ := List.forall_mem_cons.1 hinit
    obtain ⟨hfresh, hnew⟩ := List.forall_mem_cons.1 hnew
    rw [List.map_cons, List.nodup_cons] at hdistinct
    obtain ⟨p, hrun, hp⟩ := @run_registerAll [(s.name, s.tests.map Test.reread)] x
      (List.pairwise_singleton _ _) fun n hn _ => List.mem_singleton.1 hn ▸ hfresh
    have hnames : p.suiteNames = x.plan.suiteNames ++ [s.name] := by
      rw [hp.names, List.map_singleton, List.filter_cons_of_pos (by simpa using hname)]
      rfl
    have hrest : ∀ u ∈ ss, u.name ∉ p.suiteNames := by
      intro u hu hmem
      rw [hnames] at hmem
      rcases List.mem_append.1 hmem with hold | hone
      · exact hnew u hu hold
      · exact hdistinct.1 (List.mem_singleton.1 hone ▸ List.mem_map_of_mem hu)
    have hone : (takeChunk ("\n" ++ chunkText s ++ following ss) index).run x =
        (registerAll [(s.name, s.tests.map Test.reread)]).run x :=
      run_takeChunk_document (hread.1 _ hs).2 hstep x hfresh
    have hall : rereadEntries (s :: ss) = (s.name, s.tests.map Test.reread) :: rereadEntries ss :=
      rfl
    rw [chunksOf, takeChunks, run_bind, hone, hrun, hall, run_registerAll_append, hrun]
    exact ih hread.2 hwritten hsteps hdistinct.2 hinit { x with plan := p } hrest

/-- What is loaded from the file of a plan: suites of the same names in the same order, each with
the steps that are read for its own and with the defaults of the plan that they are loaded into. -/
structure Reloads (o : Plan.Options) (p q : Plan) : Prop where
  names : q.suiteNames = p.suites.values.map (·.name)
  suites : q.suites.values = p.suites.values.map fun u =>
    (Plan.ofOptions o).createSuite u.name (u.tests.map fun t => { t.reread with suite := u.name })
  others : q = { Plan.ofOptions o with suites := q.suites }

theorem withDefaults_rereadEntries (p : Plan) (hinit : ∀ u ∈ ss, u.name ≠ initName) :
    withDefaults p (rereadEntries ss) = p := by
  have hnone : (rereadEntries ss).filter (·.1 == initName) = [] := by
    refine List.filter_eq_nil_iff.2 fun e he => ?_
    obtain ⟨u, hu, rfl⟩ := List.mem_map.1 he
    simpa using hinit u hu
  rw [withDefaults, hnone]
  rfl

theorem reloads_of_registers {o : Plan.Options} {p q : Plan}
    (hinit : ∀ u ∈ p.suites.values, u.name ≠ initName)
    (h : Registers (Plan.ofOptions o) (rereadEntries p.suites.values) q) : Reloads o p q := by
  have hnames : q.suiteNames = p.suites.values.map (·.name) := by
    have hmap : (rereadEntries p.suites.values).map (·.1) = p.suites.values.map (·.name) := by
      rw [rereadEntries, List.map_map]
      rfl
    have hkept : (p.suites.values.map (·.name)).filter (· != initName) =
        p.suites.values.map (·.name) := by
      refine List.filter_eq_self.2 fun n hn => ?_
      obtain ⟨u, hu, rfl⟩ := List.mem_map.1 hn
      simpa using hinit u hu
    rw [h.names, hmap, hkept]
    rfl
  refine ⟨hnames, Registry.values_of_get? hnames fun u hu => ?_, ?_⟩
  · obtain ⟨before, after, hsplit⟩ := List.append_of_mem hu
    have hes : rereadEntries p.suites.values = rereadEntries before ++
        (u.name, u.tests.map Test.reread) :: rereadEntries after := by
      rw [hsplit, rereadEntries, List.map_append]
      rfl
    have hbefore : ∀ u ∈ before, u.name ≠ initName := fun u hu =>
      hinit u (hsplit ▸ List.mem_append_left _ hu)
    rw [h.taken _ _ _ _ hes (hinit u hu), withDefaults_rereadEntries _ hbefore, List.map_map]
    rfl
  · have hothers := h.others
    rwa [withDefaults_rereadEntries _ hinit] at hothers

theorem ReadBack.lines (h : ReadBack ss) : ∀ u ∈ ss, ∀ text,
    Yaml.write? (document u) = some text → ['-', '-', '-'] ∉ Text.cutAt '\n' text.toList := by
  induction ss with
  | nil => exact List.forall_mem_nil _
  | cons s ss ih =>
    exact List.forall_mem_cons.2 ⟨fun text htext => (h.1 text htext).1, ih h.2⟩

theorem plain_first {p : Plan} (hplan : PlainComment p.comment)
    (hsuites : ∀ u ∈ ss, PlainComment u.comment) :
    Yaml.Remarks (remark p.comment ++ following ss).toList ∧
      (remark p.comment ++ following ss).toList.all Yaml.isAllowed = true := by
  rw [String.toList_append, List.all_append, hplan.remark_allowed, Bool.true_and]
  cases ss with
  | nil => exact ⟨hplan.remarks.append .nil, rfl⟩
  | cons u us =>
    obtain ⟨hu, -⟩ := List.forall_mem_cons.1 hsuites
    have hheading : (following (u :: us)).toList = '\n' :: '\n' :: (remark u.comment).toList := by
      rw [following, heading, String.toList_append]
      rfl
    rw [hheading]
    exact ⟨hplan.remarks.append (.blank (.blank hu.remarks)), hu.remark_allowed⟩

theorem unbroken_chunkText (h : Yaml.write? (document s) = some (chunkText s))
    (hline : ['-', '-', '-'] ∉ Text.cutAt '\n' (chunkText s).toList) :
    Unbroken (chunkText s).toList := by
  intro l hl
  have hdisplays := Yaml.displays_of_write? h
  have hreturn : l ≠ ['-', '-', '-', '\r'] := by
    rintro rfl
    have hmem := (Text.mem_of_mem_cutAt hl '\r' (by decide)).1
    exact absurd (List.all_eq_true.1 hdisplays _ hmem) (by decide)
  have hdashes : l ≠ ['-', '-', '-'] := fun hl' => hline (hl' ▸ hl)
  simp [isSeparator, hreturn, hdashes]

theorem no_return_suitesText (hsuites : ∀ u ∈ ss, PlainComment u.comment)
    (hwritten : ∀ u ∈ ss, Yaml.write? (document u) = some (chunkText u)) :
    '\r' ∉ (suitesText ss).toList := by
  induction ss with
  | nil => exact List.not_mem_nil
  | cons s ss ih =>
    obtain ⟨hs, hsuites⟩ := List.forall_mem_cons.1 hsuites
    obtain ⟨hw, hwritten⟩ := List.forall_mem_cons.1 hwritten
    have htext : '\r' ∉ (chunkText s).toList := fun hmem =>
      absurd (List.all_eq_true.1 (Yaml.displays_of_write? hw) _ hmem) (by decide)
    have hremark := hs.no_return
    have hrest := ih hsuites hwritten
    simp [suitesText, heading, htext, hremark, hrest]

/-- The file of a plan is loaded, and what is loaded hangs on the suites of the plan alone. -/
theorem run_load_store {s s' : Storage} {path : String} {p : Plan}
    (hdistinct : (p.suites.values.map (·.name)).Nodup)
    (hinit : initName ∉ p.suites.values.map (·.name))
    (hsteps : ∀ u ∈ p.suites.values, ∀ t ∈ u.tests, ∃ v, t.ReadFrom v)
    (hplan : PlainComment p.comment) (hsuites : ∀ u ∈ p.suites.values, PlainComment u.comment)
    (hread : ReadBack p.suites.values)
    (hstore : store s path (planPieces p) = (s', .ok ())) (o : Plan.Options) (ns : List Notice) :
    ∃ q, (load s' path o).run ns = (.ok q, ns ++ [.loadedPlan q.suites.size path]) ∧
      Reloads o p q := by
  have hnames : ∀ u ∈ p.suites.values, u.name ≠ initName := fun u hu h =>
    hinit (h ▸ List.mem_map_of_mem hu)
  obtain ⟨s₀, hopen, hwritten, rfl⟩ := store_eq_ok_iff.1 hstore
  have hfile : (s₀.append path (planText p)).readText (Storage.normal path) =
      .ok (planText p).toList := by
    have hreturn : '\r' ∉ (planText p).toList := by
      simp [planText, hplan.no_return, no_return_suitesText hsuites hwritten]
    rw [Storage.readText_append hopen, Text.unifyNewlines_of_not_mem hreturn]
  -- The text is cut where it was put together, and each suite is a chunk.
  have hchunks : splitChunks (planText p) =
      (remark p.comment ++ following p.suites.values) :: chunksOf p.suites.values :=
    splitChunks_suitesText (unbroken_remarks hplan.remarks) (fun u hu => (hsuites u hu).remarks)
      fun u hu => unbroken_chunkText (hwritten u hu) (hread.lines u hu _ (hwritten u hu))
  have hkeys : (rereadEntries p.suites.values).map (·.1) = p.suites.values.map (·.name) := by
    rw [rereadEntries, List.map_map]
    rfl
  obtain ⟨q, hrun, hq⟩ := @run_registerAll (rereadEntries p.suites.values)
    ⟨Plan.ofOptions o, ns⟩ (hkeys ▸ hdistinct) fun _ _ _ => List.not_mem_nil
  have htaken : (takeChunks (splitChunks (planText p)) 0).run ⟨Plan.ofOptions o, ns⟩ =
      (.ok (), ⟨q, ns⟩) := by
    obtain ⟨hfirst, hallowed⟩ := plain_first hplan hsuites
    rw [hchunks, takeChunks, run_bind, run_takeChunk_remarks hfirst hallowed]
    dsimp only
    rw [run_takeChunks hread hwritten hsteps hdistinct hnames _ fun _ _ => List.not_mem_nil, hrun]
  have honto : (Taking.onto (.ofOptions o) (takeChunks (splitChunks (planText p)) 0)).run ns =
      (.ok q, ns) := by
    rw [Taking.run_onto, htaken]
    rfl
  refine ⟨q, ?_, reloads_of_registers hnames hq⟩
  rw [load, hfile]
  dsimp only
  rw [String.ofList_toList, run_bind, honto]
  rfl

theorem dsl_of_reloads {o : Plan.Options} {p q : Plan} (h : Reloads o p q) :
    dsl q = p.suites.values.map fun u =>
      (u.name, u.tests.map fun t => { t with method := Text.lower t.method }.toDsl) := by
  rw [dsl, h.suites, List.map_map]
  refine List.map_congr_left fun u _ => ?_
  have htests : (u.tests.map fun t => { t.reread with suite := u.name }).map Test.toDsl =
      u.tests.map fun t => { t with method := Text.lower t.method }.toDsl := by
    rw [List.map_map]
    exact List.map_congr_left fun t _ => t.toDsl_reread
  exact congrArg (Prod.mk u.name) htests

theorem dsl_eq_iff {o : Plan.Options} {p q : Plan} (h : Reloads o p q) :
    dsl q = dsl p ↔ ∀ u ∈ p.suites.values, ∀ t ∈ u.tests, Text.lower t.method = t.method := by
  rw [dsl_of_reloads h, dsl, List.map_inj_left]
  refine forall₂_congr fun u _ => ?_
  rw [Prod.mk.injEq, eq_self, true_and, List.map_inj_left]
  refine forall₂_congr fun t _ => ?_
  rw [← Test.toDsl_reread]
  exact toDsl_reread_iff t

def textNode (name : String) (steps : List (List (String × String))) : Yaml.Node :=
  .mapping .map [(.scalar .str name, .sequence .seq (steps.map fun es =>
    .mapping .map (es.map fun e => (.scalar .str e.1, .scalar .str e.2))))]

theorem readsAs_textNode {chunk name : String} {steps : List (List (String × String))}
    (h : Yaml.Node.ofText chunk.toList = .ok (some (textNode name steps)))
    (hkeys : ∀ es ∈ steps, (es.map (·.1)).Nodup) :
    ReadsAs chunk (.map [(.str name, .list (steps.map fun es =>
      .map (es.map fun e => (.str e.1, .str e.2))))]) := by
  have hstep : ∀ es ∈ steps, Yaml.Construct.ofNode
      (.mapping .map (es.map fun e => (.scalar .str e.1, .scalar .str e.2))) =
        .ok (.map (es.map fun e => (.str e.1, .str e.2))) := by
    intro es hes
    have hnodes : List.Forall₂ (fun (e : String × Yaml.Node) (kv : String × Value) =>
        e.1 = kv.1 ∧ Yaml.Construct.ofNode e.2 = .ok kv.2)
        (es.map fun e => (e.1, .scalar .str e.2)) (es.map fun e => (e.1, .str e.2)) := by
      rw [List.forall₂_map_left_iff, List.forall₂_map_right_iff]
      exact List.forall₂_same.2 fun e _ => ⟨rfl, rfl⟩
    have hnames : ((es.map fun e => (e.1, Value.str e.2)).map (·.1)).Nodup := by
      rw [List.map_map]
      exact hkeys es hes
    have htexts := Yaml.Construct.ofNode_texts hnames hnodes
    rwa [List.map_map, List.map_map] at htexts
  have hsteps : Yaml.Construct.ofNode (.sequence .seq (steps.map fun es =>
      .mapping .map (es.map fun e => (.scalar .str e.1, .scalar .str e.2)))) =
        .ok (.list (steps.map fun es => .map (es.map fun e => (.str e.1, .str e.2)))) := by
    refine Yaml.Construct.ofNode_sequence ?_
    rw [List.forall₂_map_left_iff, List.forall₂_map_right_iff]
    exact List.forall₂_same.2 hstep
  exact ⟨_, h, rfl, @Yaml.Construct.ofNode_texts [(name, _)] [(name, _)]
    (List.pairwise_singleton _ _) (.cons ⟨rfl, hsteps⟩ .nil)⟩

/-- The file of a plan is loaded as a plan with the same suites in the same order, each with the
steps that it had up to capitals in their methods. What the comments say plays no part. The steps
are written as before for exactly the plans whose methods are in lower case, as they are unless one
was given as bytes. -/
theorem load_store {s s' : Storage} {path : String} {p : Plan}
    (hdistinct : (p.suites.values.map (·.name)).Nodup)
    (hinit : initName ∉ p.suites.values.map (·.name))
    (hsteps : ∀ u ∈ p.suites.values, ∀ t ∈ u.tests, ∃ v, t.ReadFrom v)
    (hplan : PlainComment p.comment) (hsuites : ∀ u ∈ p.suites.values, PlainComment u.comment)
    (hread : ReadBack p.suites.values)
    (hstore : store s path (planPieces p) = (s', .ok ())) (o : Plan.Options) (ns : List Notice) :
    ∃ q, (load s' path o).run ns = (.ok q, ns ++ [.loadedPlan q.suites.size path]) ∧
      Reloads o p q ∧
      (dsl q = p.suites.values.map fun u =>
        (u.name, u.tests.map fun t => { t with method := Text.lower t.method }.toDsl)) ∧
      (dsl q = dsl p ↔ ∀ u ∈ p.suites.values, ∀ t ∈ u.tests, Text.lower t.method = t.method) ∧
      ((∀ u ∈ p.suites.values, ∀ t ∈ u.tests, ∃ v, t.ReadFrom v ∧
        ∀ data, v.field? "method" ≠ some (.bytes data)) → dsl q = dsl p) := by
  obtain ⟨q, hrun, hq⟩ :=
    run_load_store hdistinct hinit hsteps hplan hsuites hread hstore o ns
  refine ⟨q, hrun, hq, dsl_of_reloads hq, dsl_eq_iff hq, fun hgiven => ?_⟩
  refine (dsl_eq_iff hq).2 fun u hu t ht => ?_
  obtain ⟨v, hv, hbytes⟩ := hgiven u hu t ht
  exact hv.lower_method hbytes

def plainStep (name path : String) : Test :=
  { Test.empty with name := name, method := "get", path := path }

def petsSuite : Suite :=
  (Plan.ofOptions .default).createSuite "pets" [plainStep "list" "/pets"]

def usersSuite : Suite :=
  { (Plan.ofOptions .default).createSuite "users" [plainStep "who" "/users"] with
    comment := "by hand" }

def petsPlan : Plan :=
  { Plan.ofOptions .default with
    comment := "generated\n---"
    suites := .ofList [("pets", petsSuite), ("users", usersSuite)] }

theorem plainStep_readFrom (name path : String) : ∃ v, (plainStep name path).ReadFrom v ∧
    ∀ data, v.field? "method" ≠ some (.bytes data) := by
  have hlower : Text.lower "get" = "get" := by decide +kernel
  have hmethod : (dslMap (plainStep name path).toDsl).field? "method" = some (.str "get") := by
    rw [field?_dslMap]
    rfl
  refine ⟨_, ⟨_, test_toDsl (v := .null) (plainStep name path) rfl, ?_⟩, fun data => ?_⟩
  · rw [Test.reread, plainStep, hlower]
    rfl
  · rw [hmethod]
    simp

theorem petsSuite_written : Yaml.write? (document petsSuite) =
    some "pets:\n- name: list\n  method: get\n  path: /pets\n" := by
  decide +kernel

theorem usersSuite_written : Yaml.write? (document usersSuite) =
    some "users:\n- name: who\n  method: get\n  path: /users\n" := by
  decide +kernel

theorem petsPlan_readBack : ReadBack petsPlan.suites.values := by
  refine ⟨fun text htext => ?_, fun text htext => ?_, trivial⟩
  · obtain rfl := Option.some.inj (petsSuite_written.symm.trans htext)
    refine ⟨by decide +kernel, ?_⟩
    exact @readsAs_textNode _ "pets" [[("name", "list"), ("method", "get"), ("path", "/pets")]]
      (by decide +kernel) (by decide)
  · obtain rfl := Option.some.inj (usersSuite_written.symm.trans htext)
    refine ⟨by decide +kernel, ?_⟩
    exact @readsAs_textNode _ "users" [[("name", "who"), ("method", "get"), ("path", "/users")]]
      (by decide +kernel) (by decide)

theorem petsPlan_stored : ∃ s', store .empty "./out.yml" (planPieces petsPlan) = (s', .ok ()) := by
  have hwritten : ∀ u ∈ petsPlan.suites.values,
      Yaml.write? (document u) = some (chunkText u) := by
    refine List.forall_mem_cons.2 ⟨?_, List.forall_mem_singleton.2 ?_⟩
    · rw [chunkText, petsSuite_written]
      rfl
    · rw [chunkText, usersSuite_written]
      rfl
  exact ⟨_, store_eq_ok_iff.2 ⟨_, rfl, hwritten, rfl⟩⟩

/-- The line of dashes in the comment separates nothing, and both suites come back. -/
theorem load_store_pets : ∃ s' q,
    store .empty "./out.yml" (planPieces petsPlan) = (s', .ok ()) ∧
      (load s' "./out.yml" .default).run [] = (.ok q, [.loadedPlan 2 "./out.yml"]) ∧
      q.suiteNames = ["pets", "users"] ∧ dsl q = dsl petsPlan := by
  obtain ⟨s', hstore⟩ := petsPlan_stored
  have hgiven : ∀ u ∈ petsPlan.suites.values, ∀ t ∈ u.tests, ∃ v, t.ReadFrom v ∧
      ∀ data, v.field? "method" ≠ some (.bytes data) :=
    List.forall_mem_cons.2 ⟨List.forall_mem_singleton.2 (plainStep_readFrom _ _),
      List.forall_mem_singleton.2 (List.forall_mem_singleton.2 (plainStep_readFrom _ _))⟩
  have hcomments : ∀ u ∈ petsPlan.suites.values, PlainComment u.comment :=
    List.forall_mem_cons.2 ⟨by decide, List.forall_mem_singleton.2 (by decide)⟩
  obtain ⟨q, hrun, hq, -, -, hdsl⟩ := load_store (by decide +kernel) (by decide +kernel)
    (fun u hu t ht => (hgiven u hu t ht).imp fun _ h => h.1) (by decide) hcomments
    petsPlan_readBack hstore .default []
  have hsize : q.suites.size = 2 := by
    rw [Registry.size, ← Plan.suiteNames, hq.names]
    rfl
  rw [hsize] at hrun
  exact ⟨s', q, hstore, hrun, hq.names, hdsl hgiven⟩

/-- A step whose method was given as bytes. -/
def loudStep : Test := { Test.empty with name := "a", method := "GET", suite := "s" }

def loudSuite : Suite := (Plan.ofOptions .default).createSuite "s" [loudStep]

def loudPlan : Plan := { Plan.ofOptions .default with suites := .ofList [("s", loudSuite)] }

theorem loudStep_readFrom : loudStep.ReadFrom
    (.map [(.str "name", .str "a"), (.str "method", .bytes [0x47, 0x45, 0x54])]) := by
  have hdecode : Text.Utf8.decode? [0x47, 0x45, 0x54] = some "GET".toList := by decide
  refine ⟨{ Test.empty with name := "a", method := "GET" }, ?_, rfl⟩
  simp [Check.test, Check.field, Check.field?, Value.field?_cons, Value.field?_nil, Check.text,
    Check.lowerText, hdecode, Test.declaredParams, Test.inlineSlots, Check.params, Test.empty,
    Params.empty, Auth.none]

theorem loudSuite_written :
    Yaml.write? (document loudSuite) = some "s:\n- name: a\n  method: GET\n" := by
  decide +kernel

theorem loudSuite_readsAs :
    ReadsAs "\ns:\n- name: a\n  method: GET\n" (document loudSuite) :=
  @readsAs_textNode _ "s" [[("name", "a"), ("method", "GET")]] (by decide +kernel) (by decide)

theorem loudPlan_readBack : ReadBack loudPlan.suites.values := by
  refine ⟨fun text htext => ?_, trivial⟩
  obtain rfl := Option.some.inj (loudSuite_written.symm.trans htext)
  exact ⟨by decide +kernel, loudSuite_readsAs⟩

/-- A plan may come back with another method than it had. -/
theorem load_store_lowers :
    ¬ ∀ (s s' : Storage) (path : String) (p : Plan),
      (p.suites.values.map (·.name)).Nodup → initName ∉ p.suites.values.map (·.name) →
      (∀ u ∈ p.suites.values, ∀ t ∈ u.tests, ∃ v, t.ReadFrom v) →
      PlainComment p.comment → (∀ u ∈ p.suites.values, PlainComment u.comment) →
      ReadBack p.suites.values → store s path (planPieces p) = (s', .ok ()) →
      ∀ (o : Plan.Options) (ns : List Notice),
        ∃ q ns', (load s' path o).run ns = (.ok q, ns') ∧ dsl q = dsl p := by
  intro h
  have hempty : PlainComment "" := ⟨List.forall_mem_nil _, rfl⟩
  have hdistinct : (loudPlan.suites.values.map (·.name)).Nodup := by decide +kernel
  have hinit : initName ∉ loudPlan.suites.values.map (·.name) := by decide +kernel
  have hsteps : ∀ u ∈ loudPlan.suites.values, ∀ t ∈ u.tests, ∃ v, t.ReadFrom v :=
    List.forall_mem_singleton.2 (List.forall_mem_singleton.2 ⟨_, loudStep_readFrom⟩)
  have hsuites : ∀ u ∈ loudPlan.suites.values, PlainComment u.comment :=
    List.forall_mem_singleton.2 hempty
  have hstore : ∃ s', store .empty "out.yml" (planPieces loudPlan) = (s', .ok ()) := by
    refine ⟨_, store_eq_ok_iff.2 ⟨_, rfl, List.forall_mem_singleton.2 ?_, rfl⟩⟩
    rw [chunkText, loudSuite_written]
    rfl
  obtain ⟨s', hstore⟩ := hstore
  obtain ⟨q, ns', hrun, hdsl⟩ :=
    h _ _ _ _ hdistinct hinit hsteps hempty hsuites loudPlan_readBack hstore .default []
  obtain ⟨q', hrun', hq⟩ :=
    run_load_store hdistinct hinit hsteps hempty hsuites loudPlan_readBack hstore .default []
  rw [hrun] at hrun'
  cases hrun'
  have hlower := (dsl_eq_iff hq).1 hdsl loudSuite List.mem_cons_self loudStep List.mem_cons_self
  exact absurd hlower (by decide +kernel)

end PlanFile

end Runbook
