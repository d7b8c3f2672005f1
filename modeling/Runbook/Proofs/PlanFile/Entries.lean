import Runbook.Proofs.PlanFile.Order
import Mathlib.Data.List.Nodup

namespace Runbook

namespace PlanFile

open Yaml (Node)

/-- What a chunk holds: nothing, or entries that list valid steps. -/
inductive Holds (chunk : String) : List Entry → Prop where
  | blank (h : Node.ofText chunk.toList = .ok none) : Holds chunk []
  | null {text : String} (h : Node.ofText chunk.toList = .ok (some (.scalar .null text))) :
      Holds chunk []
  | entries {es : List (Node × Node)} {xs : List Entry}
      (h : Node.ofText chunk.toList = .ok (some (.mapping .map es)))
      (hxs : List.Forall₂ Entry.Of es xs) : Holds chunk xs

def Entry.said (x : Entry) : String × List Test := (x.name, x.tests)

def listed (xs : List Entry) : Dict String (List Test) := Dict.ofList (named xs)

/-- Entries that differ in their names, and in their keys too. -/
structure Apart (xs : List Entry) : Prop where
  names : (xs.map (·.name)).Nodup
  keys : xs.Pairwise fun x y => (x.key == y.key) = false

/-- Entries of a chunk that is not refused for a text that stands twice. -/
structure Sound (xs : List Entry) : Prop where
  names : ∀ x ∈ xs, x.key.text? = some x.name
  texts : (xs.map (·.raw)).Nodup
  inits : ∀ x ∈ xs, x.name = initName → x.raw = initName

variable {chunk : String} {xs : List Entry}

theorem Entry.Of.inits {es : List (Node × Node)} (h : List.Forall₂ Entry.Of es xs) :
    ∀ x ∈ xs, x.name = initName → x.raw = initName := by
  induction h with
  | nil => exact List.forall_mem_nil _
  | @cons e x es xs he _ ih =>
    refine List.forall_mem_cons.2 ⟨fun hinit => ?_, ih⟩
    obtain ⟨tag, hkey⟩ := he.scalar_key
    have hname := he.name
    rw [hinit] at hname
    rw [Value.eq_init_of_text? hname] at hkey
    exact Yaml.Construct.text_of_scalar hkey

theorem listed_of_apart (hname : ∀ x ∈ xs, x.key.text? = some x.name) (h : Apart xs) :
    (listed xs).entries = xs.map Entry.said := by
  rw [listed, named_eq hname h.keys, entries_named h.names]
  rfl

theorem size_kept_le (xs : List Entry) : (kept xs).size ≤ xs.length := by
  have hle := Dict.size_ofList_le (xs.map fun x => (x.key, x.tests))
  rwa [List.length_map] at hle

theorem size_listed_le (xs : List Entry) : (listed xs).size ≤ (kept xs).size := by
  have hle := Dict.size_ofList_le (named xs)
  rwa [named, List.length_map] at hle

theorem apart_of_size (hname : ∀ x ∈ xs, x.key.text? = some x.name)
    (h : (listed xs).size = xs.length) : Apart xs := by
  have hkept : (kept xs).size = xs.length :=
    Nat.le_antisymm (size_kept_le xs) (h ▸ size_listed_le xs)
  have hkeys : xs.Pairwise fun x y => (x.key == y.key) = false := by
    have hdistinct := Dict.size_ofList_eq_iff.1 (hkept.trans (List.length_map _).symm)
    exact List.pairwise_map.1 hdistinct
  refine ⟨?_, hkeys⟩
  have hnamed := named_eq hname hkeys
  have hdistinct : (named xs).Pairwise fun a b => (a.1 == b.1) = false := by
    refine Dict.size_ofList_eq_iff.1 (h.trans ?_)
    rw [hnamed, List.length_map]
  rw [hnamed] at hdistinct
  exact List.pairwise_map.2 ((List.pairwise_map.1 hdistinct).imp ne_of_beq_false)

theorem keys_listed_subset (hname : ∀ x ∈ xs, x.key.text? = some x.name) :
    (listed xs).keys ⊆ xs.map (·.name) := by
  intro n hn
  obtain ⟨e, he, rfl⟩ := List.mem_map.1 hn
  have hnamed : e.1 ∈ (named xs).map (·.1) := Dict.key_mem_putAll he
  rw [named, List.map_map] at hnamed
  obtain ⟨kv, hkv, hkey⟩ := List.mem_map.1 hnamed
  have hkept : kv.1 ∈ (xs.map fun x => (x.key, x.tests)).map (·.1) := Dict.key_mem_putAll hkv
  rw [List.map_map] at hkept
  obtain ⟨x, hx, hk⟩ := List.mem_map.1 hkept
  refine List.mem_map.2 ⟨x, hx, ?_⟩
  have htext : kv.1.text? = some x.name := hk ▸ hname x hx
  rw [← hkey, Function.comp_apply, htext, Option.getD_some]

namespace Sound

/-- An entry called `meqa_init` is never lost, and there is one at most. -/
theorem countP_init (h : Sound xs) :
    (listed xs).entries.countP (·.1 == initName) =
      (xs.map Entry.said).countP (·.1 == initName) := by
  have hlisted : (listed xs).entries.countP (·.1 == initName) =
      (listed xs).keys.count initName := by
    rw [Dict.keys, List.count, List.countP_map]
    rfl
  have hsaid : (xs.map Entry.said).countP (·.1 == initName) =
      (xs.map (·.name)).count initName := by
    rw [List.count, List.countP_map, List.countP_map]
    rfl
  have hle : (xs.map (·.name)).count initName ≤ 1 := calc
    (xs.map (·.name)).count initName = xs.countP (·.name == initName) := by
      rw [List.count, List.countP_map]
      rfl
    _ ≤ xs.countP (·.raw == initName) := List.countP_mono_left fun x hx hinit => by
      simpa using h.inits x hx (by simpa using hinit)
    _ = (xs.map (·.raw)).count initName := by
      rw [List.count, List.countP_map]
      rfl
    _ ≤ 1 := List.nodup_iff_count_le_one.1 h.texts _
  rw [hlisted, hsaid]
  by_cases hin : initName ∈ xs.map (·.name)
  · have hmem : initName ∈ (listed xs).keys := by
      obtain ⟨k, hk, hsame⟩ := Dict.exists_key_putAll .empty (init_mem_named h.names hin)
      rcases hsame with rfl | hsame
      · exact hk
      · exact eq_of_beq hsame ▸ hk
    have hone := List.count_pos_iff.2 hin
    rw [List.count_eq_one_of_mem (Dict.nodup_keys _) hmem]
    omega
  · have hout : initName ∉ (listed xs).keys := fun hmem => hin (keys_listed_subset h.names hmem)
    rw [List.count_eq_zero_of_not_mem hin, List.count_eq_zero_of_not_mem hout]

theorem countP_suites (h : Sound xs) :
    (listed xs).entries.countP (·.1 != initName) + xs.length =
      (xs.map Entry.said).countP (·.1 != initName) + (listed xs).size := by
  have hsplit (es : List (String × List Test)) :
      es.length = es.countP (·.1 == initName) + es.countP (·.1 != initName) := by
    rw [List.length_eq_countP_add_countP (·.1 == initName)]
    congr 2
    funext e
    by_cases hinit : e.1 = initName <;> simp [hinit]
  have hlisted := hsplit (listed xs).entries
  have hsaid := hsplit (xs.map Entry.said)
  rw [h.countP_init] at hlisted
  rw [List.length_map] at hsaid
  rw [Dict.size]
  omega

theorem countP_suites_le (h : Sound xs) :
    (listed xs).entries.countP (·.1 != initName) ≤
      (xs.map Entry.said).countP (·.1 != initName) := by
  have hcount := h.countP_suites
  have hle := Nat.le_trans (size_listed_le xs) (size_kept_le xs)
  omega

theorem apart (h : Sound xs)
    (hcount : (listed xs).entries.countP (·.1 != initName) =
      (xs.map Entry.said).countP (·.1 != initName)) : Apart xs := by
  have hall := h.countP_suites
  exact apart_of_size h.names (by omega)

end Sound

/-- If there are as many suites as the chunks want together, no chunk has lost one. -/
theorem apart_of_countP {xss : List (List Entry)} (h : ∀ xs ∈ xss, Sound xs)
    (hcount : (xss.flatMap fun xs => (listed xs).entries).countP (·.1 != initName) =
      (xss.flatMap fun xs => xs.map Entry.said).countP (·.1 != initName)) :
    ∀ xs ∈ xss, Apart xs := by
  have hle {yss : List (List Entry)} (h : ∀ xs ∈ yss, Sound xs) :
      (yss.flatMap fun xs => (listed xs).entries).countP (·.1 != initName) ≤
        (yss.flatMap fun xs => xs.map Entry.said).countP (·.1 != initName) := by
    induction yss with
    | nil => exact Nat.le_refl _
    | cons xs yss ih =>
      obtain ⟨hxs, hyss⟩ := List.forall_mem_cons.1 h
      rw [List.flatMap_cons, List.flatMap_cons, List.countP_append, List.countP_append]
      exact Nat.add_le_add hxs.countP_suites_le (ih hyss)
  induction xss with
  | nil => exact List.forall_mem_nil _
  | cons xs xss ih =>
    obtain ⟨hxs, hxss⟩ := List.forall_mem_cons.1 h
    rw [List.flatMap_cons, List.flatMap_cons, List.countP_append, List.countP_append] at hcount
    have hone := hxs.countP_suites_le
    have hrest := hle hxss
    exact List.forall_mem_cons.2 ⟨hxs.apart (by omega), ih hxss (by omega)⟩

theorem decodesTo_of_run {suites : Dict String (List Test)}
    (h : ∀ ns, (decodeSuites chunk 0).run ns = (.ok suites, ns)) : DecodesTo chunk suites :=
  decodeSuites_eq (h [])

namespace Holds

theorem names (h : Holds chunk xs) : ∀ x ∈ xs, x.key.text? = some x.name := by
  cases h with
  | blank | null => exact List.forall_mem_nil _
  | entries _ hxs => exact Entry.Of.names hxs

theorem inits (h : Holds chunk xs) : ∀ x ∈ xs, x.name = initName → x.raw = initName := by
  cases h with
  | blank | null => exact List.forall_mem_nil _
  | entries _ hxs => exact Entry.Of.inits hxs

theorem decodesTo (h : Holds chunk xs) (htexts : (xs.map (·.raw)).Nodup) :
    DecodesTo chunk (listed xs) := by
  cases h with
  | blank h =>
    refine decodesTo_of_run fun ns => ?_
    rw [decodeSuites, decode, h]
    rfl
  | null h =>
    refine decodesTo_of_run fun ns => ?_
    rw [decodeSuites, decode, h]
    rfl
  | entries h hxs =>
    have hraw := (repeatedKey?_eq_none_iff hxs []).2 ⟨htexts, by simp⟩
    obtain ⟨kvs, hbuild, hkvs⟩ := ofNode_entries hxs
    exact decodesTo_of_run (run_decodeSuites h hraw hbuild (names_named (Entry.Of.names hxs) hkvs))

theorem texts (h : Holds chunk xs) {suites : Dict String (List Test)}
    (hdecode : DecodesTo chunk suites) : (xs.map (·.raw)).Nodup := by
  cases h with
  | blank | null => exact List.nodup_nil
  | @entries es _ h hxs =>
    cases hraw : repeatedKey? [] es with
    | none => exact ((repeatedKey?_eq_none_iff hxs []).1 hraw).1
    | some raw =>
      have hrun := @run_decodeSuites_repeated chunk 0 _ _ h hraw []
      rw [hdecode 0] at hrun
      cases hrun

theorem sound (h : Holds chunk xs) {suites : Dict String (List Test)}
    (hdecode : DecodesTo chunk suites) : Sound xs :=
  ⟨h.names, h.texts hdecode, h.inits⟩

theorem listed_eq (h : Holds chunk xs) {es : List (String × List Test)} (hlists : Lists chunk es) :
    es = (listed xs).entries := by
  obtain ⟨suites, hdecode, rfl⟩ := hlists
  rw [hdecode.unique (h.decodesTo (h.texts hdecode))]

end Holds

section Chunks

variable {o : Plan.Options} {p q : Plan} {es : List (String × List Test)} {chunks : List String}

theorem lists_eq {lists : List (List (String × List Test))} {xss : List (List Entry)}
    (hlists : List.Forall₂ Lists chunks lists) (hholds : List.Forall₂ Holds chunks xss) :
    lists.flatten = (xss.flatMap fun xs => (listed xs).entries) ∧ ∀ xs ∈ xss, Sound xs := by
  induction hlists generalizing xss with
  | nil =>
    cases hholds
    exact ⟨rfl, List.forall_mem_nil _⟩
  | cons hone hrest ih =>
    cases hholds with
    | cons hxs hxss =>
      obtain ⟨hflat, hsound⟩ := ih hxss
      have hlisted := hxs.listed_eq hone
      obtain ⟨suites, hdecode, -⟩ := hone
      rw [List.flatten_cons, List.flatMap_cons, hflat, hlisted]
      exact ⟨rfl, List.forall_mem_cons.2 ⟨hxs.sound hdecode, hsound⟩⟩

/-- The plan of a file is what its entries say exactly if those of each chunk are told apart. -/
theorem loaded_iff_apart {lists : List (List (String × List Test))} {xss : List (List Entry)}
    (hlists : List.Forall₂ Lists chunks lists) (hp : Loaded o lists.flatten p)
    (hholds : List.Forall₂ Holds chunks xss) :
    Loaded o (xss.flatten.map Entry.said) p ↔ ∀ xs ∈ xss, Apart xs := by
  obtain ⟨hflat, hsound⟩ := lists_eq hlists hholds
  rw [hflat] at hp
  have hsaid : xss.flatten.map Entry.said = xss.flatMap fun xs => xs.map Entry.said := by
    rw [List.map_flatten, List.flatMap_def]
  rw [hsaid]
  constructor
  · intro hq
    refine apart_of_countP hsound ?_
    rw [← length_suitesAfter o.auth [], ← hp.values, hq.values, length_suitesAfter]
  · intro hapart
    have heq : (xss.flatMap fun xs => (listed xs).entries) =
        xss.flatMap fun xs => xs.map Entry.said :=
      List.flatMap_congr fun xs hxs => listed_of_apart (hsound xs hxs).names (hapart xs hxs)
    rwa [heq] at hp

theorem takes_of_new {suites : Dict String (List Test)} (hdecode : DecodesTo chunk suites)
    (hnew : ∀ n ∈ suites.keys, n ≠ initName → n ∉ p.suiteNames) : ∃ q, Takes chunk p q := by
  obtain ⟨q, hrun, -⟩ := run_registerAll ⟨p, []⟩ (Dict.nodup_keys suites) hnew
  obtain ⟨r, hreg, -⟩ := run_registerAll_eq_ok.1 hrun
  refine ⟨r, suites, hdecode, List.find?_eq_none.2 fun n hn htaken => ?_, hreg⟩
  rw [Bool.and_eq_true, bne_iff_ne, Registry.contains_iff] at htaken
  exact hnew n hn htaken.1 htaken.2

theorem Apart.of_append {xs ys : List Entry} (h : Apart (xs ++ ys)) :
    Apart xs ∧ Apart ys ∧ ∀ x ∈ xs, ∀ y ∈ ys, x.name ≠ y.name := by
  obtain ⟨hnames, hkeys⟩ := h
  rw [List.map_append, List.nodup_append] at hnames
  obtain ⟨hleft, hright, -⟩ := List.pairwise_append.1 hkeys
  refine ⟨⟨hnames.1, hleft⟩, ⟨hnames.2.1, hright⟩, fun x hx y hy => ?_⟩
  exact hnames.2.2 _ (List.mem_map_of_mem hx) _ (List.mem_map_of_mem hy)

theorem Loaded.takes_apart (h : Loaded o es p) (ht : Takes chunk p q) (hc : Holds chunk xs)
    (hapart : Apart xs) : Loaded o (es ++ xs.map Entry.said) q := by
  obtain ⟨listed, hlists, hq⟩ := h.takes ht
  rwa [hc.listed_eq hlists, listed_of_apart hc.names hapart] at hq

/-- Where all entries of a chunk are told apart, it may be cut between any two. -/
theorem Loaded.takes_cut {c c₁ c₂ : String} {xs ys : List Entry} (h : Loaded o es p)
    (ht : Takes c p q) (hc : Holds c (xs ++ ys)) (hapart : Apart (xs ++ ys)) (hxs : Holds c₁ xs)
    (hys : Holds c₂ ys) : ∃ r, Takes c₁ p r ∧ Takes c₂ r q := by
  obtain ⟨hx, hy, hne⟩ := hapart.of_append
  have hq := h.takes_apart ht hc hapart
  obtain ⟨suites, hdecode, htaken, -⟩ := ht
  have htexts := hc.texts hdecode
  rw [List.map_append, List.nodup_append] at htexts
  have hnew : ∀ n ∈ (xs ++ ys).map (·.name), n ≠ initName → n ∉ p.suiteNames := by
    have hkeys : suites.keys = (xs ++ ys).map (·.name) := by
      rw [Dict.keys, hc.listed_eq ⟨suites, hdecode, rfl⟩, listed_of_apart hc.names hapart,
        List.map_map]
      rfl
    exact hkeys ▸ takenName?_eq_none htaken
  rw [List.map_append] at hnew
  obtain ⟨r, hr⟩ := takes_of_new (p := p) (hxs.decodesTo htexts.1) fun n hn =>
    hnew n (List.mem_append_left _ (keys_listed_subset hxs.names hn))
  have hloaded := h.takes_apart hr hxs hx
  obtain ⟨q', hq'⟩ := takes_of_new (p := r) (hys.decodesTo htexts.2.1) fun n hn hinit hmem => by
    have hn := keys_listed_subset hys.names hn
    rw [hloaded.names, List.map_append, List.filter_append, ← h.names] at hmem
    rcases List.mem_append.1 hmem with hold | hmem
    · exact hnew n (List.mem_append_right _ hn) hinit hold
    · obtain ⟨y, hy, rfl⟩ := List.mem_map.1 hn
      obtain ⟨e, he, hname⟩ := List.mem_map.1 (List.mem_filter.1 hmem).1
      obtain ⟨x, hx, rfl⟩ := List.mem_map.1 he
      exact hne x hx y hy hname
  have hcut := hloaded.takes_apart hq' hys hy
  rw [List.append_assoc, ← List.map_append] at hcut
  exact ⟨r, hr, hq.unique hcut ▸ hq'⟩

end Chunks

/-- Defaults act in the order of the file and never backwards. Chunks that load come to the entries
that they list one after the other: each entry but `meqa_init` is a suite, with the arguments and
the strictness of the entries called `meqa_init` that stand before it. What is loaded after that
leaves these suites as they are. These are the entries as they are written exactly if those of each
chunk are told apart, and such a chunk may be cut between any two of its entries. -/
theorem declares_in_order {o : Plan.Options} {ns : List Notice} {chunks : List String} {index : Int}
    {s : Intake} (hload : (takeChunks chunks index).run ⟨.ofOptions o, ns⟩ = (.ok (), s)) :
    (∃ lists, List.Forall₂ Lists chunks lists ∧ Loaded o lists.flatten s.plan) ∧
      (∀ xss, List.Forall₂ Holds chunks xss →
        (Loaded o (xss.flatten.map Entry.said) s.plan ↔ ∀ xs ∈ xss, Apart xs)) ∧
      (∀ later j, s.plan.suites.entries <+:
        ((takeChunks later j).run s).2.plan.suites.entries) ∧
      ∀ before c after c₁ c₂ xs ys, chunks = before ++ c :: after → Holds c (xs ++ ys) →
        Apart (xs ++ ys) → Holds c₁ xs → Holds c₂ ys →
        (takeChunks (before ++ c₁ :: c₂ :: after) index).run ⟨.ofOptions o, ns⟩ = (.ok (), s) := by
  obtain ⟨q, hall, rfl⟩ := run_takeChunks_eq_ok.1 hload
  obtain ⟨lists, hlists, hq⟩ := (Loaded.ofOptions o).takesAll hall
  rw [List.nil_append] at hq
  refine ⟨⟨lists, hlists, hq⟩, fun xss => loaded_iff_apart hlists hq, fun later j => ?_, ?_⟩
  · obtain ⟨more, hmore⟩ := @Loaded.takeChunks _ _ j later ⟨q, ns⟩ hq
    exact hq.isPrefix hmore
  · rintro before c after c₁ c₂ xs ys rfl hc hapart hxs hys
    obtain ⟨p, hbefore, hrest⟩ := takesAll_append_iff.1 hall
    obtain ⟨earlier, -, hp⟩ := (Loaded.ofOptions o).takesAll hbefore
    cases hrest with
    | cons hone hafter =>
      obtain ⟨r, hr, hr'⟩ := hp.takes_cut hone hc hapart hxs hys
      exact run_takeChunks_eq_ok.2
        ⟨q, takesAll_append_iff.2 ⟨p, hbefore, .cons hr (.cons hr' hafter)⟩, rfl⟩

def strictNode : Node :=
  .sequence .seq [.mapping .map [(.scalar .str "name", .scalar .str "c"),
    (.scalar .str "strict", .scalar .bool "true")]]

def strictStep : Test := { Test.empty with name := "c", strict := true }

theorem checkTests_strictStep :
    checkTests [.map [(.str "name", .str "c"), (.str "strict", .bool true)]] =
      .ok [strictStep] := by
  have htest : Check.test (.map [(.str "name", .str "c"), (.str "strict", .bool true)]) =
      .ok strictStep := by
    simp [strictStep, Check.test, Check.field, Check.field?, Value.field?_cons, Value.field?_nil,
      Check.text, Check.flag, Test.declaredParams, Test.inlineSlots, Check.params, Test.empty,
      Params.empty, Auth.none]
  rw [checkTests, htest]
  rfl

theorem entryOf_onlyStep {tag : Yaml.Tag} {raw name step : String} {key : Value}
    (htag : tag ≠ .merge)
    (hkey : Yaml.Construct.ofNode (Yaml.Construct.keyNode (.scalar tag raw)) = .ok key)
    (hname : key.text? = some name) :
    Entry.Of (.scalar tag raw, onlyStep step)
      ⟨raw, key, name, [{ Test.empty with name := step }]⟩ :=
  ⟨⟨tag, rfl, htag⟩, hkey, hname, _, _, rfl, rfl, checkTests_onlyStep step⟩

theorem entryOf_strictStep : Entry.Of (.scalar .str initName, strictNode)
    ⟨initName, .str initName, initName, [strictStep]⟩ := by
  have hstep : Yaml.Construct.ofNode strictNode =
      .ok (.list [.map [(.str "name", .str "c"), (.str "strict", .bool true)]]) := by
    refine Yaml.Construct.ofNode_sequence (.cons ?_ .nil)
    exact @Yaml.Construct.ofNode_texts [("name", .scalar .str "c"), ("strict", .scalar .bool "true")]
      [("name", .str "c"), ("strict", .bool true)] (by decide)
      (.cons ⟨rfl, rfl⟩ (.cons ⟨rfl, rfl⟩ .nil))
  exact ⟨⟨.str, rfl, by decide⟩, rfl, rfl, _, _, hstep, rfl, checkTests_strictStep⟩

/-- Two suites of one name, and defaults between them. -/
def sixteen : String :=
  "0x10:\n- {name: a}\nmeqa_init:\n- {name: c, strict: true}\n\"16\":\n- {name: b}\n"

def sixteenEntries : List Entry :=
  [⟨"0x10", .int 16, "16", [{ Test.empty with name := "a" }]⟩,
    ⟨initName, .str initName, initName, [strictStep]⟩,
    ⟨"16", .str "16", "16", [{ Test.empty with name := "b" }]⟩]

theorem sixteen_holds : Holds sixteen sixteenEntries := by
  have hread : Node.ofText sixteen.toList = .ok (some (.mapping .map
      [(.scalar .int "0x10", onlyStep "a"), (.scalar .str initName, strictNode),
        (.scalar .str "16", onlyStep "b")])) := by
    decide +kernel
  exact .entries hread (.cons (entryOf_onlyStep (by decide) rfl rfl)
    (.cons entryOf_strictStep (.cons (entryOf_onlyStep (by decide) rfl rfl) .nil)))

theorem sixteen_loads :
    ∃ s, (takeChunks [sixteen] 0).run ⟨.ofOptions .default, []⟩ = (.ok (), s) := by
  obtain ⟨q, hq⟩ := takes_of_new (p := .ofOptions .default)
    (sixteen_holds.decodesTo (by decide)) fun n _ _ => List.not_mem_nil
  exact ⟨_, run_takeChunks_eq_ok.2 ⟨q, .cons hq (.nil q), rfl⟩⟩

/-- Entries of one name come to one suite, which has the steps of the last of them and the defaults
of the first. -/
theorem declares_out_of_order :
    ¬ ∀ (o : Plan.Options) (ns : List Notice) (chunks : List String) (index : Int) (s : Intake)
      (xss : List (List Entry)), (takeChunks chunks index).run ⟨.ofOptions o, ns⟩ = (.ok (), s) →
        List.Forall₂ Holds chunks xss →
          s.plan.suites.values = suitesAfter o.auth [] (xss.flatten.map Entry.said) := by
  intro h
  obtain ⟨s, hload⟩ := sixteen_loads
  have hholds : List.Forall₂ Holds [sixteen] [sixteenEntries] := .cons sixteen_holds .nil
  obtain ⟨q, hall, rfl⟩ := run_takeChunks_eq_ok.1 hload
  obtain ⟨lists, hlists, hq⟩ := (Loaded.ofOptions .default).takesAll hall
  have hsame : q.suites.values =
      suitesAfter Auth.none [] ([sixteenEntries].flatten.map Entry.said) :=
    h _ _ _ _ _ _ hload hholds
  -- three entries, of which the names of two are equal
  have hone : ([sixteenEntries].flatMap fun xs => (listed xs).entries).countP
      (·.1 != initName) = 1 := by
    decide +kernel
  have hvalues : q.suites.values.length = 1 := by
    rw [hq.values, List.nil_append, (lists_eq hlists hholds).1, length_suitesAfter, hone]
  rw [hsame, length_suitesAfter] at hvalues
  exact absurd hvalues (by decide +kernel)

def earlyChunk : String := "early:\n- {name: a}\n"

def initChunk : String := "meqa_init:\n- {name: c, strict: true}\n"

def lateChunk : String := "late:\n- {name: b}\n"

def lateEntries : List Entry :=
  [⟨initName, .str initName, initName, [strictStep]⟩,
    ⟨"late", .str "late", "late", [{ Test.empty with name := "b" }]⟩]

def earlyEntries : List Entry :=
  [⟨"early", .str "early", "early", [{ Test.empty with name := "a" }]⟩]

theorem earlyChunk_holds : Holds earlyChunk earlyEntries := by
  have hread : Node.ofText earlyChunk.toList =
      .ok (some (.mapping .map [(.scalar .str "early", onlyStep "a")])) := by
    decide +kernel
  exact .entries hread (.cons (entryOf_onlyStep (by decide) rfl rfl) .nil)

theorem initChunk_holds : Holds initChunk (lateEntries.take 1) := by
  have hread : Node.ofText initChunk.toList =
      .ok (some (.mapping .map [(.scalar .str initName, strictNode)])) := by
    decide +kernel
  exact .entries hread (.cons entryOf_strictStep .nil)

theorem lateChunk_holds : Holds lateChunk (lateEntries.drop 1) := by
  have hread : Node.ofText lateChunk.toList =
      .ok (some (.mapping .map [(.scalar .str "late", onlyStep "b")])) := by
    decide +kernel
  exact .entries hread (.cons (entryOf_onlyStep (by decide) rfl rfl) .nil)

theorem initLateChunk_holds : Holds (initChunk ++ lateChunk) lateEntries := by
  have hread : Node.ofText (initChunk ++ lateChunk).toList = .ok (some (.mapping .map
      [(.scalar .str initName, strictNode), (.scalar .str "late", onlyStep "b")])) := by
    decide +kernel
  exact .entries hread
    (.cons entryOf_strictStep (.cons (entryOf_onlyStep (by decide) rfl rfl) .nil))

/-- A suite before the defaults, one behind them, and the chunk of the two cut behind them. -/
theorem declares_in_order_late :
    ∃ s, (takeChunks [earlyChunk, initChunk ++ lateChunk] 0).run ⟨.ofOptions .default, []⟩ =
        (.ok (), s) ∧
      s.plan.suites.values.map (fun u => (u.name, u.strict)) = [("early", false), ("late", true)] ∧
      (takeChunks [earlyChunk, initChunk, lateChunk] 0).run ⟨.ofOptions .default, []⟩ =
        (.ok (), s) := by
  have hearly : Apart earlyEntries := ⟨by decide, by decide +kernel⟩
  have hlate : Apart lateEntries := ⟨by decide, by decide +kernel⟩
  obtain ⟨p, hp⟩ := takes_of_new (p := .ofOptions .default)
    (earlyChunk_holds.decodesTo (by decide)) fun n _ _ => List.not_mem_nil
  have hpEarly := (Loaded.ofOptions .default).takes_apart hp earlyChunk_holds hearly
  have hnew : ∀ n ∈ lateEntries.map (·.name), n ∉ p.suiteNames := by
    rw [hpEarly.names]
    decide
  obtain ⟨q, hq⟩ := takes_of_new (p := p) (initLateChunk_holds.decodesTo (by decide)) fun n hn _ =>
    hnew n (keys_listed_subset initLateChunk_holds.names hn)
  have hload := (@run_takeChunks_eq_ok 0 _ ⟨.ofOptions .default, []⟩ _).2
    ⟨q, .cons hp (.cons hq (.nil q)), rfl⟩
  obtain ⟨-, hentries, -, hcut⟩ := declares_in_order hload
  have hloaded := (hentries [earlyEntries, lateEntries]
    (.cons earlyChunk_holds (.cons initLateChunk_holds .nil))).2
    (by simp only [List.forall_mem_cons]; exact ⟨hearly, hlate, List.forall_mem_nil _⟩)
  refine ⟨_, hload, ?_, ?_⟩
  · rw [hloaded.values]
    decide
  · exact hcut [earlyChunk] _ [] initChunk lateChunk (lateEntries.take 1) (lateEntries.drop 1) rfl
      initLateChunk_holds hlate initChunk_holds lateChunk_holds

end PlanFile

end Runbook
