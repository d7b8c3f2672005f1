import Runbook.Proofs.PlanFile.Taking
import Runbook.Proofs.Test
import Runbook.Proofs.Yaml.Construct
import Runbook.Proofs.Yaml.Node
import Mathlib.Data.List.Perm.Subperm

namespace Runbook

namespace PlanFile

open Yaml (Node)

/-- What an entry at the top of a chunk says: the text of its key, the key, the name of the suite
and its steps. -/
structure Entry where
  raw : String
  key : Value
  name : String
  tests : List Test

/-- A pair of nodes, of which the first one is a scalar and no merge key, is an entry that lists
valid steps. -/
structure Entry.Of (e : Node × Node) (x : Entry) : Prop where
  raw : ∃ tag, e.1 = .scalar tag x.raw ∧ tag ≠ .merge
  key : Yaml.Construct.ofNode (Yaml.Construct.keyNode e.1) = .ok x.key
  name : x.key.text? = some x.name
  tests : ∃ v vs, Yaml.Construct.ofNode e.2 = .ok v ∧ listed? v = some vs ∧
    checkTests vs = .ok x.tests

/-- The entries that are there when the chunk is read: of equal keys the first one, with the steps
of the last one. -/
def kept (xs : List Entry) : Dict Value (List Test) :=
  Dict.ofList (xs.map fun x => (x.key, x.tests))

def named (xs : List Entry) : List (String × List Test) :=
  (kept xs).entries.map fun e => (e.1.text?.getD "", e.2)

variable {chunk : String} {index : Int} {es : List (Node × Node)} {xs : List Entry}

theorem repeatedKey?_eq_none_iff (h : List.Forall₂ Entry.Of es xs) (seen : List String) :
    repeatedKey? seen es = none ↔
      (xs.map (·.raw)).Nodup ∧ ∀ x ∈ xs, x.raw ∉ seen := by
  induction h generalizing seen with
  | nil => simp [repeatedKey?]
  | @cons e x es xs he hes ih =>
    obtain ⟨tag, hk, -⟩ := he.raw
    obtain ⟨k, v⟩ := e
    obtain rfl : k = .scalar tag x.raw := hk
    rw [repeatedKey?]
    by_cases hseen : x.raw ∈ seen
    · simp [hseen]
    · rw [if_neg (by simpa using hseen), ih, List.map_cons, List.nodup_cons, List.forall_mem_cons]
      constructor
      · rintro ⟨hnodup, hnew⟩
        refine ⟨⟨fun hmem => ?_, hnodup⟩, hseen, fun y hy hin => ?_⟩
        · obtain ⟨y, hy, hxy⟩ := List.mem_map.1 hmem
          exact hnew y hy (hxy ▸ List.mem_cons_self)
        · exact hnew y hy (List.mem_cons_of_mem _ hin)
      · rintro ⟨⟨hx, hnodup⟩, -, hnew⟩
        refine ⟨hnodup, fun y hy hin => ?_⟩
        rcases List.mem_cons.1 hin with hxy | hin
        · exact hx (hxy ▸ List.mem_map_of_mem hy)
        · exact hnew y hy hin

/-- The text of a key that is refused stands above it already. -/
theorem repeatedKey?_eq_some (h : List.Forall₂ Entry.Of es xs) {seen : List String} {raw : String}
    (hraw : repeatedKey? seen es = some raw) :
    ∃ before x after, xs = before ++ x :: after ∧ x.raw = raw ∧
      (raw ∈ seen ∨ raw ∈ before.map (·.raw)) := by
  induction h generalizing seen with
  | nil => cases hraw
  | @cons e x es xs he hes ih =>
    obtain ⟨tag, hk, -⟩ := he.raw
    obtain ⟨k, v⟩ := e
    obtain rfl : k = .scalar tag x.raw := hk
    rw [repeatedKey?] at hraw
    by_cases hseen : x.raw ∈ seen
    · rw [if_pos (by simpa using hseen)] at hraw
      cases hraw
      exact ⟨[], x, xs, rfl, rfl, .inl hseen⟩
    · rw [if_neg (by simpa using hseen)] at hraw
      obtain ⟨before, y, after, rfl, hy, hin⟩ := ih hraw
      refine ⟨x :: before, y, after, rfl, hy, ?_⟩
      rcases hin with hin | hin
      · rcases List.mem_cons.1 hin with rfl | hin
        · exact .inr List.mem_cons_self
        · exact .inl hin
      · exact .inr (List.mem_cons_of_mem _ hin)

theorem run_suitesOf {es : List (Value × Value)} {named : List (String × List Test)}
    (h : List.Forall₂ Names es named) (d : Dict String (List Test)) (ns : List Notice) :
    (suitesOf chunk index es d).run ns = (.ok (d.putAll named), ns) := by
  induction h generalizing d with
  | nil => rfl
  | @cons e x es xs he hes ih =>
    obtain ⟨vs, hlist, hcheck⟩ := he.tests
    have htests : suiteTests chunk index e.1 e.2 = pure x.2 := by
      rw [suiteTests, hlist]
      dsimp only
      rw [hcheck]
    have hsuites : suitesOf chunk index (e :: es) d = suitesOf chunk index es (d.put x.1 x.2) := by
      rw [suitesOf, htests, he.name]
      rfl
    rw [hsuites, ih]
    rfl

theorem run_decode {n : Node} {v : Value} (hread : Node.ofText chunk.toList = .ok (some n))
    (hname : repeatedName? (some n) = none) (hbuild : Yaml.Construct.ofNode n = .ok v) :
    decode chunk index = pure v := by
  unfold decode
  rw [hread]
  simp only [hname, hbuild]

theorem run_decodeSuites {n : Node} {es : List (Value × Value)} {named : List (String × List Test)}
    (hread : Node.ofText chunk.toList = .ok (some n)) (hname : repeatedName? (some n) = none)
    (hbuild : Yaml.Construct.ofNode n = .ok (.map es)) (h : List.Forall₂ Names es named)
    (ns : List Notice) :
    (decodeSuites chunk index).run ns = (.ok (Dict.ofList named), ns) := by
  rw [decodeSuites, run_decode hread hname hbuild, pure_bind]
  exact run_suitesOf h .empty ns

theorem names_named {kvs : List (Value × Value)} (hname : ∀ x ∈ xs, x.key.text? = some x.name)
    (h : List.Forall₂ (fun kv x => kv.1 = x.key ∧
      ∃ vs, listed? kv.2 = some vs ∧ checkTests vs = .ok x.tests) kvs xs) :
    List.Forall₂ Names (Dict.ofList kvs).entries (named xs) := by
  have hsame : List.Forall₂ (fun kv x => kv.1 = x.1 ∧
      ∃ vs, listed? kv.2 = some vs ∧ checkTests vs = .ok x.2)
      kvs (xs.map fun x => (x.key, x.tests)) := by
    rw [List.forall₂_map_right_iff]
    exact h
  have hkept : List.Forall₂ (fun kv x => kv.1 = x.1 ∧
      ∃ vs, listed? kv.2 = some vs ∧ checkTests vs = .ok x.2)
      (Dict.ofList kvs).entries (kept xs).entries := by
    refine Dict.forall₂_putAll (R := fun v ts => ∃ vs, listed? v = some vs ∧ checkTests vs = .ok ts)
      hsame .nil
  have hkeys : kvs.map (·.1) = xs.map (·.key) := by
    rw [← List.forall₂_eq_eq_eq, List.forall₂_map_left_iff, List.forall₂_map_right_iff]
    exact h.imp fun _ _ hx => hx.1
  have htext : ∀ e ∈ (Dict.ofList kvs).entries, ∃ n, e.1.text? = some n := by
    intro e he
    have hmem : e.1 ∈ kvs.map (·.1) := Dict.key_mem_putAll he
    rw [hkeys] at hmem
    obtain ⟨x, hx, hk⟩ := List.mem_map.1 hmem
    exact ⟨x.name, hk ▸ hname x hx⟩
  rw [named, List.forall₂_map_right_iff]
  have hboth := (List.forall₂_and_left _ _).2 ⟨htext, hkept⟩
  refine hboth.imp fun e x hex => ?_
  obtain ⟨⟨n, hn⟩, hk, htests⟩ := hex
  refine ⟨?_, htests⟩
  rw [← hk, hn]
  rfl

/-- What taking in a chunk with these entries comes to. -/
inductive Settles (s : Intake) (index : Int) (xs : List Entry) :
    Except Fault Unit × Intake → Prop where
  /-- The text of a key stands twice. -/
  | repeated {before after : List Entry} {x : Entry} (hxs : xs = before ++ x :: after)
      (hx : x.raw ∈ before.map (·.raw)) :
      Settles s index xs (.error (.duplicateSuite x.raw),
        { s with notices := s.notices ++ [.duplicateInChunk index] })
  | declared {name : String} (hraw : (xs.map (·.raw)).Nodup)
      (hname : name ∈ (Dict.ofList (named xs)).keys) (hinit : name ≠ initName)
      (hdeclared : name ∈ s.plan.suiteNames) :
      Settles s index xs (.error (.duplicateSuite name),
        { s with notices := s.notices ++ [.duplicateSuite name index] })
  | whole {p : Plan} (hraw : (xs.map (·.raw)).Nodup)
      (hnew : ∀ n ∈ (Dict.ofList (named xs)).keys, n ≠ initName → n ∉ s.plan.suiteNames)
      (hp : Registers s.plan (Dict.ofList (named xs)).entries p) :
      Settles s index xs (.ok (), { s with plan := p })

theorem Entry.Of.not_merge (h : List.Forall₂ Entry.Of es xs) :
    ∀ e ∈ es, ∀ text, e.1 ≠ .scalar .merge text := by
  induction h with
  | nil => exact List.forall_mem_nil _
  | @cons e x es xs he hes ih =>
    refine List.forall_mem_cons.2 ⟨fun text hk => ?_, ih⟩
    obtain ⟨tag, hscalar, hmerge⟩ := he.raw
    rw [hk] at hscalar
    cases hscalar
    exact hmerge rfl

theorem Entry.Of.names (h : List.Forall₂ Entry.Of es xs) :
    ∀ x ∈ xs, x.key.text? = some x.name := by
  induction h with
  | nil => exact List.forall_mem_nil _
  | cons he hes ih => exact List.forall_mem_cons.2 ⟨he.name, ih⟩

theorem Entry.Of.scalar_key {e : Node × Node} {x : Entry} (h : Entry.Of e x) :
    ∃ tag, Yaml.Construct.ofNode (.scalar tag x.raw) = .ok x.key := by
  obtain ⟨tag, hk, -⟩ := h.raw
  have hscalar : ∃ t, Yaml.Construct.keyNode e.1 = .scalar t x.raw := by
    rw [hk]
    cases tag <;> exact ⟨_, rfl⟩
  obtain ⟨t, ht⟩ := hscalar
  exact ⟨t, ht ▸ h.key⟩

theorem Entry.Of.isKey {e : Node × Node} {x : Entry} (h : Entry.Of e x) : x.key.isKey = true := by
  obtain ⟨tag, hkey⟩ := h.scalar_key
  exact Yaml.Construct.isKey_of_scalar hkey

theorem ofNode_entries (h : List.Forall₂ Entry.Of es xs) :
    ∃ kvs, Yaml.Construct.ofNode (.mapping .map es) = .ok (.map (Dict.ofList kvs).entries) ∧
      List.Forall₂ (fun kv x => kv.1 = x.key ∧
        ∃ vs, listed? kv.2 = some vs ∧ checkTests vs = .ok x.tests) kvs xs := by
  have hkvs : ∃ kvs : List (Value × Value),
      List.Forall₂ (fun e kv => Yaml.Construct.ofNode (Yaml.Construct.keyNode e.1) = .ok kv.1 ∧
        kv.1.isKey = true ∧ Yaml.Construct.ofNode e.2 = .ok kv.2) es kvs ∧
      List.Forall₂ (fun kv x => kv.1 = x.key ∧
        ∃ vs, listed? kv.2 = some vs ∧ checkTests vs = .ok x.tests) kvs xs := by
    induction h with
    | nil => exact ⟨[], .nil, .nil⟩
    | @cons e x es xs he hes ih =>
      obtain ⟨kvs, hleft, hright⟩ := ih
      obtain ⟨v, vs, hv, hlist, hcheck⟩ := he.tests
      exact ⟨(x.key, v) :: kvs, .cons ⟨he.key, he.isKey, hv⟩ hleft,
        .cons ⟨rfl, vs, hlist, hcheck⟩ hright⟩
  obtain ⟨kvs, hes, hxs⟩ := hkvs
  exact ⟨kvs, Yaml.Construct.ofNode_mapping (Entry.Of.not_merge h) hes, hxs⟩

theorem run_decodeSuites_repeated {n : Node} {name : String}
    (hread : Node.ofText chunk.toList = .ok (some n)) (hname : repeatedName? (some n) = some name)
    (ns : List Notice) :
    (decodeSuites chunk index).run ns =
      (.error (.duplicateSuite name), ns ++ [.duplicateInChunk index]) := by
  rw [decodeSuites, decode, hread]
  simp only [hname]
  rfl

theorem settles (hread : Node.ofText chunk.toList = .ok (some (.mapping .map es)))
    (h : List.Forall₂ Entry.Of es xs) (s : Intake) :
    Settles s index xs ((takeChunk chunk index).run s) := by
  rw [run_takeChunk]
  cases hraw : repeatedKey? [] es with
  | some raw =>
    obtain ⟨before, x, after, hxs, rfl, hseen | hbefore⟩ := repeatedKey?_eq_some h hraw
    · cases hseen
    · rw [run_decodeSuites_repeated hread hraw]
      exact .repeated hxs hbefore
  | none =>
    obtain ⟨hnodup, -⟩ := (repeatedKey?_eq_none_iff h []).1 hraw
    obtain ⟨kvs, hbuild, hkvs⟩ := ofNode_entries h
    have hnames := names_named (Entry.Of.names h) hkvs
    rw [run_decodeSuites hread hraw hbuild hnames]
    dsimp only
    cases htaken : takenName? s.plan (Dict.ofList (named xs)) with
    | some name =>
      obtain ⟨hname, hinit, hdeclared⟩ := takenName?_eq_some htaken
      exact .declared hnodup hname hinit hdeclared
    | none =>
      obtain ⟨p, hreg, hp⟩ :=
        run_registerAll s (Dict.nodup_keys _) (takenName?_eq_none htaken)
      simp only [hreg]
      exact .whole hnodup (takenName?_eq_none htaken) hp

/-- What names that clash would have to come to: a chunk is refused as a duplicate exactly if two of
its entries have one name or one of them has the name of a suite that is there, and otherwise each
entry but `meqa_init` becomes a suite, in order. -/
structure Keeps (xs : List Entry) (s : Intake) (r : Except Fault Unit × Intake) : Prop where
  refused : (∃ n, r.1 = .error (.duplicateSuite n)) ↔
    ¬ (xs.map (·.name)).Nodup ∨ ∃ x ∈ xs, x.name ≠ initName ∧ x.name ∈ s.plan.suiteNames
  taken : (¬ ∃ n, r.1 = .error (.duplicateSuite n)) →
    r.1 = .ok () ∧ Registers s.plan (xs.map fun x => (x.name, x.tests)) r.2.plan

/-- The three ways to compare two keys agree. -/
structure Agree (xs : List Entry) : Prop where
  texts : (xs.map (·.raw)).Nodup ↔ (xs.map (·.name)).Nodup
  keys : (xs.map (·.name)).Nodup → xs.Pairwise fun x y => (x.key == y.key) = false

theorem Agree.of_texts (h : List.Forall₂ Entry.Of es xs) (htext : ∀ x ∈ xs, x.key = .str x.raw) :
    Agree xs := by
  have hname : xs.map (·.name) = xs.map (·.raw) := by
    refine List.map_congr_left fun x hx => ?_
    have hn := Entry.Of.names h x hx
    rw [htext x hx] at hn
    exact (Option.some.inj hn).symm
  refine ⟨by rw [hname], fun hnodup => ?_⟩
  rw [hname] at hnodup
  have hraw : xs.Pairwise fun x y => x.raw ≠ y.raw := List.pairwise_map.1 hnodup
  refine hraw.imp_of_mem fun {x y} hx hy hne => ?_
  rw [htext x hx, htext y hy, str_beq_str]
  exact beq_eq_false_iff_ne.2 hne

/-- Where keys with equal texts are equal, each entry is there and names its suite. -/
theorem named_eq (hname : ∀ x ∈ xs, x.key.text? = some x.name)
    (hkeys : xs.Pairwise fun x y => (x.key == y.key) = false) :
    named xs = xs.map fun x => (x.name, x.tests) := by
  have hentries : (kept xs).entries = xs.map fun x => (x.key, x.tests) :=
    Dict.entries_ofList_of_distinct (List.pairwise_map.2 hkeys)
  rw [named, hentries, List.map_map]
  refine List.map_congr_left fun x hx => ?_
  simp [hname x hx]

theorem entries_named (hnodup : (xs.map (·.name)).Nodup) :
    (Dict.ofList (xs.map fun x => (x.name, x.tests))).entries =
      xs.map fun x => (x.name, x.tests) := by
  refine Dict.entries_ofList_of_distinct (List.pairwise_map.2 ?_)
  exact (List.pairwise_map.1 hnodup).imp beq_eq_false_iff_ne.2

theorem not_nodup_of_repeated {before after : List Entry} {x : Entry}
    (hxs : xs = before ++ x :: after) (hx : x.raw ∈ before.map (·.raw)) :
    ¬ (xs.map (·.raw)).Nodup := by
  rw [hxs, List.map_append, List.map_cons]
  intro hnodup
  exact (List.nodup_append.1 hnodup).2.2 _ hx _ List.mem_cons_self rfl

theorem keeps_of_agree (hname : ∀ x ∈ xs, x.key.text? = some x.name) (hagree : Agree xs)
    {s : Intake} {r : Except Fault Unit × Intake} (h : Settles s index xs r) : Keeps xs s r := by
  have hone (hraw : (xs.map (·.raw)).Nodup) :
      (Dict.ofList (named xs)).entries = xs.map fun x => (x.name, x.tests) := by
    have hnodup := hagree.texts.1 hraw
    rw [named_eq hname (hagree.keys hnodup), entries_named hnodup]
  have hkeys (hraw : (xs.map (·.raw)).Nodup) {n : String} :
      n ∈ (Dict.ofList (named xs)).keys ↔ ∃ x ∈ xs, x.name = n := by
    rw [Dict.keys, hone hraw, List.map_map]
    exact List.mem_map
  cases h with
  | @repeated before after x hxs hx =>
    have hraw := not_nodup_of_repeated hxs hx
    exact ⟨iff_of_true ⟨_, rfl⟩ (.inl fun hnodup => hraw (hagree.texts.2 hnodup)),
      fun hno => (hno ⟨_, rfl⟩).elim⟩
  | @declared name hraw hin hinit hdeclared =>
    obtain ⟨x, hx, rfl⟩ := (hkeys hraw).1 hin
    exact ⟨iff_of_true ⟨_, rfl⟩ (.inr ⟨x, hx, hinit, hdeclared⟩), fun hno => (hno ⟨_, rfl⟩).elim⟩
  | @whole p hraw hnew hp =>
    rw [hone hraw] at hp
    refine ⟨iff_of_false ?_ ?_, fun _ => ⟨rfl, hp⟩⟩
    · rintro ⟨_, h⟩
      cases h
    · rintro (hnodup | ⟨x, hx, hinit, hdeclared⟩)
      · exact hnodup (hagree.texts.1 hraw)
      · exact hnew _ ((hkeys hraw).2 ⟨x, hx, rfl⟩) hinit hdeclared

/-- An entry called `meqa_init` is never taken for another one. -/
theorem init_mem_named (hname : ∀ x ∈ xs, x.key.text? = some x.name)
    (h : initName ∈ xs.map (·.name)) : initName ∈ (named xs).map (·.1) := by
  obtain ⟨x, hx, hinit⟩ := List.mem_map.1 h
  have hkey : x.key = .str initName := Value.eq_init_of_text? (hinit ▸ hname x hx)
  have hmem : Value.str initName ∈ (xs.map fun x => (x.key, x.tests)).map (·.1) := by
    rw [List.map_map]
    exact List.mem_map.2 ⟨x, hx, hkey⟩
  obtain ⟨k, hk, hsame⟩ := Dict.exists_key_putAll .empty hmem
  have hk' : k = .str initName := hsame.elim id Value.eq_str_of_beq
  obtain ⟨e, he, rfl⟩ := List.mem_map.1 hk
  rw [named, List.map_map]
  refine List.mem_map.2 ⟨e, he, ?_⟩
  simp [hk', Value.text?]

theorem names_subset_keys (hname : ∀ x ∈ xs, x.key.text? = some x.name)
    (hnames : (xs.map (·.name)).filter (· != initName) =
      (Dict.ofList (named xs)).keys.filter (· != initName)) :
    xs.map (·.name) ⊆ (Dict.ofList (named xs)).keys := by
  intro n hn
  by_cases hinit : n = initName
  · subst n
    obtain ⟨k, hk, hsame⟩ := Dict.exists_key_putAll .empty (init_mem_named hname hn)
    rcases hsame with rfl | hsame
    · exact hk
    · exact eq_of_beq hsame ▸ hk
  · have hmem : n ∈ (xs.map (·.name)).filter (· != initName) := by simp [hn, hinit]
    exact (List.mem_filter.1 (hnames ▸ hmem)).1

theorem agree_of_keeps (hname : ∀ x ∈ xs, x.key.text? = some x.name) {s : Intake}
    (hs : s.plan.suiteNames = []) {r : Except Fault Unit × Intake} (h : Settles s index xs r)
    (hkeeps : Keeps xs s r) : Agree xs := by
  have hnone : ¬ ∃ x ∈ xs, x.name ≠ initName ∧ x.name ∈ s.plan.suiteNames := by
    rintro ⟨x, -, -, hin⟩
    rw [hs] at hin
    cases hin
  cases h with
  | @repeated before after x hxs hx =>
    have hraw := not_nodup_of_repeated hxs hx
    have hnames := (hkeeps.refused.1 ⟨_, rfl⟩).resolve_right hnone
    exact ⟨iff_of_false hraw hnames, fun hnodup => (hnames hnodup).elim⟩
  | declared hraw hin hinit hdeclared =>
    rw [hs] at hdeclared
    cases hdeclared
  | @whole p hraw hnew hp =>
    have hno : ¬ ∃ n, (Except.ok () : Except Fault Unit) = .error (.duplicateSuite n) := by
      rintro ⟨_, h⟩
      cases h
    have hnodup : (xs.map (·.name)).Nodup :=
      Decidable.not_not.1 fun hdup => hno (hkeeps.refused.2 (.inl hdup))
    refine ⟨iff_of_true hraw hnodup, fun _ => ?_⟩
    -- both lists of entries lead to one plan, so their names are the same up to `meqa_init`
    have hall := (hkeeps.taken hno).2.names
    have hnames := hp.names.symm.trans hall
    rw [hs, List.map_map, List.nil_append, List.nil_append] at hnames
    have hkeys := names_subset_keys hname hnames.symm
    have hle : xs.length ≤ (kept xs).size := calc
      xs.length = (xs.map (·.name)).length := (List.length_map _).symm
      _ ≤ (Dict.ofList (named xs)).keys.length := (List.Nodup.subperm hnodup hkeys).length_le
      _ = (Dict.ofList (named xs)).size := Dict.length_keys _
      _ ≤ (named xs).length := Dict.size_ofList_le _
      _ = (kept xs).size := List.length_map _
    have hsize : (kept xs).size = (xs.map fun x => (x.key, x.tests)).length := by
      refine Nat.le_antisymm (Dict.size_ofList_le _) ?_
      rwa [List.length_map]
    exact List.pairwise_map.1 (Dict.size_ofList_eq_iff.1 hsize)

/-- What becomes of the entries of a chunk, whatever plan takes it in. No suite is lost to a clash,
and no chunk is refused without one, for exactly the chunks in which the three ways to compare keys
agree, as they do where all keys are texts. -/
theorem clashes_exact (hread : Node.ofText chunk.toList = .ok (some (.mapping .map es)))
    (h : List.Forall₂ Entry.Of es xs) :
    (∀ s, Settles s index xs ((takeChunk chunk index).run s)) ∧
      ((∀ s, Keeps xs s ((takeChunk chunk index).run s)) ↔ Agree xs) ∧
      ((∀ x ∈ xs, x.key = .str x.raw) → Agree xs) := by
  refine ⟨settles hread h, ⟨fun hkeeps => ?_, fun hagree s => ?_⟩, Agree.of_texts h⟩
  · exact agree_of_keeps (Entry.Of.names h) rfl (settles hread h ⟨default, []⟩) (hkeeps _)
  · exact keeps_of_agree (Entry.Of.names h) hagree (settles hread h s)

/-- Two names of one suite, as the number 1 is written in two ways. -/
def twiceOne : String := "1:\n- {name: a}\n0x1:\n- {name: b}\n"

def onlyStep (name : String) : Node :=
  .sequence .seq [.mapping .map [(.scalar .str "name", .scalar .str name)]]

def twiceOneNodes : List (Node × Node) :=
  [(.scalar .int "1", onlyStep "a"), (.scalar .int "0x1", onlyStep "b")]

def twiceOneEntries : List Entry :=
  [⟨"1", .int 1, "1", [{ Test.empty with name := "a" }]⟩,
    ⟨"0x1", .int 1, "1", [{ Test.empty with name := "b" }]⟩]

theorem twiceOne_read : Node.ofText twiceOne.toList = .ok (some (.mapping .map twiceOneNodes)) := by
  decide +kernel

theorem checkTests_onlyStep (name : String) :
    checkTests [.map [(.str "name", .str name)]] = .ok [{ Test.empty with name := name }] := by
  have htest : Check.test (.map [(.str "name", .str name)]) =
      .ok { Test.empty with name := name } := by
    simp [Check.test, Check.field, Check.field?, Value.field?_cons, Value.field?_nil, Check.text,
      Test.declaredParams, Test.inlineSlots, Check.params, Test.empty, Params.empty, Auth.none]
  rw [checkTests, htest]
  rfl

theorem twiceOne_entries : List.Forall₂ Entry.Of twiceOneNodes twiceOneEntries := by
  refine .cons ⟨⟨.int, rfl, by decide⟩, rfl, rfl, ?_⟩
    (.cons ⟨⟨.int, rfl, by decide⟩, rfl, rfl, ?_⟩ .nil)
  · exact ⟨_, _, rfl, rfl, checkTests_onlyStep "a"⟩
  · exact ⟨_, _, rfl, rfl, checkTests_onlyStep "b"⟩

theorem twiceOne_taken (s : Intake) (hs : s.plan.suiteNames = []) :
    ¬ ∃ n, ((takeChunk twiceOne index).run s).1 = .error (.duplicateSuite n) := by
  have h : Settles s index twiceOneEntries _ := settles twiceOne_read twiceOne_entries s
  generalize (takeChunk twiceOne index).run s = r at h
  rintro ⟨n, hn⟩
  cases h with
  | repeated hxs hx => exact not_nodup_of_repeated hxs hx (by decide)
  | declared hraw hin hinit hdeclared =>
    rw [hs] at hdeclared
    cases hdeclared
  | whole => cases hn

/-- A suite may be lost to another one of its name. -/
theorem clashes_lose :
    ¬ ∀ (chunk : String) (index : Int) (es : List (Node × Node)) (xs : List Entry),
      Node.ofText chunk.toList = .ok (some (.mapping .map es)) → List.Forall₂ Entry.Of es xs →
        ∀ s, Keeps xs s ((takeChunk chunk index).run s) := by
  intro h
  have hkeeps := h twiceOne 0 _ _ twiceOne_read twiceOne_entries ⟨default, []⟩
  exact twiceOne_taken _ rfl (hkeeps.refused.2 (.inl (by decide)))

/-- The number 1 in two ways is two texts and one key, and the suite of the first one is lost. -/
theorem clashes_exact_twiceOne :
    Node.ofText twiceOne.toList = .ok (some (.mapping .map twiceOneNodes)) ∧
      List.Forall₂ Entry.Of twiceOneNodes twiceOneEntries ∧
      (∀ s, Settles s 0 twiceOneEntries ((takeChunk twiceOne 0).run s)) ∧
      (named twiceOneEntries).map (·.1) = ["1"] ∧
      ¬ ∀ s, Keeps twiceOneEntries s ((takeChunk twiceOne 0).run s) := by
  obtain ⟨hsettles, hkeeps, -⟩ := @clashes_exact _ 0 _ _ twiceOne_read twiceOne_entries
  refine ⟨twiceOne_read, twiceOne_entries, hsettles, by decide +kernel, fun h => ?_⟩
  have hnames := (hkeeps.1 h).texts.1 (by decide)
  exact absurd hnames (by decide)

end PlanFile

end Runbook
