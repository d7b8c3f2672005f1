import Mathlib.Data.Nat.Digits.Defs
import Runbook.Proofs.Fault
import Runbook.Proofs.Json.Number
import Runbook.Proofs.Reference
import Runbook.Proofs.Text.Lines

namespace Runbook

/-- The run is the last one of this name. -/
def History.Latest (h : History) (name : String) (r : Run) : Prop :=
  r.name = name ∧ ∃ earlier later, h.runs = earlier ++ r :: later ∧ ∀ q ∈ later, q.name ≠ name

theorem History.get?_eq_some_iff {h : History} {name : String} {r : Run} :
    h.get? name = some r ↔ h.Latest name r := by
  rw [get?, List.find?_eq_some_iff_append, Latest, beq_iff_eq]
  refine and_congr_right fun _ => ⟨?_, ?_⟩
  · rintro ⟨later, earlier, hruns, hlater⟩
    refine ⟨earlier.reverse, later.reverse, ?_, fun q hq => ?_⟩
    · rw [← List.reverse_inj, hruns]
      simp
    · simpa using hlater q (List.mem_reverse.1 hq)
  · rintro ⟨earlier, later, hruns, hlater⟩
    exact ⟨later.reverse, earlier.reverse, by simp [hruns], by simpa using hlater⟩

/-- A text is made of decimal digits, of any script, that denote a number. -/
def Numeral.Denotes (part : String) (n : Nat) : Prop :=
  ∃ ds : List Nat, ds ≠ [] ∧ List.Forall₂ (fun c d => Text.decimalValue? c = some d) part.toList ds ∧
    n = Nat.ofDigits 10 ds.reverse

namespace Numeral

theorem digitsValue_eq_ofDigits (ds : List Nat) : digitsValue ds = Nat.ofDigits 10 ds.reverse := by
  rw [Nat.ofDigits_eq_foldr, List.foldr_reverse, digitsValue]
  simp only [Nat.cast_id, Nat.add_comm]

theorem digits?_eq_some_iff {part : String} {n : Nat} :
    digits? part.toList = some n ↔ part.toList.length ≤ digitLimit ∧ Denotes part n := by
  have hne : ∀ ds, List.Forall₂ (fun c d => Text.decimalValue? c = some d) part.toList ds →
      (part.toList = [] ↔ ds = []) := fun ds h => by
    rw [← List.length_eq_zero_iff, h.length_eq, List.length_eq_zero_iff]
  rw [digits?, Option.ite_none_left_eq_some, Option.map_eq_some_iff, Denotes]
  simp only [mapM_eq_some_iff, Bool.or_eq_true, List.isEmpty_iff, decide_eq_true_eq, not_or,
    Nat.not_lt, digitsValue_eq_ofDigits]
  constructor
  · rintro ⟨⟨hpart, hlimit⟩, ds, hds, rfl⟩
    exact ⟨hlimit, ds, fun h => hpart ((hne ds hds).2 h), hds, rfl⟩
  · rintro ⟨hlimit, ds, hnil, hds, rfl⟩
    exact ⟨⟨fun h => hnil ((hne ds hds).1 h), hlimit⟩, ds, hds, rfl⟩

theorem all_isDigitLike {cs : List Char} {ds : List Nat}
    (h : List.Forall₂ (fun c d => Text.decimalValue? c = some d) cs ds) :
    cs.all Text.isDigitLike = true := by
  induction h with
  | nil => rfl
  | cons hd _ ih => rw [List.all_cons, ih, Text.isDigitLike, hd]; rfl

theorem Denotes.isIndex {part : String} {n : Nat} (h : Denotes part n) :
    Reference.isIndex part = true := by
  obtain ⟨ds, hne, hds, -⟩ := h
  have hpart : part.isEmpty = false := by
    rw [Bool.eq_false_iff, ne_eq, String.isEmpty_iff]
    rintro rfl
    exact hne (List.forall₂_nil_left_iff.1 hds)
  rw [Reference.isIndex, hpart, all_isDigitLike hds]
  rfl

end Numeral

namespace Reference

variable {ok : String → Prop} {h : History} {expr part : String} {path : List String}
  {u v w : Value}

/-- One part of a path is a key of a mapping, or denotes the index of an element of a list. Of the
texts that denote an index those are taken that `ok` admits. -/
inductive Turn (ok : String → Prop) (part : String) : Value → Value → Prop
  | key {v u : Value} (hfield : v.field? part = some u) : Turn ok part v u
  | item {items : List Value} {n : Nat} {u : Value} (hok : ok part)
      (hdenotes : Numeral.Denotes part n) (hitem : items[n]? = some u) : Turn ok part (.list items) u

/-- A value that a path leads to, one part after the other. -/
inductive Leads (ok : String → Prop) : List String → Value → Value → Prop
  | here {v : Value} : Leads ok [] v v
  | turn {part : String} {path : List String} {v u w : Value} (hturn : Turn ok part v u)
      (hleads : Leads ok path u w) : Leads ok (part :: path) v w

def Short (part : String) : Prop := part.toList.length ≤ Numeral.digitLimit

theorem follow_eq_ok_iff : follow expr part v = .ok u ↔ Turn Short part v u := by
  constructor
  · intro hf
    unfold follow at hf
    split at hf
    · exact .key (elim_eq_ok.1 hf)
    · split at hf
      · split at hf
        · cases hf
        · rename_i n hdigits
          obtain ⟨hshort, hdenotes⟩ := Numeral.digits?_eq_some_iff.1 hdigits
          exact .item hshort hdenotes (elim_eq_ok.1 hf)
      · cases hf
    · cases hf
  · intro hturn
    cases hturn with
    | key hfield =>
      cases v with
      | map entries => exact elim_eq_ok.2 hfield
      | _ => cases hfield
    | item hshort hdenotes hitem =>
      have hdigits := Numeral.digits?_eq_some_iff.2 ⟨hshort, hdenotes⟩
      simp only [follow, hdenotes.isIndex, if_true, hdigits, hitem, Option.elim_some]

theorem walk_eq_ok_iff : walk expr path v = .ok w ↔ Leads Short path v w := by
  induction path generalizing v with
  | nil =>
    rw [walk, Except.ok.injEq]
    constructor
    · rintro rfl
      exact .here
    · rintro ⟨⟩
      rfl
  | cons part path ih =>
    constructor
    · intro hw
      unfold walk at hw
      split at hw
      · rename_i u hf
        exact .turn (follow_eq_ok_iff.1 hf) (ih.1 hw)
      · cases hw
    · rintro (_ | ⟨hturn, hleads⟩)
      simp only [walk, follow_eq_ok_iff.2 hturn, ih.2 hleads]

/-- An index whose numeral is too long is no missing part, but data that is not taken. -/
theorem follow_of_long {items : List Value} {n : Nat} (hdenotes : Numeral.Denotes part n)
    (hlong : ¬ Short part) : follow expr part (.list items) = .error (.data .value) := by
  have hdigits : Numeral.digits? part.toList = none :=
    Option.eq_none_iff_forall_ne_some.2 fun n hn => hlong (Numeral.digits?_eq_some_iff.1 hn).1
  simp only [follow, hdenotes.isIndex, if_true, hdigits]

theorem follow_of_turn (expr : String) (hturn : Turn (fun _ => True) part v u) :
    follow expr part v = .ok u ∨ follow expr part v = .error (.data .value) := by
  cases hturn with
  | key hfield => exact .inl (follow_eq_ok_iff.2 (.key hfield))
  | item _ hdenotes hitem =>
    by_cases hshort : Short part
    · exact .inl (follow_eq_ok_iff.2 (.item hshort hdenotes hitem))
    · exact .inr (follow_of_long hdenotes hshort)

theorem walk_of_leads (hleads : Leads (fun _ => True) path v w) :
    walk expr path v = .ok w ∨ walk expr path v = .error (.data .value) := by
  induction hleads with
  | here => exact .inl rfl
  | turn hturn _ ih =>
    rcases follow_of_turn expr hturn with hf | hf
    · simpa only [walk, hf] using ih
    · exact .inr (by simp only [walk, hf])

def arguments (p : Params) : List (String × Value) :=
  [("queryParams", p.query.value), ("formParams", p.form.value), ("pathParams", p.path.value),
    ("headerParams", p.header.value), ("bodyParams", p.body.value)]

theorem slot?_eq_some_iff {p : Params} {name : String} :
    slot? p name = some u ↔ (name, u) ∈ arguments p := by
  simp only [arguments, List.mem_cons, Prod.mk.injEq, List.not_mem_nil, or_false]
  unfold slot?
  split <;> simp_all [eq_comm]

/-- What an expression refers to: something in the answer to the last run of the step that it names,
or in the arguments of that run. -/
inductive Refers (ok : String → Prop) (h : History) (expr : String) (v : Value) : Prop
  | outputs {name : String} {r : Run} {path : List String}
      (hexpr : (expr.toList.splitOn '.').map String.ofList = name :: "outputs" :: path)
      (hrun : h.Latest name r) (hleads : Leads ok path r.answer v)
  | inputs {name slot : String} {r : Run} {path : List String} {u : Value}
      (hexpr : (expr.toList.splitOn '.').map String.ofList = name :: "inputs" :: slot :: path)
      (hrun : h.Latest name r) (hslot : (slot, u) ∈ arguments r.params) (hleads : Leads ok path u v)

theorem lookup_eq (h : History) (expr : String) :
    lookup h expr = match (expr.toList.splitOn '.').map String.ofList with
      | name :: part :: path =>
        match h.get? name with
        | none => .error (.unresolved (.unknownStep name))
        | some r =>
          match part with
          | "outputs" => walk expr path r.answer
          | "inputs" => inputs expr r path
          | _ => .error (.unresolved (.unknownSection expr part))
      | _ => .error (.unresolved (.malformed expr)) := by
  rw [lookup, Text.cutAt_eq_splitOn]
  rfl

theorem lookup_eq_ok_iff : lookup h expr = .ok v ↔ Refers Short h expr v := by
  rw [lookup_eq]
  constructor
  · intro hl
    split at hl
    · rename_i name part path hexpr
      split at hl
      · cases hl
      · rename_i r hr
        have hrun := History.get?_eq_some_iff.1 hr
        split at hl
        · exact .outputs hexpr hrun (walk_eq_ok_iff.1 hl)
        · unfold inputs at hl
          split at hl
          · cases hl
          · split at hl
            · rename_i slot rest u hslot
              exact .inputs hexpr hrun (slot?_eq_some_iff.1 hslot) (walk_eq_ok_iff.1 hl)
            · cases hl
        · cases hl
    · cases hl
  · rintro (⟨hexpr, hrun, hleads⟩ | ⟨hexpr, hrun, hslot, hleads⟩)
    · simp only [hexpr, History.get?_eq_some_iff.2 hrun, walk_eq_ok_iff.2 hleads]
    · simp only [hexpr, History.get?_eq_some_iff.2 hrun, inputs, slot?_eq_some_iff.2 hslot,
        walk_eq_ok_iff.2 hleads]

theorem lookup_of_refers (href : Refers (fun _ => True) h expr v) :
    lookup h expr = .ok v ∨ lookup h expr = .error (.data .value) := by
  rw [lookup_eq]
  rcases href with ⟨hexpr, hrun, hleads⟩ | ⟨hexpr, hrun, hslot, hleads⟩
  · simpa only [hexpr, History.get?_eq_some_iff.2 hrun] using walk_of_leads hleads
  · simpa only [hexpr, History.get?_eq_some_iff.2 hrun, inputs, slot?_eq_some_iff.2 hslot] using
      walk_of_leads hleads

end Reference

namespace Value

/-- A step into a nested value: to the entry with a key, or to the element with an index. -/
inductive Step where
  | key (k : String)
  | index (i : Nat)

def Step.text : Step → String
  | key k => k
  | index i => String.ofList (natDigits i)

/-- A step that an expression can write: its key has no dot in it, and its index is not too long. -/
def Step.Writable : Step → Prop
  | key k => '.' ∉ k.toList
  | index i => (natDigits i).length ≤ Numeral.digitLimit

def at? : List Step → Value → Option Value
  | [], v => some v
  | .key k :: path, v => (v.field? k).bind (at? path)
  | .index i :: path, .list items => (items[i]?).bind (at? path)
  | .index _ :: _, _ => none

end Value

namespace Reference

variable {h : History} {path : List Value.Step} {v w : Value}

theorem short_index {i : Nat} (hi : (natDigits i).length ≤ Numeral.digitLimit) :
    Short (Value.Step.index i).text ∧ Numeral.Denotes (Value.Step.index i).text i := by
  refine Numeral.digits?_eq_some_iff.1 ?_
  rw [Value.Step.text, String.toList_ofList, digits?_natDigits hi]

theorem leads_of_at? (hpath : ∀ s ∈ path, s.Writable) (hat : v.at? path = some w) :
    Leads Short (path.map Value.Step.text) v w := by
  induction path generalizing v with
  | nil =>
    obtain rfl := Option.some.inj hat
    exact .here
  | cons s path ih =>
    obtain ⟨hs, hrest⟩ := List.forall_mem_cons.1 hpath
    cases s with
    | key k =>
      obtain ⟨u, hfield, hat⟩ := Option.bind_eq_some_iff.1 hat
      exact .turn (.key hfield) (ih hrest hat)
    | index i =>
      cases v with
      | list items =>
        obtain ⟨u, hitem, hat⟩ := Option.bind_eq_some_iff.1 hat
        obtain ⟨hshort, hdenotes⟩ := short_index hs
        exact .turn (.item hshort hdenotes hitem) (ih hrest hat)
      | _ => cases hat

theorem dot_not_mem_text {s : Value.Step} (hs : s.Writable) : '.' ∉ s.text.toList := by
  cases s with
  | key k => exact hs
  | index i =>
    intro hdot
    rw [Value.Step.text, String.toList_ofList] at hdot
    exact absurd (mem_natDigits hdot) (by decide)

def expressionFor (name : String) (path : List Value.Step) : String :=
  ".".intercalate (name :: "outputs" :: path.map Value.Step.text)

theorem parts_expressionFor {name : String} (hname : '.' ∉ name.toList)
    (hpath : ∀ s ∈ path, s.Writable) :
    ((expressionFor name path).toList.splitOn '.').map String.ofList =
      name :: "outputs" :: path.map Value.Step.text := by
  have hparts : ∀ l ∈ (name :: "outputs" :: path.map Value.Step.text).map String.toList,
      '.' ∉ l := by
    intro l hl
    obtain ⟨part, hpart, rfl⟩ := List.mem_map.1 hl
    rcases List.mem_cons.1 hpart with rfl | hpart
    · exact hname
    rcases List.mem_cons.1 hpart with rfl | hpart
    · decide
    obtain ⟨s, hs, rfl⟩ := List.mem_map.1 hpart
    exact dot_not_mem_text (hpath s hs)
  have hdot : ".".toList = ['.'] := rfl
  rw [expressionFor, String.toList_intercalate, hdot, List.splitOn_intercalate '.' hparts (by simp),
    List.map_map]
  simp [Function.comp_def]

/-- What is found is exactly what an expression refers to: the last run of the step that it names is
asked for its answer or its arguments, and from there the rest of the expression is a path of keys and
of indices. An index of too many digits is the one thing that is referred to and not found, and it is
no unresolved reference. Every nested value of an answer is found by the expression for it, whatever
runs there were before. -/
theorem lookup_exact (h : History) :
    (∀ expr v, (lookup h expr = .ok v ↔ Refers Short h expr v) ∧
      (Refers (fun _ => True) h expr v →
        lookup h expr = .ok v ∨ lookup h expr = .error (.data .value))) ∧
    ∀ name r path v, h.Latest name r → '.' ∉ name.toList → (∀ s ∈ path, s.Writable) →
      r.answer.at? path = some v → lookup h (expressionFor name path) = .ok v := by
  refine ⟨fun expr v => ⟨lookup_eq_ok_iff, lookup_of_refers⟩, ?_⟩
  intro name r path v hrun hname hpath hat
  exact lookup_eq_ok_iff.2 (.outputs (parts_expressionFor hname hpath) hrun (leads_of_at? hpath hat))

def answered (name : String) (body : Value) : Run where
  name := name
  method := "get"
  path := .str "/"
  params := .empty
  strict := false
  expect := .empty
  auth := .none
  suite := ""
  schema := none
  response := some ⟨200, body, ""⟩
  schemaError := none
  responseError := none
  error := none

def tagged (tags : List Value) : Run := answered "pet" (.map [(.str "tags", .list tags)])

def twice : History := ⟨[tagged [.int 1, .int 2], tagged [.int 3, .int 4]]⟩

/-- The second run of a step hides the first. -/
theorem lookup_exact_shadowed :
    twice.Latest "pet" (tagged [.int 3, .int 4]) ∧
      lookup twice "pet.outputs.tags.1" = .ok (.int 4) := by
  have hlatest : twice.Latest "pet" (tagged [.int 3, .int 4]) :=
    ⟨rfl, [_], [], rfl, List.forall_mem_nil _⟩
  refine ⟨hlatest, ?_⟩
  refine (lookup_exact twice).2 "pet" _ [.key "tags", .index 1] _ hlatest (by decide) ?_ ?_
  · simp [Value.Step.Writable, natDigits]
    decide
  · simp [Value.at?, Value.field?, Run.answer, tagged, answered, str_beq_str]

/-- The index `0` written with more digits than a number may have. -/
def longIndex : String := String.ofList (List.replicate (Numeral.digitLimit + 1) '0')

theorem denotes_longIndex : Numeral.Denotes longIndex 0 := by
  have hzero : Text.decimalValue? '0' = some 0 := by decide
  refine ⟨List.replicate (Numeral.digitLimit + 1) 0, by simp, ?_, ?_⟩
  · rw [longIndex, String.toList_ofList]
    exact List.forall₂_iff_get.2 ⟨by simp, by simp [hzero]⟩
  · rw [List.reverse_replicate]
    simp

theorem not_short_longIndex : ¬ Short longIndex := by
  rw [Short, longIndex, String.toList_ofList, List.length_replicate]
  exact Nat.not_succ_le_self _

theorem dot_not_mem_longIndex : '.' ∉ longIndex.toList := by
  rw [longIndex, String.toList_ofList]
  exact fun h => absurd (List.eq_of_mem_replicate h) (by decide)

theorem misses_of_long {part : String} {items : List Value} {n : Nat}
    (hdenotes : Numeral.Denotes part n) (hlong : ¬ Short part) (hdot : '.' ∉ part.toList)
    (hitem : items[n]? = some v) :
    Refers (fun _ => True) ⟨[answered "a" (.list items)]⟩ (expressionFor "a" [.key part]) v ∧
      lookup ⟨[answered "a" (.list items)]⟩ (expressionFor "a" [.key part]) =
        .error (.data .value) := by
  have hlatest : (History.mk [answered "a" (.list items)]).Latest "a" (answered "a" (.list items)) :=
    ⟨rfl, [], [], rfl, List.forall_mem_nil _⟩
  have hexpr : ((expressionFor "a" [.key part]).toList.splitOn '.').map String.ofList = _ :=
    parts_expressionFor (by decide) (List.forall_mem_singleton.2 hdot)
  refine ⟨.outputs hexpr hlatest (.turn (.item trivial hdenotes hitem) .here), ?_⟩
  have hfollow (expr : String) : follow expr part (answered "a" (.list items)).answer =
      .error (.data .value) := follow_of_long hdenotes hlong
  rw [lookup_eq]
  simp only [hexpr, History.get?_eq_some_iff.2 hlatest, List.map_cons, List.map_nil,
    Value.Step.text, walk, hfollow]

/-- An index that is not found although there is an element with it. -/
theorem lookup_misses_long_index :
    Refers (fun _ => True) ⟨[answered "a" (.list [.int 7])]⟩ (expressionFor "a" [.key longIndex])
        (.int 7) ∧
      lookup ⟨[answered "a" (.list [.int 7])]⟩ (expressionFor "a" [.key longIndex]) ≠
        .ok (.int 7) := by
  have hitem : [Value.int 7][0]? = some (.int 7) := rfl
  obtain ⟨href, hlookup⟩ :=
    misses_of_long denotes_longIndex not_short_longIndex dot_not_mem_longIndex hitem
  refine ⟨href, ?_⟩
  rw [hlookup]
  exact nofun

end Reference

end Runbook
