import Runbook.Proofs.Fault
import Runbook.Proofs.Reference
import Runbook.Proofs.Substitution

namespace Runbook

namespace Value

mutual

def texts : Value → List String
  | .str s => [s]
  | .list items => itemTexts items
  | .map entries => entryTexts entries
  | _ => []

def itemTexts : List Value → List String
  | [] => []
  | v :: vs => v.texts ++ itemTexts vs

def entryTexts : List (Value × Value) → List String
  | [] => []
  | (_, v) :: es => v.texts ++ entryTexts es

end

def Plain : Value → Prop
  | .str _ => False
  | .list _ => False
  | .map _ => False
  | _ => True

/-- A value with other values in place of its texts. Lists keep their length and mappings their keys
in their order, and what is neither stays as it is. -/
inductive Replaced (R : String → Value → Prop) : Value → Value → Prop
  | text {s : String} {w : Value} (h : R s w) : Replaced R (.str s) w
  | list {vs ws : List Value} (hitems : List.Forall₂ (Replaced R) vs ws) :
      Replaced R (.list vs) (.list ws)
  | map {es fs : List (Value × Value)} (hkeys : es.map (·.1) = fs.map (·.1))
      (hvalues : List.Forall₂ (Replaced R) (es.map (·.2)) (fs.map (·.2))) :
      Replaced R (.map es) (.map fs)
  | plain {v : Value} (h : v.Plain) : Replaced R v v

end Value

namespace Reference

open Value (texts itemTexts entryTexts Replaced)

variable {h : History}

def faultOf {α : Type} : Except Fault α → Option Fault
  | .error f => some f
  | .ok _ => none

theorem faultOf_eq_some_iff {α : Type} {x : Except Fault α} {f : Fault} :
    faultOf x = some f ↔ x = .error f := by
  cases x <;> simp [faultOf]

theorem faultOf_eq_none_iff {α : Type} {x : Except Fault α} :
    faultOf x = none ↔ ∃ a, x = .ok a := by
  cases x <;> simp [faultOf]

theorem faultOf_map {α β : Type} (g : α → β) (x : Except Fault α) :
    faultOf (x.map g) = faultOf x := by
  cases x <;> rfl

def Becomes (h : History) (s : String) (w : Value) : Prop := resolve h (.str s) = .ok w

mutual

theorem resolve_eq_ok_iff {v w : Value} : resolve h v = .ok w ↔ v.Replaced (Becomes h) w := by
  -- One case for each kind of value that has parts, by recursion on these.
  match v with
  | .str s =>
    constructor
    · exact fun hs => .text (R := Becomes h) hs
    · rintro (hs | _ | _ | hs)
      · exact hs
      · exact hs.elim
  | .list items =>
    rw [resolve, map_eq_ok_iff]
    constructor
    · rintro ⟨ws, hws, rfl⟩
      exact .list (resolveItems_eq_ok_iff.1 hws)
    · rintro (_ | hitems | _ | hs)
      · exact ⟨_, resolveItems_eq_ok_iff.2 hitems, rfl⟩
      · exact hs.elim
  | .map entries =>
    rw [resolve, map_eq_ok_iff]
    constructor
    · rintro ⟨fs, hfs, rfl⟩
      obtain ⟨hkeys, hvalues⟩ := resolveEntries_eq_ok_iff.1 hfs
      exact .map hkeys hvalues
    · rintro (_ | _ | ⟨hkeys, hvalues⟩ | hs)
      · exact ⟨_, resolveEntries_eq_ok_iff.2 ⟨hkeys, hvalues⟩, rfl⟩
      · exact hs.elim
  | .null | .bool _ | .int _ | .float _ | .tuple _ | .bytes _ | .set _ | .date _ | .dateTime _ =>
    constructor
    · intro hv
      obtain rfl := Except.ok.inj hv
      exact .plain trivial
    · rintro ⟨⟩
      rfl

theorem resolveItems_eq_ok_iff {vs ws : List Value} :
    resolveItems h vs = .ok ws ↔ List.Forall₂ (Replaced (Becomes h)) vs ws := by
  match vs with
  | [] => simp [resolveItems, eq_comm]
  | v :: vs =>
    rw [resolveItems, List.forall₂_cons_left_iff]
    simp only [← resolve_eq_ok_iff, ← resolveItems_eq_ok_iff]
    cases resolve h v with
    | error f => simp
    | ok w => cases resolveItems h vs <;> simp [Except.map, eq_comm]

theorem resolveEntries_eq_ok_iff {es fs : List (Value × Value)} :
    resolveEntries h es = .ok fs ↔ es.map (·.1) = fs.map (·.1) ∧
      List.Forall₂ (Replaced (Becomes h)) (es.map (·.2)) (fs.map (·.2)) := by
  match es with
  | [] => cases fs <;> simp [resolveEntries]
  | (k, v) :: es =>
    rw [resolveEntries]
    cases fs with
    | nil =>
      cases resolve h v with
      | error f => simp
      | ok w => cases resolveEntries h es <;> simp [Except.map]
    | cons f fs =>
      simp only [List.map_cons, List.cons.injEq, List.forall₂_cons, ← resolve_eq_ok_iff]
      rw [and_and_and_comm, ← resolveEntries_eq_ok_iff]
      cases resolve h v with
      | error g => simp
      | ok w => cases resolveEntries h es <;> simp [Except.map, Prod.ext_iff]

end

mutual

theorem resolve_of_clear {v : Value} (hv : ∀ s ∈ v.texts, Clear s.toList) :
    resolve h v = .ok v := by
  match v with
  | .str s => exact resolve_clear (hv s (List.mem_singleton_self s))
  | .list items => rw [resolve, resolveItems_of_clear hv, Except.map]
  | .map entries => rw [resolve, resolveEntries_of_clear hv, Except.map]
  | .null | .bool _ | .int _ | .float _ | .tuple _ | .bytes _ | .set _ | .date _ | .dateTime _ => rfl

theorem resolveItems_of_clear {vs : List Value} (hvs : ∀ s ∈ itemTexts vs, Clear s.toList) :
    resolveItems h vs = .ok vs := by
  match vs with
  | [] => rfl
  | v :: vs =>
    obtain ⟨hv, hrest⟩ := List.forall_mem_append.1 hvs
    simp only [resolveItems, resolve_of_clear hv, resolveItems_of_clear hrest, Except.map]

theorem resolveEntries_of_clear {es : List (Value × Value)}
    (hes : ∀ s ∈ entryTexts es, Clear s.toList) : resolveEntries h es = .ok es := by
  match es with
  | [] => rfl
  | (k, v) :: es =>
    obtain ⟨hv, hrest⟩ := List.forall_mem_append.1 hes
    simp only [resolveEntries, resolve_of_clear hv, resolveEntries_of_clear hrest, Except.map]

end

def firstFault (h : History) (ss : List String) : Option Fault :=
  ss.findSome? fun s => faultOf (resolve h (.str s))

mutual

theorem faultOf_resolve (v : Value) : faultOf (resolve h v) = firstFault h v.texts := by
  match v with
  | .str s => simp [texts, firstFault]
  | .list items => rw [resolve, faultOf_map, faultOf_resolveItems, texts]
  | .map entries => rw [resolve, faultOf_map, faultOf_resolveEntries, texts]
  | .null | .bool _ | .int _ | .float _ | .tuple _ | .bytes _ | .set _ | .date _ | .dateTime _ => rfl

theorem faultOf_resolveItems (vs : List Value) :
    faultOf (resolveItems h vs) = firstFault h (itemTexts vs) := by
  match vs with
  | [] => rfl
  | v :: vs =>
    rw [resolveItems, itemTexts, firstFault, List.findSome?_append]
    change _ = (firstFault h v.texts).or (firstFault h (itemTexts vs))
    rw [← faultOf_resolve v, ← faultOf_resolveItems vs]
    cases resolve h v with
    | error f => rfl
    | ok w => exact faultOf_map _ _

theorem faultOf_resolveEntries (es : List (Value × Value)) :
    faultOf (resolveEntries h es) = firstFault h (entryTexts es) := by
  match es with
  | [] => rfl
  | (k, v) :: es =>
    rw [resolveEntries, entryTexts, firstFault, List.findSome?_append]
    change _ = (firstFault h v.texts).or (firstFault h (entryTexts es))
    rw [← faultOf_resolve v, ← faultOf_resolveEntries es]
    cases resolve h v with
    | error f => rfl
    | ok w => exact faultOf_map _ _

end

theorem resolve_eq_error_iff {v : Value} {f : Fault} :
    resolve h v = .error f ↔ ∃ before s after, v.texts = before ++ s :: after ∧
      (∀ t ∈ before, ∃ w, resolve h (.str t) = .ok w) ∧ resolve h (.str s) = .error f := by
  rw [← faultOf_eq_some_iff, faultOf_resolve, firstFault, List.findSome?_eq_some_iff]
  simp only [faultOf_eq_some_iff, faultOf_eq_none_iff]
  exact exists₃_congr fun _ _ _ => and_congr_right fun _ => and_comm

theorem resolve_slot (s : Slot) : resolve h s.value = (resolveSlot h s).map Slot.value := by
  have hentries (es : List (String × Value)) :
      resolveEntries h (es.map fun e => (.str e.1, e.2)) =
        (Dict.traverse (resolve h) es).map (List.map fun e => (.str e.1, e.2)) := by
    induction es with
    | nil => rfl
    | cons e es ih =>
      rw [List.map_cons, resolveEntries, Dict.traverse, ih]
      cases resolve h e.2 with
      | error f => rfl
      | ok w => cases Dict.traverse (resolve h) es <;> rfl
  have hslot : (resolveSlot h s).map Dict.entries = Dict.traverse (resolve h) s.entries := by
    rw [resolveSlot, Dict.mapValuesM]
    split <;> exact Eq.symm ‹_›
  rw [Slot.value, resolve, hentries, ← hslot]
  cases resolveSlot h s <;> rfl

theorem resolve_body (b : Body) : resolveBody h b = (resolve h b.value).map Body.ofValue := by
  cases b <;> rfl

/-- The parts of a run that are resolved. -/
inductive Part where
  | query
  | form
  | path
  | header
  | body
  | address
deriving DecidableEq

namespace Part

def all : List Part := [query, form, path, header, body, address]

def value (r : Run) : Part → Value
  | query => r.params.query.value
  | form => r.params.form.value
  | path => r.params.path.value
  | header => r.params.header.value
  | body => r.params.body.value
  | address => r.path

def Kept (q r : Run) : Part → Prop
  | query => r.params.query = q.params.query
  | form => r.params.form = q.params.form
  | path => r.params.path = q.params.path
  | header => r.params.header = q.params.header
  | body => r.params.body = q.params.body
  | address => r.path = q.path

/-- The part of a run has come to be a value. A body is the body of this value, of whatever kind the
value is. -/
def Holds (r : Run) (w : Value) : Part → Prop
  | query => r.params.query.value = w
  | form => r.params.form.value = w
  | path => r.params.path.value = w
  | header => r.params.header.value = w
  | body => r.params.body = .ofValue w
  | address => r.path = w

variable {q r r' : Run} {p : Part}

theorem Kept.refl (r : Run) (p : Part) : p.Kept r r := by cases p <;> rfl

theorem Kept.trans (hq : p.Kept q r) (hr : p.Kept r r') : p.Kept q r' := by
  cases p <;> exact Eq.trans hr hq

theorem Kept.value_eq (hk : p.Kept q r) : p.value r = p.value q := by
  cases p <;> simp only [Kept] at hk <;> simp only [value, hk]

theorem Kept.holds {w : Value} (hk : p.Kept q r) (hq : p.Holds q w) : p.Holds r w := by
  cases p <;> simp only [Kept] at hk <;> simpa only [Holds, hk] using hq

/-- The part of the second run is what that of the first resolves to. -/
def Resolved (h : History) (q r : Run) (p : Part) : Prop :=
  ∃ w, resolve h (p.value q) = .ok w ∧ p.Holds r w

end Part

/-- How far a run has come, with parts that were tried and parts that are left. Either all that were
tried are resolved, or one of them went wrong: those before it are resolved, and it and all others are
as they were. -/
inductive Progress.Through (h : History) (r : Run) : List Part → List Part → Progress → Prop
  | going {tried left : List Part} {q : Run} (htried : ∀ p ∈ tried, p.Resolved h r q)
      (hleft : ∀ p ∈ left, p.Kept r q) : Through h r tried left (q, none)
  | halted {before after left : List Part} {p : Part} {q : Run} {f : Fault}
      (hbefore : ∀ p ∈ before, p.Resolved h r q) (hfault : resolve h (p.value r) = .error f)
      (hkept : ∀ p' ∈ p :: (after ++ left), p'.Kept r q) :
      Through h r (before ++ p :: after) left (q, some f)

theorem Progress.Through.next {α : Type} {r : Run} {p : Part} {tried left : List Part}
    {s : Progress} (part : Run → Except Fault α) (put : Run → α → Run)
    (hs : s.Through h r tried (p :: left)) (hnodup : (tried ++ p :: left).Nodup)
    (hpart : ∀ q, faultOf (part q) = faultOf (resolve h (p.value q)))
    (hput : ∀ q a, part q = .ok a → p.Resolved h q (put q a))
    (hkept : ∀ q a p', p' ≠ p → p'.Kept q (put q a)) :
    (s.next part put).Through h r (tried ++ [p]) left := by
  obtain ⟨-, hpl, hdisjoint⟩ := List.nodup_append.1 hnodup
  have hnew : ∀ p' ∈ tried, p' ≠ p := fun p' hp' => hdisjoint p' hp' p List.mem_cons_self
  cases hs with
  | going htried hleft =>
    rename_i q
    obtain ⟨hp, hleft⟩ := List.forall_mem_cons.1 hleft
    have hvalue := hp.value_eq
    cases hq : part q with
    | error f =>
      have hfault : resolve h (p.value r) = .error f := by
        rw [← faultOf_eq_some_iff, ← hvalue, ← hpart, hq, faultOf]
      simp only [Progress.next, hq]
      exact .halted htried hfault (List.forall_mem_cons.2 ⟨hp, hleft⟩)
    | ok a =>
      simp only [Progress.next, hq]
      refine .going (List.forall_mem_append.2 ⟨fun p' hp' => ?_, ?_⟩) fun p' hp' => ?_
      · obtain ⟨w, hw, hholds⟩ := htried p' hp'
        exact ⟨w, hw, (hkept q a p' (hnew p' hp')).holds hholds⟩
      · rw [List.forall_mem_singleton, Part.Resolved, ← hvalue]
        exact hput q a hq
      · have hne : p' ≠ p := fun he => (List.nodup_cons.1 hpl).1 (he ▸ hp')
        exact (hleft p' hp').trans (hkept q a p' hne)
  | halted hbefore hfault hk =>
    rw [List.append_assoc, List.cons_append]
    refine .halted hbefore hfault fun p' hp' => hk p' ?_
    simpa using hp'

theorem Progress.Through.slot {r : Run} {p : Part} {tried left : List Part} {s : Progress}
    (get : Run → Slot) (put : Run → Slot → Run) (hs : s.Through h r tried (p :: left))
    (hnodup : (tried ++ p :: left).Nodup) (hvalue : ∀ q, p.value q = (get q).value)
    (hholds : ∀ q a, p.Holds (put q a) a.value) (hkept : ∀ q a p', p' ≠ p → p'.Kept q (put q a)) :
    (s.next (fun q => resolveSlot h (get q)) put).Through h r (tried ++ [p]) left := by
  refine hs.next _ _ hnodup (fun q => ?_) (fun q a ha => ⟨a.value, ?_, hholds q a⟩) hkept
  · rw [hvalue, resolve_slot, faultOf_map]
  · rw [hvalue, resolve_slot, ha, Except.map]

theorem resolveRun_through (h : History) (r : Run) :
    (resolveRun h r).Through h r Part.all [] := by
  have hstart : Progress.Through h r [] Part.all (r, none) :=
    .going (List.forall_mem_nil _) fun p _ => .refl r p
  have hquery := hstart.slot (·.params.query)
    (fun q s => { q with params := { q.params with query := s } }) (by decide) (fun _ => rfl)
    (fun _ _ => rfl) fun _ _ p hp => by cases p <;> first | rfl | exact (hp rfl).elim
  have hform := hquery.slot (·.params.form)
    (fun q s => { q with params := { q.params with form := s } }) (by decide) (fun _ => rfl)
    (fun _ _ => rfl) fun _ _ p hp => by cases p <;> first | rfl | exact (hp rfl).elim
  have hpath := hform.slot (·.params.path)
    (fun q s => { q with params := { q.params with path := s } }) (by decide) (fun _ => rfl)
    (fun _ _ => rfl) fun _ _ p hp => by cases p <;> first | rfl | exact (hp rfl).elim
  have hheader := hpath.slot (·.params.header)
    (fun q s => { q with params := { q.params with header := s } }) (by decide) (fun _ => rfl)
    (fun _ _ => rfl) fun _ _ p hp => by cases p <;> first | rfl | exact (hp rfl).elim
  have hbody := hheader.next (fun q => resolveBody h q.params.body)
    (fun q b => { q with params := { q.params with body := b } }) (by decide) (fun q => ?_)
    (fun q b hb => ?_) fun _ _ p hp => by cases p <;> first | rfl | exact (hp rfl).elim
  · exact hbody.next (fun q => resolve h q.path) (fun q v => { q with path := v }) (by decide)
      (fun _ => rfl) (fun q v hv => ⟨v, hv, rfl⟩)
      fun _ _ p hp => by cases p <;> first | rfl | exact (hp rfl).elim
  · rw [resolve_body, faultOf_map]
    rfl
  · rw [resolve_body, map_eq_ok_iff] at hb
    obtain ⟨w, hw, rfl⟩ := hb
    exact ⟨w, hw, rfl⟩

/-- What resolving comes to. A value that resolves keeps its shape, with every text replaced by what
the text alone resolves to, and a value in whose texts there is no reference stays as it is; what does
not resolve fails as the first of its texts that fails does. The parts of a run are resolved in their
order up to the first that fails: that part and all after it stay as they were, and so does everything
else about the run. -/
theorem resolution_exact (h : History) :
    (∀ v, (∀ w, resolve h v = .ok w ↔ v.Replaced (Becomes h) w) ∧
      ((∀ s ∈ v.texts, Clear s.toList) → resolve h v = .ok v) ∧
      ∀ f, resolve h v = .error f ↔ ∃ before s after, v.texts = before ++ s :: after ∧
        (∀ t ∈ before, ∃ w, resolve h (.str t) = .ok w) ∧ resolve h (.str s) = .error f) ∧
    ∀ r, (resolveRun h r).Through h r Part.all [] ∧
      ∃ params path, (resolveRun h r).1 = { r with params := params, path := path } :=
  ⟨fun _ => ⟨fun _ => resolve_eq_ok_iff, resolve_of_clear, fun _ => resolve_eq_error_iff⟩,
    fun r => ⟨resolveRun_through h r, resolveRun_keeps h r⟩⟩

theorem clear_of_split {cs : List Char} (hs : Piece.split 0 cs = cs.map .char) : Clear cs := by
  obtain ⟨k, rfl⟩ := Cutting.exists_chars cs
  rw [Cutting.split_chars] at hs
  cases hrest : k.rest with
  | nil =>
    rw [Cutting.chars, hrest, trailing, List.flatMap_nil, List.append_nil]
    exact k.clearFirst
  | cons p ps =>
    have hmem : Piece.reference p.1.name ∈ k.chars.map Piece.char := by
      rw [← hs, hrest]
      simp [Cutting.pieces]
    obtain ⟨c, -, hc⟩ := List.mem_map.1 hmem
    cases hc

def braced : Value := .map [(.str "a", .list [.str "{x} {{ }}", .int 1])]

theorem resolution_exact_braced :
    (∀ s ∈ braced.texts, Clear s.toList) ∧ resolve ⟨[]⟩ braced = .ok braced := by
  have hclear : ∀ s ∈ braced.texts, Clear s.toList :=
    List.forall_mem_singleton.2 (clear_of_split (by decide))
  exact ⟨hclear, ((resolution_exact ⟨[]⟩).1 braced).2.1 hclear⟩

end Reference

end Runbook
