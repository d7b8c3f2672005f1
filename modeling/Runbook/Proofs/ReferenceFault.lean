import Runbook.Proofs.Fault
import Runbook.Reference

namespace Runbook

/-- A fault that a reference can lead to: it has no value or, which takes `P`, its value cannot be
taken. -/
def Fault.OfReference (P : Prop) : Fault → Prop
  | .unresolved _ => True
  | .data .value => P
  | _ => False

theorem Fault.OfReference.imp {P Q : Prop} {f : Fault} (h : f.OfReference P) (himp : P → Q) :
    f.OfReference Q := by
  unfold OfReference at h ⊢
  split at h
  · trivial
  · exact himp h
  · exact h.elim

/-- A value that is or has a whole number with too many digits for a text. -/
inductive Value.HasLong : Value → Prop
  | int {n : Int} (h : Numeral.digitLimit < (natDigits n.natAbs).length) : HasLong (.int n)
  | list {v : Value} {items : List Value} (hv : v ∈ items) (h : v.HasLong) : HasLong (.list items)
  | tuple {v : Value} {items : List Value} (hv : v ∈ items) (h : v.HasLong) : HasLong (.tuple items)
  | set {v : Value} {items : List Value} (hv : v ∈ items) (h : v.HasLong) : HasLong (.set items)
  | key {e : Value × Value} {entries : List (Value × Value)} (he : e ∈ entries)
      (h : e.1.HasLong) : HasLong (.map entries)
  | entry {e : Value × Value} {entries : List (Value × Value)} (he : e ∈ entries)
      (h : e.2.HasLong) : HasLong (.map entries)

mutual

theorem Value.hasLong_of_literal? {v : Value} (h : v.literal? = none) : v.HasLong := by
  match v with
  | .null | .bool _ | .float _ | .str _ | .bytes _ | .date _ | .dateTime _ => cases h
  | .int n =>
    unfold literal? intText? at h
    split at h
    · cases h
    · rename_i hlong
      exact .int (Nat.lt_of_not_le hlong)
  | .list items =>
    unfold literal? at h
    obtain ⟨v, hv, hl⟩ := hasLong_of_literals? (Option.map_eq_none_iff.1 h)
    exact .list hv hl
  | .tuple items =>
    unfold literal? at h
    obtain ⟨v, hv, hl⟩ := hasLong_of_literals? (Option.map_eq_none_iff.1 h)
    exact .tuple hv hl
  | .set items =>
    unfold literal? at h
    obtain ⟨v, hv, hl⟩ := hasLong_of_literals? (Option.map_eq_none_iff.1 h)
    exact .set hv hl
  | .map entries =>
    unfold literal? at h
    obtain ⟨e, he, hk | hv⟩ := hasLong_of_entryLiterals? (Option.map_eq_none_iff.1 h)
    · exact .key he hk
    · exact .entry he hv

theorem Value.hasLong_of_literals? {vs : List Value} (h : literals? vs = none) :
    ∃ v ∈ vs, v.HasLong := by
  match vs with
  | [] => cases h
  | v :: vs =>
    unfold literals? at h
    cases hv : v.literal? with
    | none => exact ⟨v, List.mem_cons_self, hasLong_of_literal? hv⟩
    | some t =>
      cases hvs : literals? vs with
      | none =>
        obtain ⟨w, hw, hl⟩ := hasLong_of_literals? hvs
        exact ⟨w, List.mem_cons_of_mem _ hw, hl⟩
      | some ts =>
        rw [hv, hvs] at h
        cases h

theorem Value.hasLong_of_entryLiterals? {es : List (Value × Value)} (h : entryLiterals? es = none) :
    ∃ e ∈ es, e.1.HasLong ∨ e.2.HasLong := by
  match es with
  | [] => cases h
  | (k, v) :: es =>
    unfold entryLiterals? at h
    cases hk : k.literal? with
    | none => exact ⟨(k, v), List.mem_cons_self, .inl (hasLong_of_literal? hk)⟩
    | some kt =>
      cases hv : v.literal? with
      | none => exact ⟨(k, v), List.mem_cons_self, .inr (hasLong_of_literal? hv)⟩
      | some vt =>
        cases hes : entryLiterals? es with
        | none =>
          obtain ⟨e, he, hl⟩ := hasLong_of_entryLiterals? hes
          exact ⟨e, List.mem_cons_of_mem _ he, hl⟩
        | some ts =>
          rw [hk, hv, hes] at h
          cases h

end

theorem Value.hasLong_of_text? {v : Value} (h : v.text? = none) : v.HasLong := by
  unfold text? at h
  split at h
  · cases h
  · cases h
  · cases h
  · exact hasLong_of_literal? h

/-- An expression stands in a text that a value holds. -/
inductive Value.Mentions (expr : String) : Value → Prop
  | whole {s : String} (h : Piece.reference? (Text.strip s.toList) = some (expr, [])) :
      Mentions expr (.str s)
  | part {s : String} (h : .reference expr ∈ Piece.ofText s) : Mentions expr (.str s)
  | item {v : Value} {items : List Value} (hv : v ∈ items) (h : v.Mentions expr) :
      Mentions expr (.list items)
  | entry {e : Value × Value} {entries : List (Value × Value)} (he : e ∈ entries)
      (h : e.2.Mentions expr) : Mentions expr (.map entries)

def Run.Mentions (expr : String) (r : Run) : Prop :=
  ∃ v ∈ [r.params.query.value, r.params.form.value, r.params.path.value, r.params.header.value,
    r.params.body.value, r.path], v.Mentions expr

namespace Reference

/-- An index that counts as digits and is no number: a digit sign has no value, and a number can be
too long. -/
def BadIndex (part : String) : Prop :=
  isIndex part ∧
    (Numeral.digitLimit < part.toList.length ∨ ∃ c ∈ part.toList, Text.decimalValue? c = none)

/-- An expression with an index that is no number, or whose value has a number that is too long. -/
def Untakeable (h : History) (expr : String) : Prop :=
  (∃ part ∈ (Text.cutAt '.' expr.toList).map String.ofList, BadIndex part) ∨
    ∃ v, lookup h expr = .ok v ∧ v.HasLong

theorem badIndex_of_digits? {part : String} (hindex : isIndex part)
    (h : Numeral.digits? part.toList = none) : BadIndex part := by
  refine ⟨hindex, ?_⟩
  unfold Numeral.digits? at h
  split at h
  · rename_i hc
    obtain he | hl := Bool.or_eq_true_iff.1 hc
    · unfold isIndex at hindex
      rw [List.isEmpty_iff, String.toList_eq_nil_iff] at he
      subst he
      cases hindex
    · exact .inl (of_decide_eq_true hl)
  · exact .inr (mapM_eq_none (Option.map_eq_none_iff.1 h))

theorem follow_error {expr part : String} {v : Value} {f : Fault}
    (h : follow expr part v = .error f) : f.OfReference (BadIndex part) := by
  unfold follow at h
  split at h
  · rw [elim_eq_error h]
    trivial
  · split at h
    · rename_i hindex
      split at h
      · rename_i hdigits
        cases h
        exact badIndex_of_digits? hindex hdigits
      · rw [elim_eq_error h]
        trivial
    · cases h
      trivial
  · cases h
    trivial

theorem walk_error {expr : String} {path : List String} {v : Value} {f : Fault}
    (h : walk expr path v = .error f) : f.OfReference (∃ part ∈ path, BadIndex part) := by
  induction path generalizing v with
  | nil => cases h
  | cons part path ih =>
    unfold walk at h
    split at h
    · exact (ih h).imp fun ⟨p, hp, hbad⟩ => ⟨p, List.mem_cons_of_mem _ hp, hbad⟩
    · rename_i hf
      cases h
      exact (follow_error hf).imp fun hbad => ⟨part, List.mem_cons_self, hbad⟩

theorem inputs_error {expr : String} {r : Run} {path : List String} {f : Fault}
    (h : inputs expr r path = .error f) : f.OfReference (∃ part ∈ path, BadIndex part) := by
  unfold inputs at h
  split at h
  · cases h
    trivial
  · split at h
    · exact (walk_error h).imp fun ⟨p, hp, hbad⟩ => ⟨p, List.mem_cons_of_mem _ hp, hbad⟩
    · cases h
      trivial

theorem lookup_error {h : History} {expr : String} {f : Fault} (hl : lookup h expr = .error f) :
    f.OfReference (∃ part ∈ (Text.cutAt '.' expr.toList).map String.ofList, BadIndex part) := by
  unfold lookup at hl
  split at hl
  · rename_i path hparts
    have hrest : (∃ part ∈ path, BadIndex part) →
        ∃ part ∈ (Text.cutAt '.' expr.toList).map String.ofList, BadIndex part := by
      rintro ⟨part, hp, hbad⟩
      rw [hparts]
      exact ⟨part, List.mem_cons_of_mem _ (List.mem_cons_of_mem _ hp), hbad⟩
    split at hl
    · cases hl
      trivial
    · split at hl
      · exact (walk_error hl).imp hrest
      · exact (inputs_error hl).imp hrest
      · cases hl
        trivial
  · cases hl
    trivial

theorem pieceTexts_error {h : History} {ps : List Piece} {f : Fault}
    (hp : pieceTexts h ps = .error f) :
    f.OfReference (∃ expr, .reference expr ∈ ps ∧ Untakeable h expr) := by
  induction ps with
  | nil => cases hp
  | cons p ps ih =>
    have hrest : (∃ expr, .reference expr ∈ ps ∧ Untakeable h expr) →
        ∃ expr, .reference expr ∈ p :: ps ∧ Untakeable h expr :=
      fun ⟨expr, hm, hu⟩ => ⟨expr, List.mem_cons_of_mem _ hm, hu⟩
    cases p with
    | char c => exact (ih (map_eq_error hp)).imp hrest
    | reference expr =>
      unfold pieceTexts at hp
      split at hp
      · rename_i hl
        cases hp
        exact (lookup_error hl).imp fun hbad => ⟨expr, List.mem_cons_self, .inl hbad⟩
      · rename_i v hl
        split at hp
        · rename_i ht
          cases hp
          exact ⟨expr, List.mem_cons_self, .inr ⟨v, hl, Value.hasLong_of_text? ht⟩⟩
        · exact (ih (map_eq_error hp)).imp hrest

theorem resolveText_error {h : History} {s : String} {f : Fault}
    (hr : resolveText h s = .error f) :
    f.OfReference (∃ expr, (Value.str s).Mentions expr ∧ Untakeable h expr) := by
  unfold resolveText at hr
  split at hr
  · rename_i expr hwhole
    exact (lookup_error hr).imp fun hbad => ⟨expr, .whole hwhole, .inl hbad⟩
  · exact (pieceTexts_error (map_eq_error hr)).imp fun ⟨expr, hm, hu⟩ => ⟨expr, .part hm, hu⟩

mutual

theorem resolve_error {h : History} {v : Value} {f : Fault} (hr : resolve h v = .error f) :
    f.OfReference (∃ expr, v.Mentions expr ∧ Untakeable h expr) := by
  unfold resolve at hr
  split at hr
  · exact resolveText_error hr
  · exact (resolveItems_error (map_eq_error hr)).imp
      fun ⟨expr, ⟨v, hv, hm⟩, hu⟩ => ⟨expr, .item hv hm, hu⟩
  · exact (resolveEntries_error (map_eq_error hr)).imp
      fun ⟨expr, ⟨e, he, hm⟩, hu⟩ => ⟨expr, .entry he hm, hu⟩
  · cases hr

theorem resolveItems_error {h : History} {vs : List Value} {f : Fault}
    (hr : resolveItems h vs = .error f) :
    f.OfReference (∃ expr, (∃ v ∈ vs, v.Mentions expr) ∧ Untakeable h expr) := by
  match vs with
  | [] => cases hr
  | v :: vs =>
    unfold resolveItems at hr
    split at hr
    · rename_i hv
      cases hr
      exact (resolve_error hv).imp fun ⟨expr, hm, hu⟩ => ⟨expr, ⟨v, List.mem_cons_self, hm⟩, hu⟩
    · exact (resolveItems_error (map_eq_error hr)).imp
        fun ⟨expr, ⟨w, hw, hm⟩, hu⟩ => ⟨expr, ⟨w, List.mem_cons_of_mem _ hw, hm⟩, hu⟩

theorem resolveEntries_error {h : History} {es : List (Value × Value)} {f : Fault}
    (hr : resolveEntries h es = .error f) :
    f.OfReference (∃ expr, (∃ e ∈ es, e.2.Mentions expr) ∧ Untakeable h expr) := by
  match es with
  | [] => cases hr
  | (k, v) :: es =>
    unfold resolveEntries at hr
    split at hr
    · rename_i hv
      cases hr
      exact (resolve_error hv).imp
        fun ⟨expr, hm, hu⟩ => ⟨expr, ⟨(k, v), List.mem_cons_self, hm⟩, hu⟩
    · exact (resolveEntries_error (map_eq_error hr)).imp
        fun ⟨expr, ⟨e, he, hm⟩, hu⟩ => ⟨expr, ⟨e, List.mem_cons_of_mem _ he, hm⟩, hu⟩

end

theorem resolveSlot_error {h : History} {s : Slot} {f : Fault}
    (hr : resolveSlot h s = .error f) :
    f.OfReference (∃ expr, s.value.Mentions expr ∧ Untakeable h expr) := by
  obtain ⟨e, he, hf⟩ := Dict.mapValuesM_eq_error hr
  have hentry : (Value.str e.1, e.2) ∈ s.entries.map fun e => (Value.str e.1, e.2) :=
    List.mem_map_of_mem he
  exact (resolve_error hf).imp fun ⟨expr, hm, hu⟩ => ⟨expr, .entry hentry hm, hu⟩

theorem resolveBody_error {h : History} {b : Body} {f : Fault}
    (hr : resolveBody h b = .error f) :
    f.OfReference (∃ expr, b.value.Mentions expr ∧ Untakeable h expr) := by
  unfold resolveBody at hr
  split at hr
  · cases hr
  · exact resolve_error (map_eq_error hr)

/-- A stage at which the rest of a run is as it was, and what has gone wrong takes `P`. -/
structure Progress.Awaits {α : Type} (P : Prop) (rest : Run → α) (r : Run) (p : Progress) :
    Prop where
  rest : rest p.1 = rest r
  fault : ∀ f, p.2 = some f → f.OfReference P

theorem Progress.Awaits.next {α β γ : Type} {P : Prop} {r : Run} {p : Progress} {get : Run → α}
    {rest : Run → β} {part : α → Except Fault γ} {put : Run → γ → Run}
    (hp : p.Awaits P (fun q => (get q, rest q)) r) (hput : ∀ q a, rest (put q a) = rest q)
    (hpart : ∀ f, part (get r) = .error f → f.OfReference P) :
    (p.next (fun q => part (get q)) put).Awaits P rest r := by
  obtain ⟨q, _ | f⟩ := p
  · obtain ⟨hget, hrest⟩ := Prod.mk.inj hp.rest
    dsimp only at hget hrest
    unfold Progress.next
    dsimp only
    rw [hget]
    split
    · exact ⟨(hput q _).trans hrest, nofun⟩
    · rename_i f hf
      refine ⟨hrest, fun g hg => ?_⟩
      cases hg
      exact hpart f hf
  · exact ⟨(Prod.mk.inj hp.rest).2, hp.fault⟩

/-- What keeps the references of a run from being resolved is that one of them has no value, or that
one that it mentions has a value that cannot be taken. -/
theorem resolveRun_error {h : History} {r r' : Run} {f : Fault}
    (hr : resolveRun h r = (r', some f)) :
    f.OfReference (∃ expr, r.Mentions expr ∧ Untakeable h expr) := by
  have hmention : ∀ {v : Value}, v ∈ [r.params.query.value, r.params.form.value,
      r.params.path.value, r.params.header.value, r.params.body.value, r.path] →
      (∃ expr, v.Mentions expr ∧ Untakeable h expr) → ∃ expr, r.Mentions expr ∧ Untakeable h expr :=
    fun hv ⟨expr, hm, hu⟩ => ⟨expr, ⟨_, hv, hm⟩, hu⟩
  have hall : (resolveRun h r).Awaits (∃ expr, r.Mentions expr ∧ Untakeable h expr)
      (fun _ => ()) r := by
    refine .next ?_ (fun _ _ => rfl) fun _ hf => (resolve_error hf).imp (hmention (by simp))
    refine .next ?_ (fun _ _ => rfl) fun _ hf => (resolveBody_error hf).imp (hmention (by simp))
    refine .next ?_ (fun _ _ => rfl) fun _ hf => (resolveSlot_error hf).imp (hmention (by simp))
    refine .next ?_ (fun _ _ => rfl) fun _ hf => (resolveSlot_error hf).imp (hmention (by simp))
    refine .next ?_ (fun _ _ => rfl) fun _ hf => (resolveSlot_error hf).imp (hmention (by simp))
    refine .next ?_ (fun _ _ => rfl) fun _ hf => (resolveSlot_error hf).imp (hmention (by simp))
    exact ⟨rfl, nofun⟩
  exact hall.fault f (by rw [hr])

end Reference

end Runbook
