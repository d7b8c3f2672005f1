import Runbook.Proofs.Number.Binary64
import Runbook.Value

namespace Runbook

namespace Binary64

def kind (x : Binary64) : Int ⊕ Binary64 := x.toInt?.elim (.inr x) .inl

theorem kind_eq_inl_iff {x : Binary64} {n : Int} : x.kind = .inl n ↔ x.toInt? = some n := by
  cases h : x.toInt? <;> simp [kind, h]

theorem kind_eq_iff {x y : Binary64} :
    x.kind = y.kind ↔ x = y ∨ ∃ n, x.toInt? = some n ∧ y.toInt? = some n := by
  constructor
  · intro h
    cases hx : x.toInt? with
    | some n =>
      have hkind := kind_eq_inl_iff.2 hx
      exact .inr ⟨n, rfl, kind_eq_inl_iff.1 (h ▸ hkind)⟩
    | none =>
      cases hy : y.toInt? with
      | some n => simp [kind, hx, hy] at h
      | none => exact .inl (by simpa [kind, hx, hy] using h)
  · rintro (rfl | ⟨n, hx, hy⟩)
    · rfl
    · rw [kind_eq_inl_iff.2 hx, kind_eq_inl_iff.2 hy]

/-- Numbers that are not zero have the same value only if they are written in the same way. -/
theorem same_iff {x y : Binary64} : x.same y = true ↔ x.kind = y.kind := by
  rw [kind_eq_iff]
  cases x with
  | finite s m =>
    cases y with
    | finite t n =>
      simp only [same, Bool.or_eq_true, Bool.and_eq_true, Magnitude.isZero_iff_units, beq_iff_eq,
        decide_eq_true_eq, finite.injEq, toInt?_eq_some_iff, units?, Option.some.injEq]
      generalize Magnitude.unitsPerOne = one
      constructor
      · rintro (⟨hm, hn⟩ | ⟨rfl, rfl⟩)
        · exact .inr ⟨0, by simp [hm], by simp [hn]⟩
        · exact .inl ⟨rfl, rfl⟩
      · rintro (⟨rfl, rfl⟩ | ⟨k, hm, hn⟩)
        · exact .inr ⟨rfl, rfl⟩
        · rw [← hn] at hm
          -- With one sign they have as many units, with two signs they have none.
          cases s <;> cases t <;> simp only [if_true, Bool.false_eq_true, if_false] at hm
          · exact .inr ⟨rfl, Magnitude.units_inj (by omega)⟩
          · exact .inl (by omega)
          · exact .inl (by omega)
          · exact .inr ⟨rfl, Magnitude.units_inj (by omega)⟩
    | _ => simp [same, toInt?]
  | _ => simp [same, toInt?]

end Binary64

namespace Value

/-- What a value is as a key: a number without a fraction is the whole number of this value. -/
inductive Key where
  | null
  | number (n : Int ⊕ Binary64)
  | str (s : String)
  | bytes (data : List UInt8)
  | date (d : Date)
  | time (zoned : Bool) (instant : Int)
  | tuple (keys : List Key)

mutual

def key? : Value → Option Key
  | null => some .null
  | bool b => some (.number (.inl (if b then 1 else 0)))
  | int n => some (.number (.inl n))
  | float x => some (.number x.kind)
  | str s => some (.str s)
  | bytes data => some (.bytes data)
  | date d => some (.date d)
  | dateTime t => some (.time t.offset.isSome t.instant)
  | tuple items => (keys? items).map .tuple
  | list _ => none
  | map _ => none
  | set _ => none

def keys? : List Value → Option (List Key)
  | [] => some []
  | v :: vs =>
    match key? v, keys? vs with
    | some k, some ks => some (k :: ks)
    | _, _ => none

end

theorem key?_eq_whole_iff {v : Value} {n : Int} :
    v.key? = some (.number (.inl n)) ↔ v.whole? = some n := by
  cases v <;> simp [key?, whole?, Binary64.kind_eq_inl_iff]

mutual

theorem isSome_key? : (v : Value) → v.key?.isSome = v.isKey
  | null => rfl
  | bool _ => rfl
  | int _ => rfl
  | float _ => rfl
  | str _ => rfl
  | bytes _ => rfl
  | date _ => rfl
  | dateTime _ => rfl
  | list _ => rfl
  | map _ => rfl
  | set _ => rfl
  | tuple items => by
    rw [key?, isKey, Option.isSome_map, isSome_keys? items]

theorem isSome_keys? : (vs : List Value) → (keys? vs).isSome = areKeys vs
  | [] => rfl
  | v :: vs => by
    rw [areKeys, ← isSome_key? v, ← isSome_keys? vs, keys?]
    cases key? v <;> cases keys? vs <;> rfl

end

mutual

theorem same_iff : {a : Value} → a.isKey = true → (b : Value) →
    (a.same b = true ↔ a.key? = b.key?)
  | null, _, b => by cases b <;> simp [same, key?]
  | bool x, _, b => by
    rw [same, beq_iff_eq, ← key?_eq_whole_iff, key?]
    exact eq_comm
  | int n, _, b => by
    rw [same, beq_iff_eq, ← key?_eq_whole_iff, key?]
    exact eq_comm
  | float x, _, b => by
    cases b with
    | float y => simp [same, key?, Binary64.same_iff]
    | _ => simp [same, key?, Binary64.kind_eq_inl_iff]
  | str s, _, b => by cases b <;> simp [same, key?]
  | bytes data, _, b => by cases b <;> simp [same, key?]
  | date d, _, b => by cases b <;> simp [same, key?]
  | dateTime t, _, b => by cases b <;> simp [same, key?, DateTime.same]
  | list _, h, _ => nomatch h
  | map _, h, _ => nomatch h
  | set _, h, _ => nomatch h
  | tuple items, h, b => by
    obtain ⟨ks, hks⟩ := Option.isSome_iff_exists.1 ((isSome_keys? items).trans h)
    cases b with
    | tuple others =>
      rw [same, sameItems_iff h others, key?, key?, hks]
      cases keys? others <;> simp
    | _ => simp [same, key?, hks]

theorem sameItems_iff : {as : List Value} → areKeys as = true → (bs : List Value) →
    (sameItems as bs = true ↔ keys? as = keys? bs)
  | [], _, [] => by simp [sameItems]
  | [], _, b :: bs => by
    cases hb : key? b <;> cases hbs : keys? bs <;> simp [sameItems, keys?, hb, hbs]
  | a :: as, h, bs => by
    obtain ⟨ha, has⟩ := (Bool.and_eq_true _ _).mp h
    obtain ⟨k, hk⟩ := Option.isSome_iff_exists.1 ((isSome_key? a).trans ha)
    obtain ⟨ks, hks⟩ := Option.isSome_iff_exists.1 ((isSome_keys? as).trans has)
    cases bs with
    | nil => simp [sameItems, keys?, hk, hks]
    | cons b bs =>
      rw [sameItems, Bool.and_eq_true, same_iff ha b, sameItems_iff has bs, keys?, keys?, hk, hks]
      cases key? b <;> cases keys? bs <;> simp

end

end Value

end Runbook
