import Runbook.Params
import Runbook.Proofs.Dict.Merging
import Runbook.Proofs.Value.Key

namespace Runbook

/-- What may be a key is equal to the same keys as every key that it is equal to. -/
theorem Value.proper_of_isKey {k : Value} (h : k.isKey = true) : Dict.Proper k where
  refl := (same_iff h k).2 rfl
  congr x hx y := by
    have hkey : k.key? = x.key? := (same_iff h x).1 hx
    have hxkey : x.isKey = true := by rw [← isSome_key?, ← hkey, isSome_key?, h]
    refine Bool.eq_iff_iff.2 ?_
    exact (same_iff h y).trans (hkey ▸ (same_iff hxkey y).symm)

namespace Body

def Keyed : Body → Prop
  | mapping d => ∀ k ∈ d.keys, k.isKey = true
  | _ => True

instance : (b : Body) → Decidable b.Keyed
  | mapping d => inferInstanceAs (Decidable (∀ k ∈ d.keys, k.isKey = true))
  | absent => .isTrue trivial
  | scalar _ => .isTrue trivial

theorem Keyed.sound {d : Dict Value Value} (h : (mapping d).Keyed) : d.Sound :=
  fun k hk => Value.proper_of_isKey (h k hk)

/-- A body over another one: of two mappings all entries, where those of the upper one win, or else
the upper one alone. -/
inductive Over : Body → Body → Body → Prop
  | merged {upper lower d : Dict Value Value}
    (hkeys : d.keys = lower.keys ++ upper.keys.filter fun k => !lower.contains k)
    (hget : ∀ k, d.get? k = (upper.get? k).or (lower.get? k)) :
    Over (.mapping upper) (.mapping lower) (.mapping d)
  | replaced {upper lower : Body} (h : (upper.isMapping && lower.isMapping) = false) :
    Over upper lower upper

/-- A body filled from another one: of two mappings all entries, where those that are there win, an
absent body from the other one, and else the body that is there. -/
inductive Filled : Body → Body → Body → Prop
  | merged {fallback own d : Dict Value Value}
    (hkeys : d.keys = own.keys ++ fallback.keys.filter fun k => !own.contains k)
    (hget : ∀ k, d.get? k = (own.get? k).or (fallback.get? k)) :
    Filled (.mapping fallback) (.mapping own) (.mapping d)
  | open (fallback : Body) : Filled fallback .absent fallback
  | kept {fallback own : Body} (hown : own.isAbsent = false)
    (h : (fallback.isMapping && own.isMapping) = false) : Filled fallback own own

theorem over_copyFrom {upper lower : Body} (hu : upper.Keyed) (hl : lower.Keyed) :
    Over upper lower (lower.copyFrom upper) := by
  cases lower with
  | mapping a =>
    cases upper with
    | mapping b => exact .merged (Dict.keys_combine a b) (Dict.get?_combine hl.sound hu.sound)
    | _ => exact .replaced rfl
  | _ => exact .replaced (Bool.and_false _)

theorem filled_addFrom {fallback own : Body} (hf : fallback.Keyed) (ho : own.Keyed) :
    Filled fallback own (own.addFrom fallback) := by
  cases own with
  | absent => exact .open _
  | scalar v => exact .kept rfl (Bool.and_false _)
  | mapping a =>
    cases fallback with
    | mapping b => exact .merged (Dict.keys_fill a b) (Dict.get?_fill ho.sound hf.sound)
    | _ => exact .kept rfl rfl

theorem Keyed.copyFrom {upper lower : Body} (hu : upper.Keyed) (hl : lower.Keyed) :
    (lower.copyFrom upper).Keyed := by
  cases lower with
  | mapping a =>
    cases upper with
    | mapping b =>
      intro k hk
      rw [Dict.keys_combine] at hk
      exact (List.mem_append.1 hk).elim (hl k) fun hk => hu k (List.mem_filter.1 hk).1
    | _ => exact hu
  | _ => exact hu

end Body

namespace Params

def slots : List (Params → Slot) := [query, form, path, header]

variable {slot : Params → Slot}

theorem slot_copyFrom (hslot : slot ∈ slots) (p q : Params) :
    slot (p.copyFrom q) = (slot p).combine (slot q) := by
  simp only [slots, List.mem_cons, List.not_mem_nil, or_false] at hslot
  rcases hslot with rfl | rfl | rfl | rfl <;> rfl

theorem slot_addFrom (hslot : slot ∈ slots) (p q : Params) :
    slot (p.addFrom q) = (slot p).fill (slot q) := by
  simp only [slots, List.mem_cons, List.not_mem_nil, or_false] at hslot
  rcases hslot with rfl | rfl | rfl | rfl <;> rfl

end Params

end Runbook
