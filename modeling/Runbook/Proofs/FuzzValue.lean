import Mathlib.Data.List.Nodup
import Mathlib.Data.List.Perm.Basic
import Runbook.FuzzValue
import Runbook.Proofs.Json.Reading
import Runbook.Proofs.Value.Json

namespace Runbook

namespace Json

def whole? : Json → Option Int
  | .int n => some n
  | .float x => x.toInt?
  | _ => none

/-- Documents that say the same. The entries of one mapping may stand in another order than those of
the other, and a number without a fraction may be written as a whole one. -/
inductive Alike : Json → Json → Prop
  | null : Alike .null .null
  | bool (b : Bool) : Alike (.bool b) (.bool b)
  | whole {j k : Json} {n : Int} (hj : j.whole? = some n) (hk : k.whole? = some n) : Alike j k
  | float (x : Binary64) : Alike (.float x) (.float x)
  | str (s : String) : Alike (.str s) (.str s)
  | list {js ks : List Json} (h : List.Forall₂ Alike js ks) : Alike (.list js) (.list ks)
  | map {es fs gs : List (String × Json)} (hperm : gs.Perm fs)
    (hkeys : es.map (·.1) = gs.map (·.1))
    (h : List.Forall₂ Alike (es.map (·.2)) (gs.map (·.2))) : Alike (.map es) (.map fs)

def sorted (es : List (String × Json)) : List (String × Json) :=
  (Value.sortEntries (es.map fun e => (Value.str e.1, e))).map (·.2)

mutual

/-- A document with its entries sorted by key and without a fraction where there is none. -/
def canonical : Json → Json
  | .float x => x.toInt?.elim (.float x) .int
  | .list js => .list (canonicals js)
  | .map es => .map (sorted (canonicalEntries es))
  | j => j

def canonicals : List Json → List Json
  | [] => []
  | j :: js => canonical j :: canonicals js

def canonicalEntries : List (String × Json) → List (String × Json)
  | [] => []
  | (k, j) :: es => (k, canonical j) :: canonicalEntries es

end

theorem canonicals_eq_map (js : List Json) : canonicals js = js.map canonical := by
  induction js with
  | nil => rfl
  | cons j js ih => simp [canonicals, ih]

theorem canonicalEntries_eq_map (es : List (String × Json)) :
    canonicalEntries es = es.map fun e => (e.1, canonical e.2) := by
  induction es with
  | nil => rfl
  | cons e es ih => simp [canonicalEntries, ih]

section Sorting

variable {es fs : List (String × Json)}

theorem insertEntry_perm {α : Type} (e : Value × α) (es : List (Value × α)) :
    (Value.insertEntry e es).Perm (e :: es) := by
  induction es with
  | nil => exact .refl _
  | cons x es ih =>
    rw [Value.insertEntry]
    split
    · exact .refl _
    · exact (ih.cons x).trans (.swap e x es)

theorem foldl_insertEntry_perm {α : Type} (es start : List (Value × α)) :
    (es.foldl (fun sorted e => Value.insertEntry e sorted) start).Perm (start ++ es) := by
  induction es generalizing start with
  | nil => simp
  | cons e es ih =>
    refine (ih _).trans (((insertEntry_perm e start).append_right es).trans ?_)
    exact List.perm_middle.symm

theorem sorted_perm (es : List (String × Json)) : (sorted es).Perm es := by
  have hperm := (foldl_insertEntry_perm (es.map fun e => (Value.str e.1, e)) []).map (·.2)
  simpa [sorted, Value.sortEntries, Function.comp_def] using hperm

/-- Entries that are sorted by their own keys. -/
structure Ascending (es : List (Value × String × Json)) : Prop where
  keyed : ∀ e ∈ es, e.1 = .str e.2.1
  pairwise : es.Pairwise fun a b => a.2.1 ≤ b.2.1

theorem Ascending.insertEntry {e : String × Json} {es : List (Value × String × Json)}
    (h : Ascending es) : Ascending (Value.insertEntry (.str e.1, e) es) := by
  have hmem {x : Value × String × Json} {es : List (Value × String × Json)} :
      x ∈ Value.insertEntry (.str e.1, e) es ↔ x = (.str e.1, e) ∨ x ∈ es := by
    rw [(insertEntry_perm _ _).mem_iff, List.mem_cons]
  refine ⟨fun x hx => ?_, ?_⟩
  · rcases hmem.1 hx with rfl | hx
    · rfl
    · exact h.keyed x hx
  · obtain ⟨hkeyed, hpairwise⟩ := h
    induction es with
    | nil => exact List.pairwise_singleton _ _
    | cons x es ih =>
      obtain ⟨hx, hes⟩ := List.pairwise_cons.1 hpairwise
      obtain ⟨hkey, hkeys⟩ := List.forall_mem_cons.1 hkeyed
      have hless : Value.keyLess (.str e.1) x.1 = decide (e.1 < x.2.1) := by
        rw [hkey]
        rfl
      simp only [Value.insertEntry, hless, decide_eq_true_eq]
      by_cases hlt : e.1 < x.2.1
      · rw [if_pos hlt]
        refine List.pairwise_cons.2 ⟨fun y hy => ?_, hpairwise⟩
        have hle : e.1 ≤ x.2.1 := Std.le_of_lt hlt
        rcases List.mem_cons.1 hy with rfl | hy
        · exact hle
        · exact String.le_trans hle (hx y hy)
      · rw [if_neg hlt]
        refine List.pairwise_cons.2 ⟨fun y hy => ?_, ih hkeys hes⟩
        rcases hmem.1 hy with rfl | hy
        · exact String.not_lt.1 hlt
        · exact hx y hy

theorem sorted_pairwise (es : List (String × Json)) :
    (sorted es).Pairwise fun a b => a.1 ≤ b.1 := by
  have hfold {start : List (Value × String × Json)} (hstart : Ascending start) :
      Ascending ((es.map fun e => (Value.str e.1, e)).foldl
        (fun sorted e => Value.insertEntry e sorted) start) := by
    induction es generalizing start with
    | nil => exact hstart
    | cons e es ih => exact ih hstart.insertEntry
  have hempty : Ascending [] := ⟨by simp, .nil⟩
  exact List.pairwise_map.2 (hfold hempty).pairwise

theorem sorted_eq_iff (hes : (es.map (·.1)).Nodup) : sorted es = sorted fs ↔ es.Perm fs := by
  constructor
  · intro h
    exact ((sorted_perm es).symm.trans (.of_eq h)).trans (sorted_perm fs)
  · intro h
    have hperm := ((sorted_perm es).trans h).trans (sorted_perm fs).symm
    refine hperm.eq_of_pairwise (fun a b ha hb hab hba => ?_) (sorted_pairwise es)
      (sorted_pairwise fs)
    have ha := (sorted_perm es).mem_iff.1 ha
    have hb := h.mem_iff.2 ((sorted_perm fs).mem_iff.1 hb)
    exact List.inj_on_of_nodup_map hes ha hb (String.le_antisymm hab hba)

end Sorting

section Canonical

variable {d e : Nat} {j k : Json}

theorem length_toNat? {m : Magnitude} {n : Nat} (h : m.toNat? = some n) :
    (natDigits n).length ≤ Numeral.digitLimit := by
  have hlimit : 342 ≤ Numeral.digitLimit := by decide
  generalize Numeral.digitLimit = limit at hlimit ⊢
  refine (Nat.length_toDigits_le_iff (by decide) (by omega)).2 ?_
  have hlt := m.units_lt hlimit
  rw [Magnitude.toNat?_eq_some_iff.1 h] at hlt
  exact Nat.lt_of_mul_lt_mul_right hlt

theorem length_toInt? {x : Binary64} {n : Int} (h : x.toInt? = some n) :
    (natDigits n.natAbs).length ≤ Numeral.digitLimit := by
  cases x with
  | finite s m =>
    obtain ⟨i, hi, rfl⟩ := Option.map_eq_some_iff.1 ((Binary64.toInt?_finite s m).symm.trans h)
    have habs : (if s then -(i : Int) else i).natAbs = i := by cases s <;> simp
    rw [habs]
    exact length_toNat? hi
  | _ => cases h

theorem Readable.canonical (h : j.Readable d) : j.canonical.Readable d := by
  induction h with
  | null => exact .null
  | bool b => exact .bool b
  | int h => exact .int h
  | float s m =>
    rw [Json.canonical]
    cases hx : (Binary64.finite s m).toInt? with
    | none => exact .float s m
    | some n => exact .int (length_toInt? hx)
  | str s => exact .str s
  | emptyList => exact .emptyList
  | emptyMap => exact .emptyMap
  | list h ih =>
    rw [Json.canonical, canonicals_eq_map]
    exact .list (List.forall_mem_map.2 ih)
  | @map d es hkeys h ih =>
    have hperm := sorted_perm (canonicalEntries es)
    rw [Json.canonical]
    refine .map ?_ fun e he => ?_
    · rw [(hperm.map _).nodup_iff, canonicalEntries_eq_map]
      simpa [Function.comp_def] using hkeys
    · rw [hperm.mem_iff, canonicalEntries_eq_map] at he
      obtain ⟨e', he', rfl⟩ := List.mem_map.1 he
      exact ih e' he'

def isWord : Json → Bool
  | .null => true
  | .bool _ => true
  | .str _ => true
  | _ => false

theorem canonical_float (x : Binary64) :
    (∃ n, x.toInt? = some n ∧ (Json.float x).canonical = .int n) ∨
      x.toInt? = none ∧ (Json.float x).canonical = .float x := by
  rw [Json.canonical]
  cases x.toInt? <;> simp

theorem canonical_eq_iff_of_isWord (h : j.isWord = true) : k.canonical = j ↔ k = j := by
  cases k with
  | float x => rcases canonical_float x with ⟨n, -, hx⟩ | ⟨-, hx⟩ <;> cases j <;> simp_all [isWord]
  | _ => cases j <;> simp_all [isWord, canonical]

theorem canonical_eq_int_iff {n : Int} : k.canonical = .int n ↔ k.whole? = some n := by
  cases k with
  | float x => rcases canonical_float x with ⟨m, hm, hx⟩ | ⟨hm, hx⟩ <;> simp [whole?, hm, hx]
  | _ => simp [canonical, whole?]

theorem canonical_eq_float_iff {x : Binary64} (h : x.toInt? = none) :
    k.canonical = .float x ↔ k = .float x := by
  cases k with
  | float y =>
    rcases canonical_float y with ⟨m, hm, hy⟩ | ⟨hm, hy⟩
    · simp only [hy, reduceCtorEq, false_iff, Json.float.injEq]
      rintro rfl
      simp [h] at hm
    · rw [hy]
  | _ => simp [canonical]

theorem canonical_eq_list_iff {js : List Json} :
    k.canonical = .list js ↔ ∃ ks, k = .list ks ∧ ks.map canonical = js := by
  cases k with
  | float x => rcases canonical_float x with ⟨n, -, hx⟩ | ⟨-, hx⟩ <;> simp [hx]
  | _ => simp [canonical, canonicals_eq_map]

theorem canonical_eq_map_iff {es : List (String × Json)} :
    k.canonical = .map es ↔ ∃ fs, k = .map fs ∧ sorted (canonicalEntries fs) = es := by
  cases k with
  | float x => rcases canonical_float x with ⟨n, -, hx⟩ | ⟨-, hx⟩ <;> simp [hx]
  | _ => simp [canonical]

end Canonical

section Alike

variable {d e : Nat} {j k : Json}

theorem alike_iff_of_isWord (h : j.isWord = true) : j.Alike k ↔ k = j := by
  constructor
  · intro hlike
    cases hlike with
    | whole hj hk => cases j <;> simp_all [isWord, whole?]
    | null | bool | str => rfl
    | float | list | map => cases h
  · rintro rfl
    cases k with
    | null => exact .null
    | bool b => exact .bool b
    | str s => exact .str s
    | int | float | list | map => cases h

theorem alike_iff_of_whole? {n : Int} (h : j.whole? = some n) :
    j.Alike k ↔ k.whole? = some n := by
  constructor
  · intro hlike
    cases hlike with
    | whole hj hk => rw [hk, ← hj, h]
    | float => exact h
    | null | bool | str | list | map => cases h
  · exact .whole h

theorem alike_float_iff {x : Binary64} (h : x.toInt? = none) : (Json.float x).Alike k ↔ k = .float x := by
  constructor
  · intro hlike
    cases hlike with
    | whole hj hk => cases h.symm.trans hj
    | float => rfl
  · rintro rfl
    exact .float x

theorem alike_list_iff {js : List Json} :
    (Json.list js).Alike k ↔ ∃ ks, k = .list ks ∧ List.Forall₂ Alike js ks := by
  constructor
  · intro h
    cases h with
    | whole hj hk => cases hj
    | list h => exact ⟨_, rfl, h⟩
  · rintro ⟨ks, rfl, h⟩
    exact .list h

theorem alike_map_iff {es : List (String × Json)} :
    (Json.map es).Alike k ↔ ∃ fs, k = .map fs ∧ ∃ gs : List (String × Json), gs.Perm fs ∧
      es.map (·.1) = gs.map (·.1) ∧ List.Forall₂ Alike (es.map (·.2)) (gs.map (·.2)) := by
  constructor
  · intro h
    cases h with
    | whole hj hk => cases hj
    | map hperm hkeys h => exact ⟨_, rfl, _, hperm, hkeys, h⟩
  · rintro ⟨fs, rfl, gs, hperm, hkeys, h⟩
    exact .map hperm hkeys h

theorem map_canonical_eq_iff {js ks : List Json}
    (h : ∀ j ∈ js, ∀ k, k.canonical = j.canonical ↔ j.Alike k) :
    ks.map canonical = js.map canonical ↔ List.Forall₂ Alike js ks := by
  induction js generalizing ks with
  | nil => simp
  | cons j js ih =>
    obtain ⟨hj, hjs⟩ := List.forall_mem_cons.1 h
    cases ks with
    | nil => simp
    | cons k ks => simp [hj, ih hjs]

theorem canonicalEntries_eq_iff {es gs : List (String × Json)} :
    canonicalEntries gs = canonicalEntries es ↔ es.map (·.1) = gs.map (·.1) ∧
      (gs.map (·.2)).map canonical = (es.map (·.2)).map canonical := by
  induction es generalizing gs with
  | nil => cases gs <;> simp [canonicalEntries]
  | cons e es ih =>
    cases gs with
    | nil => simp [canonicalEntries]
    | cons g gs =>
      simp only [canonicalEntries, List.cons.injEq, Prod.mk.injEq, ih, List.map_cons]
      rw [eq_comm (a := g.1)]
      tauto

/-- What is like entries of a mapping in turn is found by putting those of the other in order. -/
theorem canonicalEntries_perm_iff {es fs : List (String × Json)} :
    (canonicalEntries es).Perm (canonicalEntries fs) ↔
      ∃ gs : List (String × Json), gs.Perm fs ∧ canonicalEntries gs = canonicalEntries es := by
  simp only [canonicalEntries_eq_map]
  constructor
  · intro h
    have hmap : List.Forall₂ (fun e f => e = (f.1, canonical f.2))
        (fs.map fun e => (e.1, canonical e.2)) fs := by
      rw [List.forall₂_map_left_iff]
      exact List.forall₂_same.2 fun _ _ => rfl
    obtain ⟨gs, hgs, hperm⟩ := List.perm_comp_forall₂ h hmap
    have heq := List.forall₂_map_right_iff (R := Eq)
      (f := fun e : String × Json => (e.1, canonical e.2)) |>.2 hgs
    rw [List.forall₂_eq_eq_eq] at heq
    exact ⟨gs, hperm, heq.symm⟩
  · rintro ⟨gs, hperm, heq⟩
    rw [← heq]
    exact hperm.map _

theorem canonical_list_eq_iff {js : List Json}
    (h : ∀ j ∈ js, ∀ k, k.canonical = j.canonical ↔ j.Alike k) :
    k.canonical = (Json.list js).canonical ↔ (Json.list js).Alike k := by
  rw [canonical, canonicals_eq_map, canonical_eq_list_iff, alike_list_iff]
  simp only [map_canonical_eq_iff h]

theorem canonical_map_eq_iff {es : List (String × Json)} (hkeys : (es.map (·.1)).Nodup)
    (h : ∀ e ∈ es, ∀ k, k.canonical = e.2.canonical ↔ e.2.Alike k) :
    k.canonical = (Json.map es).canonical ↔ (Json.map es).Alike k := by
  have hvalues : ∀ j ∈ es.map (·.2), ∀ k, k.canonical = j.canonical ↔ j.Alike k :=
    List.forall_mem_map.2 h
  have hsorted : ((canonicalEntries es).map (·.1)).Nodup := by
    simpa [canonicalEntries_eq_map, Function.comp_def] using hkeys
  rw [canonical, canonical_eq_map_iff, alike_map_iff]
  refine exists_congr fun fs => and_congr_right fun _ => ?_
  rw [eq_comm, sorted_eq_iff hsorted, canonicalEntries_perm_iff]
  simp only [canonicalEntries_eq_iff, map_canonical_eq_iff hvalues]

/-- Two documents have one canonical form exactly if they are alike. -/
theorem canonical_eq_iff (hj : j.Readable d) : k.canonical = j.canonical ↔ j.Alike k := by
  -- Only a number without a fraction has a canonical form of another kind than its own.
  induction hj generalizing k with
  | null => exact (canonical_eq_iff_of_isWord rfl).trans (alike_iff_of_isWord rfl).symm
  | bool b => exact (canonical_eq_iff_of_isWord rfl).trans (alike_iff_of_isWord rfl).symm
  | str s => exact (canonical_eq_iff_of_isWord rfl).trans (alike_iff_of_isWord rfl).symm
  | int h => exact canonical_eq_int_iff.trans (alike_iff_of_whole? rfl).symm
  | float s m =>
    rcases canonical_float (.finite s m) with ⟨n, hn, hx⟩ | ⟨hn, hx⟩
    · rw [hx, canonical_eq_int_iff, alike_iff_of_whole? (j := .float (.finite s m)) hn]
    · rw [hx, canonical_eq_float_iff hn, alike_float_iff hn]
  | emptyList => exact canonical_list_eq_iff (List.forall_mem_nil _)
  | emptyMap => exact canonical_map_eq_iff List.nodup_nil (List.forall_mem_nil _)
  | list h ih => exact canonical_list_eq_iff fun j hj k => ih j hj
  | map hkeys h ih => exact canonical_map_eq_iff hkeys fun e he k => ih e he

end Alike

end Json

open Json

namespace Value

variable {d : Nat} {j : Json}

theorem toJson_list_canonical {js : List Json}
    (h : ∀ j ∈ js, (ofJson j).toJson FuzzValue.rules = .ok j.canonical) :
    (ofJson (.list js)).toJson FuzzValue.rules = .ok (Json.list js).canonical := by
  rw [ofJson, toJson, toJsons_ofJsons h, canonical, canonicals_eq_map]
  rfl

theorem toJson_map_canonical {es : List (String × Json)}
    (h : ∀ e ∈ es, (ofJson e.2).toJson FuzzValue.rules = .ok e.2.canonical) :
    (ofJson (.map es)).toJson FuzzValue.rules = .ok (Json.map es).canonical := by
  rw [ofJson, toJson, comparable_ofJsonEntries, Bool.not_true, Bool.and_false, if_neg (by simp),
    toJsonEntries_ofJsonEntries (g := canonical) (fun _ => rfl) h, canonical,
    canonicalEntries_eq_map, sorted, List.map_map]
  rfl

theorem toJson_canonical (h : j.Readable d) :
    (ofJson j).toJson FuzzValue.rules = .ok j.canonical := by
  induction h with
  | null | bool | float | str => rfl
  | int h => exact if_pos (isSome_intText? h)
  | emptyList => exact toJson_list_canonical (List.forall_mem_nil _)
  | emptyMap => exact toJson_map_canonical (List.forall_mem_nil _)
  | list h ih => exact toJson_list_canonical ih
  | map hkeys h ih => exact toJson_map_canonical ih

end Value

namespace FuzzValue

variable {d e : Nat} {j k : Json} {t u : String}

theorem style_plain : style.Plain where
  comma := ⟨1, rfl⟩
  colon := ⟨1, rfl⟩

theorem keyText_ofJson (h : j.Readable d) :
    keyText ⟨.ofJson j, t⟩ = .ok (style.text j.canonical) := by
  rw [keyText, Value.toJson_canonical h]
  rfl

theorem text_canonical_eq_iff (hj : j.Readable d) (hk : k.Readable e) :
    style.text j.canonical = style.text k.canonical ↔ j.Alike k := by
  rw [← canonical_eq_iff hj, eq_comm (a := k.canonical)]
  refine ⟨fun h => ?_, congrArg style.text⟩
  have hchars : style.chars j.canonical = style.chars k.canonical := String.ofList_injective h
  have hread : read none (style.chars j.canonical) = .ok j.canonical :=
    read_chars style_plain hj.canonical (by simp)
  rw [hchars, read_chars style_plain hk.canonical (by simp)] at hread
  exact (Except.ok.inj hread).symm

/-- Two fuzz values are the same one exactly if they have one type and their values are alike; the
values by themselves are told apart by the key text. -/
theorem equals_exact (hj : j.Readable d) (hk : k.Readable e) (t u : String) :
    (∃ x y, keyText ⟨.ofJson j, t⟩ = .ok x ∧ keyText ⟨.ofJson k, u⟩ = .ok y ∧
      (x = y ↔ j.Alike k)) ∧
    ∃ same, equals ⟨.ofJson j, t⟩ ⟨.ofJson k, u⟩ = .ok same ∧
      (same = true ↔ t = u ∧ j.Alike k) := by
  have htext := text_canonical_eq_iff hj hk
  refine ⟨⟨_, _, keyText_ofJson hj, keyText_ofJson hk, htext⟩, ?_⟩
  rw [equals, key, key, keyText_ofJson hj, keyText_ofJson hk]
  refine ⟨_, rfl, ?_⟩
  simp [htext, and_comm]

def pointed : Json :=
  .map [("n", .list [.float (.finite false ⟨Nat.mul 3 (Nat.pow 2 51), 1023, by decide,
    .inr (by decide), by decide⟩), .null]), ("\"\\", .str "\n")]

def reordered : Json :=
  .map [("\"\\", .str "\n"), ("n", .list [.int 3, .null])]

theorem readable_pointed : pointed.Readable 2 :=
  .map (by decide) (List.forall_mem_cons.2
    ⟨.list (List.forall_mem_cons.2 ⟨.float _ _, List.forall_mem_singleton.2 .null⟩),
      List.forall_mem_singleton.2 (.str _)⟩)

theorem readable_reordered : reordered.Readable 2 :=
  .map (by decide) (List.forall_mem_cons.2 ⟨.str _, List.forall_mem_singleton.2
    (.list (List.forall_mem_cons.2 ⟨.int (by decide), List.forall_mem_singleton.2 .null⟩))⟩)

/-- Neither the order of entries nor the point of a whole number counts, under a list either. -/
theorem equals_exact_reordered :
    equals ⟨.ofJson pointed, "datatype"⟩ ⟨.ofJson reordered, "datatype"⟩ = .ok true := by
  obtain ⟨-, same, hequals, hsame⟩ :=
    equals_exact readable_pointed readable_reordered "datatype" "datatype"
  have hlike : same = true := by
    refine hsame.2 ⟨rfl, .map (.swap _ _ _) rfl (.cons ?_ (.cons (.str _) .nil))⟩
    exact .list (.cons (.whole (n := 3) (by decide +kernel) rfl) (.cons .null .nil))
  rw [hequals, hlike]

example : equals ⟨.bool true, "t"⟩ ⟨.int 1, "t"⟩ = .ok false := by rfl

example : equals ⟨.str "1", "t"⟩ ⟨.int 1, "t"⟩ = .ok false := by rfl

example : equals ⟨.null, "t"⟩ ⟨.str "null", "t"⟩ = .ok false := by rfl

end FuzzValue

end Runbook
