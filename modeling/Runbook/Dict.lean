namespace Runbook

structure Dict (κ α : Type) [BEq κ] where
  entries : List (κ × α)
  distinct : entries.Pairwise fun a b => (a.1 == b.1) = false

namespace Dict

variable {κ α β : Type} [BEq κ]

def empty : Dict κ α := ⟨[], .nil⟩

instance : Inhabited (Dict κ α) := ⟨empty⟩

def keys (d : Dict κ α) : List κ := d.entries.map (·.1)

def values (d : Dict κ α) : List α := d.entries.map (·.2)

def isEmpty (d : Dict κ α) : Bool := d.entries.isEmpty

def size (d : Dict κ α) : Nat := d.entries.length

def find? (k : κ) : List (κ × α) → Option α
  | [] => none
  | (k', a) :: es => if k' == k then some a else find? k es

def get? (d : Dict κ α) (k : κ) : Option α := find? k d.entries

def contains (d : Dict κ α) (k : κ) : Bool := (d.get? k).isSome

def putIn (k : κ) (a : α) : List (κ × α) → List (κ × α)
  | [] => [(k, a)]
  | (k', a') :: es => if k' == k then (k', a) :: es else (k', a') :: putIn k a es

theorem fst_of_mem_putIn {k : κ} {a : α} {es : List (κ × α)} {e : κ × α}
    (h : e ∈ putIn k a es) : e.1 = k ∨ ∃ e' ∈ es, e'.1 = e.1 := by
  induction es with
  | nil => simp_all [putIn]
  | cons x es ih =>
    obtain ⟨k', a'⟩ := x
    by_cases hk : (k' == k) = true
    · simp only [putIn, hk, if_true, List.mem_cons] at h
      rcases h with rfl | h
      · exact .inr ⟨(k', a'), by simp, rfl⟩
      · exact .inr ⟨e, by simp [h], rfl⟩
    · simp only [putIn, hk, Bool.false_eq_true, if_false, List.mem_cons] at h
      rcases h with rfl | h
      · exact .inr ⟨(k', a'), by simp, rfl⟩
      · rcases ih h with h | ⟨e', h', h''⟩
        · exact .inl h
        · exact .inr ⟨e', by simp [h'], h''⟩

theorem distinct_putIn {k : κ} {a : α} {es : List (κ × α)}
    (h : es.Pairwise fun a b => (a.1 == b.1) = false) :
    (putIn k a es).Pairwise fun a b => (a.1 == b.1) = false := by
  induction es with
  | nil => exact List.pairwise_singleton _ _
  | cons x es ih =>
    obtain ⟨k', a'⟩ := x
    rw [List.pairwise_cons] at h
    by_cases hk : (k' == k) = true
    · simp only [putIn, hk, if_true]
      exact List.pairwise_cons.2 h
    · simp only [putIn, hk, Bool.false_eq_true, if_false]
      refine List.pairwise_cons.2 ⟨fun e he => ?_, ih h.2⟩
      rcases fst_of_mem_putIn he with h' | ⟨e', h', h''⟩
      · rw [h']
        simpa using hk
      · rw [← h'']
        exact h.1 e' h'

def put (d : Dict κ α) (k : κ) (a : α) : Dict κ α :=
  ⟨putIn k a d.entries, distinct_putIn d.distinct⟩

def putAll (d : Dict κ α) (es : List (κ × α)) : Dict κ α :=
  es.foldl (fun d e => d.put e.1 e.2) d

def ofList (es : List (κ × α)) : Dict κ α := empty.putAll es

def combine (dst src : Dict κ α) : Dict κ α := dst.putAll src.entries

def fill (dst src : Dict κ α) : Dict κ α :=
  src.entries.foldl (fun d e => if d.contains e.1 then d else d.put e.1 e.2) dst

def mapValues (f : α → β) (d : Dict κ α) : Dict κ β :=
  ⟨d.entries.map fun e => (e.1, f e.2), List.pairwise_map.2 d.distinct⟩

variable {ε : Type}

def traverse (f : α → Except ε β) : List (κ × α) → Except ε (List (κ × β))
  | [] => .ok []
  | (k, a) :: es =>
    match f a with
    | .error e => .error e
    | .ok b => (traverse f es).map ((k, b) :: ·)

omit [BEq κ] in
theorem keys_traverse {f : α → Except ε β} {es : List (κ × α)} {es' : List (κ × β)}
    (h : traverse f es = .ok es') : es'.map (·.1) = es.map (·.1) := by
  induction es generalizing es' with
  | nil => simp_all [traverse]
  | cons e es ih =>
    obtain ⟨k, a⟩ := e
    simp only [traverse] at h
    split at h
    · cases h
    · cases hr : traverse f es with
      | error e => simp [hr, Except.map] at h
      | ok es'' =>
        rw [hr] at h
        cases h
        simp [ih hr]

def mapValuesM (f : α → Except ε β) (d : Dict κ α) : Except ε (Dict κ β) :=
  match h : traverse f d.entries with
  | .error e => .error e
  | .ok es =>
    .ok ⟨es, by
      have hd := List.pairwise_map (f := fun e : κ × α => e.1)
        (R := fun a b => (a == b) = false) |>.2 d.distinct
      rw [← keys_traverse h] at hd
      exact List.pairwise_map.1 hd⟩

end Dict

end Runbook
