import Runbook.Proofs.Dict

namespace Runbook

variable {ε α β κ : Type}

theorem elim_eq_error {o : Option α} {e f : ε} (h : o.elim (.error e) Except.ok = .error f) :
    f = e := by
  cases o with
  | none => exact (Except.error.inj h).symm
  | some a => cases h

theorem elim_eq_ok {o : Option α} {e : ε} {a : α} :
    o.elim (.error e) Except.ok = .ok a ↔ o = some a := by
  cases o <;> simp

theorem map_eq_error {g : α → β} {x : Except ε α} {f : ε} (h : x.map g = .error f) :
    x = .error f := by
  cases x with
  | error e => exact congrArg Except.error (Except.error.inj h)
  | ok a => cases h

theorem map_eq_ok_iff {g : α → β} {x : Except ε α} {b : β} :
    x.map g = .ok b ↔ ∃ a, x = .ok a ∧ g a = b := by
  cases x <;> simp [Except.map]

theorem bind_eq_error {x : Except ε α} {g : α → Except ε β} {f : ε} (h : (x >>= g) = .error f) :
    x = .error f ∨ ∃ a, x = .ok a ∧ g a = .error f := by
  cases x with
  | error e => exact .inl (congrArg Except.error (Except.error.inj h))
  | ok a => exact .inr ⟨a, rfl, h⟩

theorem bind_eq_ok {x : Except ε α} {g : α → Except ε β} {b : β} (h : (x >>= g) = .ok b) :
    ∃ a, x = .ok a ∧ g a = .ok b := by
  cases x with
  | error e => cases h
  | ok a => exact ⟨a, rfl, h⟩

theorem run_bind {σ : Type} (x : ExceptT ε (StateM σ) α) (g : α → ExceptT ε (StateM σ) β) (s : σ) :
    (x >>= g).run s = match x.run s with
      | (.ok a, s') => (g a).run s'
      | (.error f, s') => (.error f, s') := by
  simp only [bind, ExceptT.bind, ExceptT.run, ExceptT.mk, ExceptT.bindCont, StateT.bind]
  rcases x s with ⟨_ | _, _⟩ <;> rfl

theorem run_bind_eq_ok {σ : Type} {x : ExceptT ε (StateM σ) α} {g : α → ExceptT ε (StateM σ) β}
    {s s' : σ} {b : β} (h : (x >>= g).run s = (.ok b, s')) :
    ∃ a s₁, x.run s = (.ok a, s₁) ∧ (g a).run s₁ = (.ok b, s') := by
  rw [run_bind] at h
  rcases hx : x.run s with ⟨f | a, s₁⟩
  · rw [hx] at h
    cases h
  · rw [hx] at h
    exact ⟨a, s₁, rfl, h⟩

theorem run_tryCatch {σ : Type} (x : ExceptT ε (StateM σ) α) (g : ε → ExceptT ε (StateM σ) α)
    (s : σ) : (tryCatch x g).run s = match x.run s with
      | (.ok a, s') => (.ok a, s')
      | (.error f, s') => (g f).run s' := by
  simp only [tryCatch, tryCatchThe, MonadExceptOf.tryCatch, ExceptT.tryCatch, ExceptT.run,
    ExceptT.mk, bind, StateT.bind]
  rcases x s with ⟨_ | _, _⟩ <;> rfl

theorem run_get_bind {σ : Type} (g : σ → ExceptT ε (StateM σ) β) (s : σ) :
    ((get : ExceptT ε (StateM σ) σ) >>= g).run s = (g s).run s := rfl

theorem mapM_eq_some_iff {g : α → Option β} {as : List α} {bs : List β} :
    as.mapM g = some bs ↔ List.Forall₂ (fun a b => g a = some b) as bs := by
  induction as generalizing bs with
  | nil => simp [eq_comm]
  | cons a as ih =>
    rw [List.mapM_cons]
    cases ha : g a with
    | none => simp [List.forall₂_cons_left_iff, ha]
    | some b =>
      cases has : as.mapM g with
      | none => simp_all [List.forall₂_cons_left_iff]
      | some bs' => simp [List.forall₂_cons_left_iff, ha, ← ih, has, eq_comm]

theorem mapM_eq_none {g : α → Option β} {as : List α} (h : as.mapM g = none) :
    ∃ a ∈ as, g a = none := by
  induction as with
  | nil => cases h
  | cons a as ih =>
    cases ha : g a with
    | none => exact ⟨a, List.mem_cons_self, ha⟩
    | some b =>
      cases has : as.mapM g with
      | none =>
        obtain ⟨a', hm, hn⟩ := ih has
        exact ⟨a', List.mem_cons_of_mem _ hm, hn⟩
      | some bs =>
        rw [List.mapM_cons, ha, has] at h
        cases h

theorem Dict.traverse_eq_error {g : α → Except ε β} {es : List (κ × α)} {f : ε}
    (h : traverse g es = .error f) : ∃ e ∈ es, g e.2 = .error f := by
  induction es with
  | nil => cases h
  | cons e es ih =>
    unfold traverse at h
    split at h
    · rename_i he
      cases h
      exact ⟨e, List.mem_cons_self, he⟩
    · obtain ⟨e', hm, he⟩ := ih (map_eq_error h)
      exact ⟨e', List.mem_cons_of_mem _ hm, he⟩

theorem Dict.mapValuesM_eq_error [BEq κ] {g : α → Except ε β} {d : Dict κ α} {f : ε}
    (h : d.mapValuesM g = .error f) : ∃ e ∈ d.entries, g e.2 = .error f := by
  unfold mapValuesM at h
  split at h
  · rename_i ht
    cases h
    exact traverse_eq_error ht
  · cases h

end Runbook
