import Runbook.Text.Blank

namespace Runbook.Text

theorem cutAt_eq_splitOn (sep : Char) (cs : List Char) : cutAt sep cs = cs.splitOn sep := by
  induction cs with
  | nil => rfl
  | cons c cs ih =>
    rw [cutAt, List.splitOn_cons_eq_if_modifyHead, ih]
    by_cases hc : c = sep
    · simp [hc]
    · rw [if_neg hc, if_neg (by simpa using hc)]
      cases hcut : cs.splitOn sep with
      | nil => exact (List.splitOn_ne_nil _ _ hcut).elim
      | cons p ps => rfl

theorem cutAt_append (sep : Char) (xs ys : List Char) :
    cutAt sep (xs ++ sep :: ys) = cutAt sep xs ++ cutAt sep ys := by
  simp only [cutAt_eq_splitOn, List.splitOn_append_cons_self]

theorem cutAt_of_not_mem {sep : Char} {cs : List Char} (h : sep ∉ cs) : cutAt sep cs = [cs] := by
  rw [cutAt_eq_splitOn, List.splitOn_eq_singleton h]

theorem intercalate_cutAt (sep : Char) (cs : List Char) :
    [sep].intercalate (cutAt sep cs) = cs := by
  rw [cutAt_eq_splitOn, List.intercalate_splitOn]

theorem cutAt_intercalate {sep : Char} {ls : List (List Char)} (h : ∀ l ∈ ls, sep ∉ l)
    (hls : ls ≠ []) : cutAt sep ([sep].intercalate ls) = ls := by
  rw [cutAt_eq_splitOn, List.splitOn_intercalate sep h hls]

theorem mem_of_mem_cutAt {sep : Char} {cs l : List Char} (h : l ∈ cutAt sep cs) :
    ∀ c ∈ l, c ∈ cs ∧ c ≠ sep := by
  induction cs generalizing l with
  | nil =>
    obtain rfl := List.mem_singleton.1 h
    exact List.forall_mem_nil _
  | cons x cs ih =>
    have hrest {p : List Char} (hp : p ∈ cutAt sep cs) : ∀ c ∈ p, c ∈ x :: cs ∧ c ≠ sep :=
      fun c hc => ⟨List.mem_cons_of_mem _ (ih hp c hc).1, (ih hp c hc).2⟩
    rw [cutAt] at h
    split at h
    · rcases List.mem_cons.1 h with rfl | h
      · exact List.forall_mem_nil _
      · exact hrest h
    · rename_i hx
      cases hcut : cutAt sep cs with
      | nil =>
        rw [cutAt_eq_splitOn] at hcut
        exact (List.splitOn_ne_nil _ _ hcut).elim
      | cons p ps =>
        rw [hcut] at h hrest
        rcases List.mem_cons.1 h with rfl | h
        · exact List.forall_mem_cons.2 ⟨⟨List.mem_cons_self, hx⟩, hrest List.mem_cons_self⟩
        · exact hrest (List.mem_cons_of_mem _ h)

theorem unifyNewlines_of_not_mem {cs : List Char} (h : '\r' ∉ cs) : unifyNewlines cs = cs := by
  fun_induction unifyNewlines cs with
  | case1 => rfl
  | case2 cs ih => simp at h
  | case3 cs hcs ih => simp at h
  | case4 c cs hcr hc ih =>
    rw [List.mem_cons, not_or] at h
    rw [ih h.2]

/-- Line ends are unified piece by piece, unless one is cut into two. -/
theorem unifyNewlines_append (cs : List Char) {ds : List Char} (h : ds.head? ≠ some '\n') :
    unifyNewlines (cs ++ ds) = unifyNewlines cs ++ unifyNewlines ds := by
  fun_induction unifyNewlines cs with
  | case1 => rfl
  | case2 cs ih => exact congrArg ('\n' :: ·) ih
  | case3 cs hcs ih =>
    rw [List.cons_append, unifyNewlines, ih, List.cons_append]
    intro cs' hcs'
    cases cs with
    | nil => exact h (by rw [show ds = '\n' :: cs' from hcs']; rfl)
    | cons c cs => exact hcs cs (by rw [(List.cons.inj hcs').1])
  | case4 c cs hcr hc ih =>
    rw [List.cons_append, unifyNewlines, ih, List.cons_append]
    · exact fun cs' hreturn => (hc hreturn).elim
    · exact hc

theorem cutAt_lines {sep : Char} {ls : List (List Char)} (h : ∀ l ∈ ls, sep ∉ l) {tail : List Char}
    (htail : sep ∉ tail) : cutAt sep (ls.flatMap (· ++ [sep]) ++ tail) = ls ++ [tail] := by
  induction ls with
  | nil => exact cutAt_of_not_mem htail
  | cons l ls ih =>
    obtain ⟨hl, hls⟩ := List.forall_mem_cons.1 h
    rw [List.flatMap_cons, List.append_assoc, List.append_assoc, List.singleton_append, cutAt_append,
      cutAt_of_not_mem hl, ih hls, List.singleton_append, List.cons_append]

theorem exists_lines (sep : Char) (cs : List Char) : ∃ (ls : List (List Char)) (tail : List Char),
    (∀ l ∈ ls, sep ∉ l) ∧ sep ∉ tail ∧ cs = ls.flatMap (· ++ [sep]) ++ tail := by
  induction cs with
  | nil => exact ⟨[], [], List.forall_mem_nil _, List.not_mem_nil, rfl⟩
  | cons c cs ih =>
    obtain ⟨ls, tail, hls, htail, rfl⟩ := ih
    by_cases hc : c = sep
    · refine ⟨[] :: ls, tail, List.forall_mem_cons.2 ⟨List.not_mem_nil, hls⟩, htail, ?_⟩
      rw [hc]
      rfl
    cases ls with
    | nil => exact ⟨[], c :: tail, hls, by simp [Ne.symm hc, htail], rfl⟩
    | cons l ls =>
      obtain ⟨hl, hls'⟩ := List.forall_mem_cons.1 hls
      exact ⟨(c :: l) :: ls, tail,
        List.forall_mem_cons.2 ⟨by simp [Ne.symm hc, hl], hls'⟩, htail, rfl⟩

end Runbook.Text
