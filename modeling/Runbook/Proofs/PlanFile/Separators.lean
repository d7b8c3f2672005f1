import Runbook.Proofs.PlanFile.Splitting

namespace Runbook

namespace PlanFile

variable {cs l rest sep : List Char} {ls g : List (List Char)} {chunks seps : List (List Char)}
  {b : Bool}

def separators (text : String) : List (List Char) :=
  (Text.cutAt '\n' text.toList).filter isSeparator

/-- Chunks and separators in turn, from the first chunk on. -/
def alternate : List (List Char) → List (List Char) → List Char
  | c :: cs, s :: ss => c ++ (s ++ alternate cs ss)
  | cs, [] => cs.flatten
  | [], ss => ss.flatten

def EndsLine (cs : List Char) : Prop := ∀ c ∈ cs.head?, c = '\n'

/-- What a search from left to right finds, that starts at the start of a line or not: the chunks
and the separators between them. A separator starts where a line starts and ends where a line ends.
-/
inductive Scanned : Bool → List Char → List (List Char) → List (List Char) → Prop
  | done {b : Bool} : Scanned b [] [[]] []
  | cut {sep rest : List Char} {chunks seps : List (List Char)} (hsep : isSeparator sep = true)
      (hend : EndsLine rest) (h : Scanned false rest chunks seps) :
      Scanned true (sep ++ rest) ([] :: chunks) (sep :: seps)
  | pass {b : Bool} {c : Char} {cs chunk : List Char} {chunks seps : List (List Char)}
      (hnone : b = true → ∀ sep rest, isSeparator sep = true → EndsLine rest →
        c :: cs ≠ sep ++ rest)
      (h : Scanned (c == '\n') cs (chunk :: chunks) seps) :
      Scanned b (c :: cs) ((c :: chunk) :: chunks) seps

theorem isSeparator_iff : isSeparator l = true ↔ l = "---".toList ∨ l = "---\r".toList := by
  rw [isSeparator, Bool.or_eq_true, beq_iff_eq, beq_iff_eq]
  rfl

theorem not_mem_separator (h : isSeparator sep = true) : '\n' ∉ sep := by
  rcases isSeparator_iff.1 h with rfl | rfl <;> decide

theorem alternate_append (p c : List Char) (cs ss : List (List Char)) :
    alternate ((p ++ c) :: cs) ss = p ++ alternate (c :: cs) ss := by
  cases ss with
  | nil => simp [alternate]
  | cons s ss => simp [alternate]

section Groups

theorem groupLines_ofSeparator (hl : isSeparator l = true) (ls : List (List Char)) :
    groupLines (l :: ls) = [[]] :: (groupLines ls).modifyHead ([] :: ·) :=
  groupLines_append (List.forall_mem_nil _) hl

theorem length_groupLines (ls : List (List Char)) :
    (groupLines ls).length = (ls.filter isSeparator).length + 1 := by
  induction ls with
  | nil => rfl
  | cons l ls ih =>
    cases hl : isSeparator l with
    | true =>
      rw [groupLines_ofSeparator hl, List.filter_cons_of_pos hl, List.length_cons, List.length_cons,
        List.length_modifyHead, ih]
    | false =>
      rw [groupLines_cons hl, List.filter_cons_of_neg (by simp [hl]), List.length_modifyHead, ih]

theorem mem_groupLines_cons {k : List Char} (hg : g ∈ groupLines (k :: ls)) :
    g = [[]] ∨ g ∈ (groupLines ls).tail ∨
      ∃ first ∈ groupLines ls, g = [] :: first ∨ isSeparator k = false ∧ g = k :: first := by
  obtain ⟨first, others, hgroups⟩ := List.exists_cons_of_ne_nil (groupLines_ne_nil ls)
  rw [hgroups]
  cases hk : isSeparator k with
  | true =>
    rw [groupLines_ofSeparator hk, hgroups, List.modifyHead_cons, List.mem_cons, List.mem_cons] at hg
    rcases hg with rfl | rfl | hg
    · exact .inl rfl
    · exact .inr (.inr ⟨first, List.mem_cons_self, .inl rfl⟩)
    · exact .inr (.inl hg)
  | false =>
    rw [groupLines_cons hk, hgroups, List.modifyHead_cons, List.mem_cons] at hg
    rcases hg with rfl | hg
    · exact .inr (.inr ⟨first, List.mem_cons_self, .inr ⟨rfl, rfl⟩⟩)
    · exact .inr (.inl hg)

theorem of_mem_groupLines (hg : g ∈ groupLines ls) :
    ∀ l ∈ g, isSeparator l = false ∧ (l = [] ∨ l ∈ ls) := by
  induction ls generalizing g with
  | nil =>
    obtain rfl := List.mem_singleton.1 hg
    exact List.forall_mem_nil _
  | cons k ls ih =>
    have hlater {g : List (List Char)} (hg : g ∈ groupLines ls) :
        ∀ l ∈ g, isSeparator l = false ∧ (l = [] ∨ l ∈ k :: ls) := fun l hl =>
      (ih hg l hl).imp id (Or.imp_right (List.mem_cons_of_mem k))
    have hempty : isSeparator [] = false ∧ (([] : List Char) = [] ∨ [] ∈ k :: ls) :=
      ⟨rfl, .inl rfl⟩
    obtain rfl | hg | ⟨first, hfirst, rfl | ⟨hk, rfl⟩⟩ := mem_groupLines_cons hg
    · exact List.forall_mem_singleton.2 hempty
    · exact hlater (List.mem_of_mem_tail hg)
    · exact List.forall_mem_cons.2 ⟨hempty, hlater hfirst⟩
    · exact List.forall_mem_cons.2 ⟨⟨hk, .inr List.mem_cons_self⟩, hlater hfirst⟩

theorem ne_nil_of_mem_groupLines (hls : ls ≠ []) (hg : g ∈ groupLines ls) : g ≠ [] := by
  induction ls generalizing g with
  | nil => exact (hls rfl).elim
  | cons k ls ih =>
    obtain rfl | hg | ⟨first, -, rfl | ⟨-, rfl⟩⟩ := mem_groupLines_cons hg
    · exact List.cons_ne_nil _ _
    · -- without another line there is no other group
      refine ih ?_ (List.mem_of_mem_tail hg)
      rintro rfl
      cases hg
    · exact List.cons_ne_nil _ _
    · exact List.cons_ne_nil _ _

theorem joinLines_cons (l : List Char) (h : g ≠ []) :
    joinLines (l :: g) = l ++ '\n' :: joinLines g := by
  cases g with
  | nil => exact (h rfl).elim
  | cons k g => rfl

theorem map_joinLines_groupLines (l : List Char) (hls : ls ≠ []) :
    ∃ c cs, (groupLines ls).map joinLines = c :: cs ∧ (groupLines (l :: ls)).map joinLines =
      if isSeparator l then [] :: ('\n' :: c) :: cs else (l ++ '\n' :: c) :: cs := by
  cases hgroups : groupLines ls with
  | nil => exact (groupLines_ne_nil ls hgroups).elim
  | cons g gs =>
    have hg : g ≠ [] := ne_nil_of_mem_groupLines hls (hgroups ▸ List.mem_cons_self)
    refine ⟨joinLines g, gs.map joinLines, rfl, ?_⟩
    cases hl : isSeparator l with
    | true =>
      rw [groupLines_ofSeparator hl, hgroups, if_pos rfl, List.modifyHead_cons, List.map_cons,
        List.map_cons, joinLines_nil_cons hg]
      rfl
    | false =>
      rw [groupLines_cons hl, hgroups, if_neg (by simp), List.modifyHead_cons, List.map_cons,
        joinLines_cons l hg]

theorem alternate_groupLines (hls : ls ≠ []) :
    alternate ((groupLines ls).map joinLines) (ls.filter isSeparator) = joinLines ls := by
  induction ls with
  | nil => exact (hls rfl).elim
  | cons l ls ih =>
    by_cases hrest : ls = []
    · subst hrest
      cases hl : isSeparator l <;> simp [groupLines, hl, alternate, joinLines]
    obtain ⟨c, cs, hgroups, hmore⟩ := map_joinLines_groupLines l hrest
    have halternate := ih hrest
    rw [hgroups] at halternate
    rw [hmore, joinLines_cons l hrest, ← halternate]
    cases hl : isSeparator l with
    | true =>
      have hnewline := alternate_append ['\n'] c cs (ls.filter isSeparator)
      rw [if_pos rfl, List.filter_cons_of_pos hl, alternate, List.nil_append]
      exact congrArg (l ++ ·) hnewline
    | false =>
      have hnewline := alternate_append (l ++ ['\n']) c cs (ls.filter isSeparator)
      rw [if_neg (by simp), List.filter_cons_of_neg (by simp [hl])]
      simpa using hnewline

end Groups

section Scanning

theorem line_unique {l' rest' : List Char} (hl : '\n' ∉ l) (hl' : '\n' ∉ l')
    (hrest : EndsLine rest) (hrest' : EndsLine rest') (h : l ++ rest = l' ++ rest') : l = l' := by
  have hno {l more : List Char} (hl : '\n' ∉ l) (hmore : EndsLine (l ++ more)) : l = [] := by
    cases l with
    | nil => rfl
    | cons c l =>
      obtain rfl := hmore c rfl
      exact (hl List.mem_cons_self).elim
  rcases List.append_eq_append_iff.1 h with ⟨more, rfl, rfl⟩ | ⟨more, rfl, rfl⟩
  · rw [hno (fun hmem => hl' (List.mem_append_right l hmem)) hrest, List.append_nil]
  · rw [hno (fun hmem => hl (List.mem_append_right l' hmem)) hrest', List.append_nil]

theorem Scanned.inside (hl : '\n' ∉ l) {chunk : List Char}
    (h : Scanned false rest (chunk :: chunks) seps) :
    Scanned false (l ++ rest) ((l ++ chunk) :: chunks) seps := by
  induction l with
  | nil => exact h
  | cons c l ih =>
    rw [List.mem_cons, not_or] at hl
    have hc : (c == '\n') = false := beq_eq_false_iff_ne.2 (Ne.symm hl.1)
    exact .pass (fun hstart => by cases hstart) (hc ▸ ih hl.2)

theorem Scanned.newline {chunk : List Char} (h : Scanned true cs (chunk :: chunks) seps) :
    Scanned b ('\n' :: cs) (('\n' :: chunk) :: chunks) seps := by
  refine .pass (fun _ sep rest hsep _ heq => ?_) h
  rcases isSeparator_iff.1 hsep with rfl | rfl <;> cases heq

theorem Scanned.line (hl : '\n' ∉ l) (hrest : EndsLine rest) {chunk : List Char}
    (h : ∀ b, Scanned b rest (chunk :: chunks) seps) :
    Scanned true (l ++ rest)
      (if isSeparator l then [] :: chunk :: chunks else (l ++ chunk) :: chunks)
      (if isSeparator l then l :: seps else seps) := by
  cases hsep : isSeparator l with
  | true => exact .cut hsep hrest (h false)
  | false =>
    rw [if_neg (by simp), if_neg (by simp)]
    cases l with
    | nil => exact h true
    | cons c l =>
      have hc : (c == '\n') = false :=
        beq_eq_false_iff_ne.2 fun hc => hl (hc ▸ List.mem_cons_self)
      have hinside := Scanned.inside (fun hmem => hl (List.mem_cons_of_mem c hmem)) (h false)
      refine .pass (fun _ sep rest' hsep' hrest' heq => ?_) (hc ▸ hinside)
      rw [line_unique hl (not_mem_separator hsep') hrest hrest' heq, hsep'] at hsep
      cases hsep

/-- The search finds the lines that are separators. -/
theorem scanned_joinLines (hls : ls ≠ []) (h : ∀ l ∈ ls, '\n' ∉ l) :
    Scanned true (joinLines ls) ((groupLines ls).map joinLines) (ls.filter isSeparator) := by
  induction ls with
  | nil => exact (hls rfl).elim
  | cons l ls ih =>
    obtain ⟨hl, hlines⟩ := List.forall_mem_cons.1 h
    have hseps : (l :: ls).filter isSeparator =
        if isSeparator l then l :: ls.filter isSeparator else ls.filter isSeparator :=
      List.filter_cons
    -- A last line has no line end behind it.
    by_cases hrest : ls = []
    · subst hrest
      have hlast := Scanned.line hl (fun c hc => by cases hc) (fun b => .done (b := b))
      rw [List.append_nil] at hlast
      cases hsep : isSeparator l <;> simpa [groupLines, joinLines, hsep] using hlast
    obtain ⟨c, cs, hgroups, hmore⟩ := map_joinLines_groupLines l hrest
    have hlater := ih hrest hlines
    rw [hgroups] at hlater
    have hends : EndsLine ('\n' :: joinLines ls) := fun c hc => (Option.some.inj hc).symm
    have hline := Scanned.line hl hends (fun b => hlater.newline (b := b))
    rw [hmore, joinLines_cons l hrest, hseps]
    exact hline

end Scanning

theorem cutAt_ne_nil (cs : List Char) : Text.cutAt '\n' cs ≠ [] := by
  rw [Text.cutAt_eq_splitOn]
  exact List.splitOn_ne_nil _ _

theorem map_toList_splitChunks (text : String) : (splitChunks text).map String.toList =
    (groupLines (Text.cutAt '\n' text.toList)).map joinLines := by
  simp [splitChunks, Function.comp_def]

/-- No chunk can be cut further. -/
theorem splitChunks_chunk {text chunk : String} (h : chunk ∈ splitChunks text) :
    splitChunks chunk = [chunk] := by
  obtain ⟨g, hg, rfl⟩ := List.mem_map.1 h
  have hlines : ∀ l ∈ g, '\n' ∉ l := by
    intro l hl hmem
    rcases (of_mem_groupLines hg l hl).2 with rfl | hl
    · cases hmem
    · exact (Text.mem_of_mem_cutAt hl _ hmem).2 rfl
  have hcut : Text.cutAt '\n' (joinLines g) = g :=
    Text.cutAt_intercalate hlines (ne_nil_of_mem_groupLines (cutAt_ne_nil _) hg)
  refine splitChunks_of_unbroken fun l hl => ?_
  rw [String.toList_ofList, hcut] at hl
  exact (of_mem_groupLines hg l hl).1

/-- A text is cut at its separator lines and nowhere else. They are what a search for three dashes
that fill a line finds, up to a carriage return at the end of it. There is one chunk more than there
are separators, chunks and separators in turn are the text, and no chunk is cut again; a text
without a separator line stays whole, whatever dashes it holds. -/
theorem splitChunks_exact (text : String) :
    (∀ l, l ∈ separators text ↔ l ∈ Text.cutAt '\n' text.toList ∧
      (l = "---".toList ∨ l = "---\r".toList)) ∧
    Scanned true text.toList ((splitChunks text).map String.toList) (separators text) ∧
    (splitChunks text).length = (separators text).length + 1 ∧
    alternate ((splitChunks text).map String.toList) (separators text) = text.toList ∧
    (∀ chunk ∈ splitChunks text, splitChunks chunk = [chunk]) ∧
    (splitChunks text = [text] ↔
      ∀ l ∈ Text.cutAt '\n' text.toList, l ≠ "---".toList ∧ l ≠ "---\r".toList) := by
  have hjoined : joinLines (Text.cutAt '\n' text.toList) = text.toList := Text.intercalate_cutAt _ _
  have hlength : (splitChunks text).length = (separators text).length + 1 := by
    rw [splitChunks, List.length_map, length_groupLines]
    rfl
  have hunbroken : Unbroken text.toList ↔
      ∀ l ∈ Text.cutAt '\n' text.toList, l ≠ "---".toList ∧ l ≠ "---\r".toList := by
    refine forall₂_congr fun l _ => ?_
    rw [← Bool.not_eq_true, isSeparator_iff, not_or]
  refine ⟨fun l => ?_, ?_, hlength, ?_, fun _ => splitChunks_chunk, ?_⟩
  · rw [separators, List.mem_filter, isSeparator_iff]
  · have hscanned := scanned_joinLines (cutAt_ne_nil text.toList)
      fun l hl hmem => (Text.mem_of_mem_cutAt hl _ hmem).2 rfl
    rw [hjoined] at hscanned
    rw [map_toList_splitChunks]
    exact hscanned
  · rw [map_toList_splitChunks, separators, alternate_groupLines (cutAt_ne_nil _), hjoined]
  · rw [← hunbroken]
    refine ⟨fun hwhole => ?_, splitChunks_of_unbroken⟩
    rw [hwhole, List.length_singleton] at hlength
    have hnone : separators text = [] := List.length_eq_zero_iff.1 (by omega)
    exact fun l hl => Bool.eq_false_iff.2 (List.filter_eq_nil_iff.1 hnone l hl)

/-- Dashes that do not fill their line separate nothing. -/
example : splitChunks " ---\n--- \n---a\n# ---\n---\r\r\n---\r" =
    [" ---\n--- \n---a\n# ---\n---\r\r\n", ""] := by rfl

end PlanFile

end Runbook
