import Mathlib.Data.List.Basic
import Runbook.Screen.Wrap

namespace Runbook.Screen

def Calm (gs : List Glyph) : Prop := ∀ g ∈ gs, g.stops = false

namespace Calm

variable {gs : List Glyph}

theorem mono {hs : List Glyph} (h : Calm gs) (hsub : hs ⊆ gs) : Calm hs := fun g hg => h g (hsub hg)

theorem append_iff {hs : List Glyph} : Calm (gs ++ hs) ↔ Calm gs ∧ Calm hs := List.forall_mem_append

theorem cons_iff {g : Glyph} : Calm (g :: gs) ↔ g.stops = false ∧ Calm gs := List.forall_mem_cons

theorem expandTabs (h : Calm gs) (column : Nat) : Calm (expandTabs column gs) := by
  induction gs generalizing column with
  | nil => exact h
  | cons g gs ih =>
    obtain ⟨hg, hgs⟩ := cons_iff.1 h
    unfold Screen.expandTabs
    split
    · apply append_iff.2 ⟨fun x hx => ?_, ih hgs _⟩
      rw [List.eq_of_mem_replicate hx]
      exact hg
    · exact cons_iff.2 ⟨hg, ih hgs _⟩

theorem cropGlyphs (h : Calm gs) (width : Nat) : Calm (cropGlyphs width gs) := by
  unfold Screen.cropGlyphs
  generalize crop width (chars gs) = cs
  induction gs generalizing cs with
  | nil => exact h
  | cons g gs ih =>
    cases cs with
    | nil => exact fun g hg => absurd hg List.not_mem_nil
    | cons c cs =>
      obtain ⟨hg, hgs⟩ := cons_iff.1 h
      exact cons_iff.2 ⟨hg, ih hgs cs⟩

theorem dropOverhang (h : Calm gs) (width : Nat) : Calm (dropOverhang width gs) :=
  h.mono (List.take_subset _ _)

end Calm

theorem subset_of_mem_wordsFrom {fuel : Nat} {gs w : List Glyph} (h : w ∈ wordsFrom fuel gs) :
    w ⊆ gs := by
  induction fuel generalizing gs with
  | zero => cases h
  | succ fuel ih =>
    have htake (p : Glyph → Bool) (xs : List Glyph) : xs.takeWhile p ⊆ xs :=
      (List.takeWhile_sublist p).subset
    have hdrop (p : Glyph → Bool) (xs : List Glyph) : xs.dropWhile p ⊆ xs :=
      (List.dropWhile_sublist p).subset
    have hafter (p q : Glyph → Bool) (xs : List Glyph) : (xs.dropWhile p).dropWhile q ⊆ xs :=
      List.Subset.trans (hdrop q _) (hdrop p xs)
    unfold wordsFrom at h
    dsimp only at h
    split at h
    · cases h
    · obtain rfl | h := List.mem_cons.1 h
      · apply List.append_subset.2 ⟨List.append_subset.2 ⟨htake _ _, ?_⟩, ?_⟩
        · exact List.Subset.trans (htake _ _) (hdrop _ _)
        · exact List.Subset.trans (htake _ _) (hafter _ _ gs)
      · exact List.Subset.trans (ih h) (List.Subset.trans (hdrop _ _) (hafter _ _ gs))

theorem flatten_chopFrom (width used : Nat) (gs : List Glyph) :
    (chopFrom width used gs).flatten = gs := by
  induction gs generalizing used with
  | nil => rfl
  | cons g gs ih =>
    unfold chopFrom
    dsimp only
    split
    all_goals
      split
      all_goals
        rename_i hp
        rw [← ih, hp]
        rfl

theorem subset_of_mem_linesOf {gs l : List Glyph} (h : l ∈ linesOf gs) : l ⊆ gs := by
  induction gs generalizing l with
  | nil =>
    obtain rfl := List.mem_singleton.1 h
    exact List.Subset.refl _
  | cons g gs ih =>
    unfold linesOf at h
    split at h
    · obtain rfl | h := List.mem_cons.1 h
      · exact List.nil_subset _
      · exact List.Subset.trans (ih h) (List.subset_cons_self g gs)
    · split at h
      · obtain rfl := List.mem_singleton.1 h
        exact List.cons_subset_cons g (List.nil_subset _)
      · rename_i l' ls hl
        rw [hl] at ih
        obtain rfl | h := List.mem_cons.1 h
        · exact List.cons_subset_cons g (ih (List.mem_cons_self ..))
        · exact List.Subset.trans (ih (List.mem_cons_of_mem _ h)) (List.subset_cons_self g gs)

namespace Filling

def IsCalm (f : Filling) : Prop := Calm f.line ∧ ∀ l ∈ f.lines, Calm l

variable {f : Filling}

theorem IsCalm.newLine {gs : List Glyph} (h : f.IsCalm) (hgs : Calm gs) (used : Nat) :
    (f.newLine gs used).IsCalm := by
  unfold Filling.newLine
  split
  · exact ⟨hgs, h.2⟩
  · exact ⟨hgs, List.forall_mem_cons.2 h⟩

theorem IsCalm.addPieces {ps : List (List Glyph)} (h : f.IsCalm) (hps : ∀ p ∈ ps, Calm p) :
    (f.addPieces ps).IsCalm := by
  induction ps generalizing f with
  | nil => exact h
  | cons p ps ih =>
    obtain ⟨hp, hps⟩ := List.forall_mem_cons.1 hps
    exact ih (h.newLine hp _) hps

theorem IsCalm.addWord {word : List Glyph} (h : f.IsCalm) (hword : Calm word) (width : Nat)
    (fold : Bool) : (f.addWord width fold word).IsCalm := by
  have hjoin : Calm (f.line ++ word) := Calm.append_iff.2 ⟨h.1, hword⟩
  unfold Filling.addWord
  dsimp only
  split
  · exact ⟨hjoin, h.2⟩
  · split
    · split
      · apply h.addPieces
        intro p hp
        apply hword.mono
        rw [← flatten_chopFrom width 0 word]
        exact fun g hg => List.mem_flatten_of_mem hp hg
      · exact h.newLine hword _
    · split
      · exact h.newLine hword _
      · exact ⟨hjoin, h.2⟩

theorem IsCalm.foldl {ws : List (List Glyph)} (h : f.IsCalm) (hws : ∀ w ∈ ws, Calm w)
    (width : Nat) (fold : Bool) : (ws.foldl (Filling.addWord width fold) f).IsCalm := by
  induction ws generalizing f with
  | nil => exact h
  | cons w ws ih =>
    obtain ⟨hw, hws⟩ := List.forall_mem_cons.1 hws
    exact ih (h.addWord hw width fold) hws

end Filling

theorem Calm.wrapLine {gs : List Glyph} (h : Calm gs) (width : Nat) (fold : Bool) :
    ∀ l ∈ wrapLine width fold gs, Calm l := by
  unfold Screen.wrapLine
  dsimp only
  generalize hgs : (if (gs.any fun g => g.char == '\t') = true then Screen.expandTabs 0 gs else gs) = xs
  have hxs : Calm xs := by
    rw [← hgs]
    split
    · exact h.expandTabs 0
    · exact h
  split
  · intro l hl
    rw [List.mem_singleton.1 hl]
    exact hxs.dropOverhang width
  · intro l hl
    obtain ⟨l', hl', rfl⟩ := List.mem_map.1 hl
    have hwords : ∀ w ∈ words xs, Calm w := fun w hw => hxs.mono (subset_of_mem_wordsFrom hw)
    have hnil : Calm [] := fun g hg => absurd hg List.not_mem_nil
    have hf := Filling.IsCalm.foldl (f := ⟨[], [], 0⟩) ⟨hnil, fun l hl => absurd hl List.not_mem_nil⟩
      hwords width fold
    exact (List.forall_mem_cons.2 hf l' (List.mem_reverse.1 hl')).dropOverhang width

/-- Breaking a text into lines puts no character into a style. -/
theorem Calm.wrap {gs : List Glyph} (h : Calm gs) (width : Nat) : ∀ l ∈ wrap width gs, Calm l := by
  intro l hl
  obtain ⟨line, hline, hl⟩ := List.mem_flatMap.1 hl
  obtain ⟨gs', hgs, rfl⟩ := List.mem_map.1 hl
  exact ((h.mono (subset_of_mem_linesOf hline)).wrapLine width true gs' hgs).cropGlyphs width

end Runbook.Screen
