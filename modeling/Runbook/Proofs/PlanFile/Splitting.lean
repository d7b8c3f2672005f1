import Runbook.PlanFile.Writing
import Runbook.Proofs.Text.Lines
import Runbook.Proofs.Yaml.Remark

namespace Runbook

namespace PlanFile

def remark (comment : String) : String := if comment.isEmpty then "" else commentText comment

def heading (s : Suite) : String := "\n\n" ++ remark s.comment

def document (s : Suite) : Value :=
  .map [(.str s.name, .list (s.tests.map fun t => dslMap t.toDsl))]

def chunkText (s : Suite) : String := (Yaml.write? (document s)).getD ""

def suitesText : List Suite → String
  | [] => ""
  | s :: ss => heading s ++ "---\n" ++ chunkText s ++ suitesText ss

def planText (p : Plan) : String := remark p.comment ++ suitesText p.suites.values

/-- What stands in a file between the text of a suite and the next separator. -/
def following : List Suite → String
  | [] => ""
  | s :: _ => heading s

def chunksOf : List Suite → List String
  | [] => []
  | s :: ss => ("\n" ++ chunkText s ++ following ss) :: chunksOf ss

def textOf : List Piece → Option String
  | [] => some ""
  | p :: ps =>
    match p.text with
    | .error _ => none
    | .ok text => (textOf ps).map (text ++ ·)

theorem textOf_append (ps qs : List Piece) :
    textOf (ps ++ qs) = (textOf ps).bind fun a => (textOf qs).map (a ++ ·) := by
  induction ps with
  | nil =>
    have hid : (textOf qs).map ("" ++ ·) = textOf qs := by
      cases textOf qs <;> simp
    exact hid.symm
  | cons p ps ih =>
    rw [List.cons_append, textOf, textOf, ih]
    cases p.text with
    | error f => rfl
    | ok text => cases textOf ps <;> cases textOf qs <;> simp [String.append_assoc]

theorem writeTo_of_textOf {ps : List Piece} {text : String} (h : textOf ps = some text)
    (w : Progress) :
    writeTo (fun _ => .whole) ps w = ⟨w.text ++ text, w.tried + ps.length, w.fault⟩ := by
  induction ps generalizing text w with
  | nil =>
    cases h
    rw [String.append_empty]
    rfl
  | cons p ps ih =>
    rw [textOf] at h
    rw [writeTo]
    cases hp : p.text with
    | error f =>
      rw [hp] at h
      cases h
    | ok first =>
      rw [hp] at h
      obtain ⟨rest, hrest, rfl⟩ := Option.map_eq_some_iff.1 h
      refine (ih hrest _).trans ?_
      rw [List.length_cons, String.append_assoc, Nat.add_assoc, Nat.add_comm 1]

theorem fault_of_textOf {ps : List Piece} (h : textOf ps = none) (w : Progress) :
    (writeTo (fun _ => .whole) ps w).fault ≠ none := by
  induction ps generalizing w with
  | nil => cases h
  | cons p ps ih =>
    rw [textOf] at h
    rw [writeTo]
    cases hp : p.text with
    | error f => exact Option.some_ne_none f
    | ok first =>
      rw [hp] at h
      exact ih (Option.map_eq_none_iff.1 h) _

theorem textOf_commentPieces (what comment : String) :
    textOf (commentPieces what comment) = some (remark comment) := by
  unfold commentPieces remark
  split
  · rfl
  · simp [textOf]

theorem textOf_suitePieces (s : Suite) :
    textOf (suitePieces s.name s.comment (s.tests.map fun t => dslMap t.toDsl)) =
      (Yaml.write? (document s)).map (heading s ++ "---\n" ++ ·) := by
  rw [suitePieces, textOf_append, textOf_append, textOf_commentPieces, document]
  cases Yaml.write? (.map [(.str s.name, .list (s.tests.map fun t => dslMap t.toDsl))]) with
  | none => rfl
  | some text => simp [textOf, heading, String.append_assoc]

theorem textOf_suites_iff {ss : List Suite} {text : String} :
    textOf (ss.flatMap fun s =>
      suitePieces s.name s.comment (s.tests.map fun t => dslMap t.toDsl)) = some text ↔
      text = suitesText ss ∧ ∀ s ∈ ss, Yaml.write? (document s) = some (chunkText s) := by
  induction ss generalizing text with
  | nil => simp [textOf, suitesText, eq_comm]
  | cons s ss ih =>
    rw [List.flatMap_cons, textOf_append, textOf_suitePieces, List.forall_mem_cons]
    cases hs : Yaml.write? (document s) with
    | none => simp
    | some this =>
      have hthis : chunkText s = this := by rw [chunkText, hs]; rfl
      rw [hthis, suitesText, hthis, Option.map_some, Option.bind_some, Option.map_eq_some_iff]
      constructor
      · rintro ⟨rest, hrest, rfl⟩
        obtain ⟨rfl, hss⟩ := ih.1 hrest
        exact ⟨rfl, rfl, hss⟩
      · rintro ⟨rfl, -, hss⟩
        exact ⟨_, ih.2 ⟨rfl, hss⟩, rfl⟩

/-- A plan that can be written comes to its text, from the first comment to the last suite. -/
theorem textOf_planPieces_iff {p : Plan} {text : String} :
    textOf (planPieces p) = some text ↔ text = planText p ∧
      ∀ s ∈ p.suites.values, Yaml.write? (document s) = some (chunkText s) := by
  rw [planPieces, textOf_append, textOf_commentPieces, Option.bind_some, Option.map_eq_some_iff]
  constructor
  · rintro ⟨rest, hrest, rfl⟩
    obtain ⟨rfl, hss⟩ := textOf_suites_iff.1 hrest
    exact ⟨rfl, hss⟩
  · rintro ⟨rfl, hss⟩
    exact ⟨_, textOf_suites_iff.2 ⟨rfl, hss⟩, rfl⟩

theorem store_eq_ok_iff {s s' : Storage} {path : String} {p : Plan} :
    store s path (planPieces p) = (s', .ok ()) ↔ ∃ s₀, s.openFor false path = .ok s₀ ∧
      (∀ u ∈ p.suites.values, Yaml.write? (document u) = some (chunkText u)) ∧
      s' = s₀.append path (planText p) := by
  rw [store]
  cases hopen : s.openFor false path with
  | error f => simp
  | ok s₀ =>
    dsimp only [writePieces]
    cases htext : textOf (planPieces p) with
    | none =>
      have hnot : ¬ ∀ u ∈ p.suites.values, Yaml.write? (document u) = some (chunkText u) := by
        intro hall
        rw [textOf_planPieces_iff.2 ⟨rfl, hall⟩] at htext
        cases htext
      cases hfault : (writeTo (fun _ => .whole) (planPieces p) ⟨"", 0, none⟩).fault with
      | none => exact (fault_of_textOf htext _ hfault).elim
      | some f => simp [hnot]
    | some text =>
      obtain ⟨rfl, hall⟩ := textOf_planPieces_iff.1 htext
      rw [writeTo_of_textOf htext, String.empty_append]
      constructor
      · intro h
        cases h
        exact ⟨s₀, rfl, hall, rfl⟩
      · rintro ⟨s₁, hs, -, rfl⟩
        cases hs
        rfl

def Unbroken (cs : List Char) : Prop := ∀ l ∈ Text.cutAt '\n' cs, isSeparator l = false

theorem unbroken_append {cs ds : List Char} :
    Unbroken (cs ++ '\n' :: ds) ↔ Unbroken cs ∧ Unbroken ds := by
  rw [Unbroken, Text.cutAt_append, List.forall_mem_append]
  rfl

theorem unbroken_remarks {cs : List Char} (h : Yaml.Remarks cs) : Unbroken cs := by
  have hnil : Unbroken [] := List.forall_mem_singleton.2 rfl
  induction h with
  | nil => exact hnil
  | blank _ ih => exact unbroken_append.2 ⟨hnil, ih⟩
  | @remark line cs hline _ ih =>
    have hone : Unbroken ('#' :: line) := by
      have hmem : '\n' ∉ '#' :: line := by
        intro hmem
        rcases List.mem_cons.1 hmem with hmark | hmem
        · exact absurd hmark (by decide)
        · exact absurd (hline _ hmem) (by decide)
      rw [Unbroken, Text.cutAt_of_not_mem hmem, List.forall_mem_singleton]
      simp [isSeparator]
    exact unbroken_append.2 ⟨hone, ih⟩

theorem groupLines_ne_nil (ls : List (List Char)) : groupLines ls ≠ [] := by
  cases ls with
  | nil => exact List.cons_ne_nil _ _
  | cons l ls =>
    rw [groupLines]
    split
    · exact List.cons_ne_nil _ _
    · split <;> exact List.cons_ne_nil _ _

theorem groupLines_cons {l : List Char} (hl : isSeparator l = false) (ls : List (List Char)) :
    groupLines (l :: ls) = (groupLines ls).modifyHead (l :: ·) := by
  rw [groupLines]
  cases h : groupLines ls with
  | nil => exact (groupLines_ne_nil ls h).elim
  | cons g gs => rw [hl]; rfl

theorem groupLines_of_unbroken {ls : List (List Char)} (h : ∀ l ∈ ls, isSeparator l = false) :
    groupLines ls = [ls] := by
  induction ls with
  | nil => rfl
  | cons l ls ih =>
    obtain ⟨hl, hls⟩ := List.forall_mem_cons.1 h
    rw [groupLines_cons hl, ih hls]
    rfl

theorem groupLines_append {ls rest : List (List Char)} {sep : List Char}
    (h : ∀ l ∈ ls, isSeparator l = false) (hsep : isSeparator sep = true) :
    groupLines (ls ++ sep :: rest) = (ls ++ [[]]) :: (groupLines rest).modifyHead ([] :: ·) := by
  induction ls with
  | nil =>
    rw [List.nil_append, groupLines]
    cases hrest : groupLines rest with
    | nil => exact (groupLines_ne_nil rest hrest).elim
    | cons g gs => rw [hsep]; rfl
  | cons l ls ih =>
    obtain ⟨hl, hls⟩ := List.forall_mem_cons.1 h
    rw [List.cons_append, groupLines_cons hl, ih hls]
    rfl

theorem splitChunks_of_unbroken {text : String} (h : Unbroken text.toList) :
    splitChunks text = [text] := by
  have hjoin : joinLines (Text.cutAt '\n' text.toList) = text.toList := Text.intercalate_cutAt _ _
  rw [splitChunks, groupLines_of_unbroken h, List.map_singleton, hjoin, String.ofList_toList]

theorem joinLines_nil_cons {g : List (List Char)} (h : g ≠ []) :
    joinLines ([] :: g) = '\n' :: joinLines g := by
  cases g with
  | nil => exact (h rfl).elim
  | cons l ls => rfl

theorem groupLines_cutAt (cs : List Char) :
    ∃ g gs, groupLines (Text.cutAt '\n' cs) = g :: gs ∧ g ≠ [] := by
  cases hcut : Text.cutAt '\n' cs with
  | nil =>
    rw [Text.cutAt_eq_splitOn] at hcut
    exact (List.splitOn_ne_nil _ _ hcut).elim
  | cons l ls =>
    cases hls : groupLines ls with
    | nil => exact (groupLines_ne_nil ls hls).elim
    | cons g gs =>
      rw [groupLines, hls]
      dsimp only
      split
      · exact ⟨_, _, rfl, List.cons_ne_nil _ _⟩
      · exact ⟨_, _, rfl, List.cons_ne_nil _ _⟩

/-- At a separator a chunk ends, and the next one begins with the end of its line. -/
theorem splitChunks_append {before after : String} (h : Unbroken before.toList) :
    splitChunks (before ++ "\n" ++ "---\n" ++ after) =
      (before ++ "\n") :: (splitChunks after).modifyHead ("\n" ++ ·) := by
  have hlines : Text.cutAt '\n' (before ++ "\n" ++ "---\n" ++ after).toList =
      Text.cutAt '\n' before.toList ++ ['-', '-', '-'] :: Text.cutAt '\n' after.toList := by
    have hsep : Text.cutAt '\n' (['-', '-', '-'] ++ '\n' :: after.toList) =
        ['-', '-', '-'] :: Text.cutAt '\n' after.toList := Text.cutAt_append _ _ _
    rw [← hsep, ← Text.cutAt_append]
    simp
  have hbefore : joinLines (Text.cutAt '\n' before.toList ++ [[]]) = (before ++ "\n").toList := by
    have hend : Text.cutAt '\n' before.toList ++ [[]] =
        Text.cutAt '\n' (before ++ "\n").toList := by
      rw [String.toList_append]
      exact (Text.cutAt_append _ _ []).symm
    rw [hend]
    exact Text.intercalate_cutAt _ _
  obtain ⟨g, gs, hgroups, hg⟩ := groupLines_cutAt after.toList
  rw [splitChunks, hlines, groupLines_append h rfl, splitChunks, hgroups]
  simp only [List.modifyHead_cons, List.map_cons, hbefore, joinLines_nil_cons hg]
  rw [String.ofList_toList, String.ofList_cons]
  rfl

theorem append_heading {lead : String} {s : Suite} (hlead : Unbroken lead.toList)
    (hs : Yaml.Remarks (remark s.comment).toList) :
    ∃ before : String, lead ++ heading s = before ++ "\n" ∧ Unbroken before.toList := by
  have hremarks : Yaml.Remarks ('\n' :: (remark s.comment).toList) := .blank hs
  obtain ⟨ds, hds⟩ := hremarks.eq_nil_or_append.resolve_left (List.cons_ne_nil _ _)
  have hbroken : Unbroken ds := by
    have hall := unbroken_remarks hremarks
    rw [hds] at hall
    exact (unbroken_append.1 hall).1
  refine ⟨String.ofList (lead.toList ++ '\n' :: ds), ?_, ?_⟩
  · apply String.toList_injective
    have hheading : (heading s).toList = '\n' :: '\n' :: (remark s.comment).toList := by
      rw [heading, String.toList_append]
      rfl
    rw [String.toList_append, hheading, hds, String.toList_append, String.toList_ofList]
    simp
  · rw [String.toList_ofList]
    exact unbroken_append.2 ⟨hlead, hbroken⟩

/-- The chunks of a file are the ones that were written. -/
theorem splitChunks_suitesText {lead : String} {ss : List Suite} (hlead : Unbroken lead.toList)
    (hremarks : ∀ s ∈ ss, Yaml.Remarks (remark s.comment).toList)
    (hss : ∀ s ∈ ss, Unbroken (chunkText s).toList) :
    splitChunks (lead ++ suitesText ss) = (lead ++ following ss) :: chunksOf ss := by
  induction ss generalizing lead with
  | nil =>
    rw [suitesText, following, String.append_empty]
    exact splitChunks_of_unbroken hlead
  | cons s ss ih =>
    obtain ⟨hs, hrest⟩ := List.forall_mem_cons.1 hss
    obtain ⟨hremark, hremarks⟩ := List.forall_mem_cons.1 hremarks
    obtain ⟨before, hbefore, hbroken⟩ := append_heading hlead hremark
    have htext : lead ++ suitesText (s :: ss) =
        before ++ "\n" ++ "---\n" ++ (chunkText s ++ suitesText ss) := by
      rw [← hbefore, suitesText]
      simp only [String.append_assoc]
    rw [htext, splitChunks_append hbroken, ih hs hremarks hrest, ← hbefore, List.modifyHead_cons,
      ← String.append_assoc]
    rfl

/-- A comment whose lines end in no other way, and whose characters a file may hold. -/
structure PlainComment (comment : String) : Prop where
  breaks : ∀ c ∈ comment.toList, Yaml.isBreak c = true → c = '\n'
  allowed : comment.toList.all Yaml.isAllowed = true

instance (comment : String) : Decidable (PlainComment comment) :=
  decidable_of_iff ((comment.toList.all fun c => !Yaml.isBreak c || c == '\n') = true ∧
      comment.toList.all Yaml.isAllowed = true)
    ⟨fun h => ⟨fun c hc hbreak => by simpa [hbreak] using List.all_eq_true.1 h.1 c hc, h.2⟩,
      fun h => ⟨List.all_eq_true.2 fun c hc => by
        by_cases hbreak : Yaml.isBreak c = true
        · simp [h.breaks c hc hbreak]
        · simp [hbreak], h.allowed⟩⟩

variable {comment : String}

theorem PlainComment.remarks (h : PlainComment comment) : Yaml.Remarks (remark comment).toList := by
  have hlines {lines : List (List Char)} (hlines : ∀ l ∈ lines, ∀ c ∈ l, Yaml.isBreak c = false) :
      Yaml.Remarks (lines.flatMap fun line => '#' :: ' ' :: (line ++ ['\n'])) := by
    induction lines with
    | nil => exact .nil
    | cons l ls ih =>
      obtain ⟨hl, hls⟩ := List.forall_mem_cons.1 hlines
      have hline : ∀ c ∈ ' ' :: l, Yaml.isBreak c = false := List.forall_mem_cons.2 ⟨rfl, hl⟩
      have hremark := Yaml.Remarks.remark hline (ih hls)
      simpa using hremark
  unfold remark
  split
  · exact .nil
  · rw [commentText, String.toList_ofList]
    refine hlines fun l hl c hc => ?_
    obtain ⟨hmem, hne⟩ := Text.mem_of_mem_cutAt hl c hc
    exact Bool.eq_false_iff.2 fun hbreak => hne (h.breaks c hmem hbreak)

theorem mem_remark {c : Char} (hc : c ∈ (remark comment).toList) :
    c ∈ ['#', ' ', '\n'] ∨ c ∈ comment.toList := by
  unfold remark at hc
  split at hc
  · cases hc
  · rw [commentText, String.toList_ofList] at hc
    obtain ⟨l, hl, hcl⟩ := List.mem_flatMap.1 hc
    simp only [List.mem_cons, List.mem_append, List.not_mem_nil, or_false] at hcl
    rcases hcl with rfl | rfl | hcl | rfl
    · exact .inl (by decide)
    · exact .inl (by decide)
    · exact .inr (Text.mem_of_mem_cutAt hl c hcl).1
    · exact .inl (by decide)

theorem PlainComment.remark_allowed (h : PlainComment comment) :
    (remark comment).toList.all Yaml.isAllowed = true := by
  have hmarks : ['#', ' ', '\n'].all Yaml.isAllowed = true := by decide
  refine List.all_eq_true.2 fun c hc => ?_
  rcases mem_remark hc with hc | hc
  · exact List.all_eq_true.1 hmarks c hc
  · exact List.all_eq_true.1 h.allowed c hc

theorem PlainComment.no_return (h : PlainComment comment) : '\r' ∉ (remark comment).toList := by
  intro hmem
  rcases mem_remark hmem with hmem | hmem
  · exact absurd hmem (by decide)
  · exact absurd (h.breaks _ hmem rfl) (by decide)

end PlanFile

end Runbook
