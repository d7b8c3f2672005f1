import Runbook.Corpus
import Runbook.Proofs.Json.Blank
import Runbook.Proofs.Payload
import Runbook.Proofs.Text.Lines

namespace Runbook.Corpus

variable {path : String} {number : Nat} {p q : Plan} {n m : Tally} {l tail cs : List Char}
  {ls ms : List (List Char)} {x : Payload} {xs ys : List Payload}

def records? : List (List Char) → Option (List Payload)
  | [] => some []
  | l :: ls =>
    if l.all Text.isBlank then records? ls
    else
      match Payload.readLine (String.ofList l) with
      | .ok x => (records? ls).map (x :: ·)
      | .mistaken _ => none

/-- Put records where they belong, up to the first that has no place. -/
def takeAll (p : Plan) (n : Tally) : List Payload → Plan × Except Fault Tally
  | [] => (p, .ok n)
  | x :: xs =>
    match take p n x with
    | .error f => (p, .error f)
    | .ok (p, n) => takeAll p n xs

theorem takeLines_eq (h : records? ls = some xs) (path : String) (number : Nat) (p : Plan)
    (n : Tally) : takeLines path ls number p n = takeAll p n xs := by
  induction ls generalizing number p n xs with
  | nil =>
    obtain rfl := Option.some.inj h
    rfl
  | cons l ls ih =>
    rw [records?] at h
    rw [takeLines]
    split at h
    · rename_i hblank
      rw [if_pos hblank, ih h]
    · rename_i hblank
      rw [if_neg hblank, record]
      cases hread : Payload.readLine (String.ofList l) with
      | mistaken ms =>
        rw [hread] at h
        cases h
      | ok x =>
        rw [hread] at h
        obtain ⟨ys, hys, rfl⟩ := Option.map_eq_some_iff.1 h
        rw [takeAll]
        dsimp only
        cases take p n x with
        | error f => rfl
        | ok r => exact ih hys (number + 1) r.1 r.2

theorem records?_of_takeLines (h : takeLines path ls number p n = (q, .ok m)) :
    ∃ xs, records? ls = some xs := by
  induction ls generalizing number p n with
  | nil => exact ⟨[], rfl⟩
  | cons l ls ih =>
    rw [takeLines] at h
    rw [records?]
    split at h
    · rename_i hblank
      rw [if_pos hblank]
      exact ih h
    · rename_i hblank
      rw [if_neg hblank]
      rw [record] at h
      cases hread : Payload.readLine (String.ofList l) with
      | mistaken ms =>
        rw [hread] at h
        cases h
      | ok x =>
        rw [hread] at h
        dsimp only at h
        split at h
        · cases h
        · obtain ⟨xs, hxs⟩ := ih h
          exact ⟨x :: xs, by rw [hxs]; rfl⟩

theorem records?_append (ls ms : List (List Char)) :
    records? (ls ++ ms) = (records? ls).bind fun xs => (records? ms).map (xs ++ ·) := by
  induction ls with
  | nil => simp [records?]
  | cons l ls ih =>
    rw [List.cons_append, records?, records?, ih]
    split
    · rfl
    · split
      · cases records? ls <;> cases records? ms <;> rfl
      · rfl

/-- A line as records are written: a mapping without control characters. -/
structure IsLine (l : List Char) (x : Payload) : Prop where
  read : Payload.readLine (String.ofList l) = .ok x
  shown : ∀ c ∈ l, Json.Style.isShown c = true
  start : l.head? = some '{'

theorem IsLine.not_mem (h : IsLine l x) {c : Char} (hc : Json.Style.isShown c = false) : c ∉ l :=
  fun hmem => by
    rw [h.shown c hmem] at hc
    cases hc

theorem IsLine.not_blank (h : IsLine l x) (tail : List Char) :
    ¬ (tail ++ l).all Text.isBlank = true := by
  intro hall
  have hbrace : Text.isBlank '{' = false := by decide
  rw [List.all_eq_true.1 hall '{' (List.mem_append_right _ (List.mem_of_head? h.start))] at hbrace
  cases hbrace

theorem records?_cons (h : IsLine l x) (ls : List (List Char)) :
    records? (l :: ls) = (records? ls).map (x :: ·) := by
  have hblank : ¬ l.all Text.isBlank = true := h.not_blank []
  rw [records?, if_neg hblank, h.read]

theorem records?_lines (h : List.Forall₂ IsLine ls xs) : records? (ls ++ [[]]) = some xs := by
  induction h with
  | nil => rfl
  | cons hl _ ih => rw [List.cons_append, records?_cons hl, ih, Option.map_some]

theorem records?_behind_spaces (h : IsLine l x) (htail : ∀ c ∈ tail, Json.Token.isSpace c = true) :
    records? [tail ++ l] = some [x] := by
  have hread : Payload.readLine (String.ofList (tail ++ l)) = .ok x := by
    rw [← h.read, Payload.readLine, Payload.readLine, String.toList_ofList, String.toList_ofList,
      Json.read_spaces _ htail]
  rw [records?, if_neg (h.not_blank tail), hread]
  rfl

/-- Behind anything else that a file may end in, a line is lost with what it goes on with. -/
theorem records?_behind_other (h : IsLine l x) (htail : ∃ c ∈ tail, Json.Token.isSpace c = false)
    (hread : (records? [tail]).isSome = true) : records? [tail ++ l] = none := by
  have hmore : Json.Token.EndsWord l := fun c hc => by
    rw [h.start] at hc
    exact Option.some.inj hc ▸ rfl
  have hne : Json.Token.ofText l ≠ [] := by
    obtain ⟨cs, rfl⟩ := List.head?_eq_some_iff.1 h.start
    rw [Json.Style.ofText_openMap]
    exact List.cons_ne_nil _ _
  have hfault : ∃ f, Json.read (some Payload.depthLimit) (tail ++ l) = .error f := by
    rw [records?] at hread
    split at hread
    · rename_i hblank
      exact Json.read_blanks _ (List.all_eq_true.1 hblank) htail l
    · rw [Payload.readLine, String.toList_ofList] at hread
      cases hj : Json.read (some Payload.depthLimit) tail with
      | ok j => exact Json.read_append hj hmore hne
      | error f =>
        rw [hj] at hread
        cases hread
  obtain ⟨f, hf⟩ := hfault
  rw [records?, if_neg (h.not_blank tail), Payload.readLine, String.toList_ofList, hf]
  rfl

def lastLine (cs : List Char) : List Char := (Text.cutAt '\n' cs).getLast?.getD []

/-- Whether what is written next starts a new line, but for blanks. -/
def EndsLine (cs : List Char) : Prop := ∀ c ∈ lastLine cs, Json.Token.isSpace c = true

instance (cs : List Char) : Decidable (EndsLine cs) :=
  decidable_of_iff ((lastLine cs).all Json.Token.isSpace = true) List.all_eq_true

def joined (ls : List (List Char)) : List Char := ls.flatMap (· ++ ['\n'])

theorem isBlank_of_isSpace {c : Char} (h : Json.Token.isSpace c = true) :
    Text.isBlank c = true := by
  simp only [Json.Token.isSpace, Bool.or_eq_true, beq_iff_eq] at h
  rcases h with ((rfl | rfl) | rfl) | rfl <;> rfl

theorem records?_spaces (h : ∀ c ∈ tail, Json.Token.isSpace c = true) :
    records? [tail] = some [] := by
  have hblank : tail.all Text.isBlank = true :=
    List.all_eq_true.2 fun c hc => isBlank_of_isSpace (h c hc)
  rw [records?, if_pos hblank]
  rfl

theorem lastLine_eq (hls : ∀ l ∈ ls, '\n' ∉ l) (htail : '\n' ∉ tail) :
    lastLine (joined ls ++ tail) = tail := by
  rw [lastLine, joined, Text.cutAt_lines hls htail, List.getLast?_append, List.getLast?_singleton]
  rfl

theorem cutAt_append_lines (hls : ∀ l ∈ ls, '\n' ∉ l) (htail : '\n' ∉ tail) (hl : '\n' ∉ l)
    (hms : ∀ l ∈ ms, '\n' ∉ l) :
    Text.cutAt '\n' (joined ls ++ tail ++ joined (l :: ms)) =
      ls ++ ([tail ++ l] ++ (ms ++ [[]])) := by
  have hlines : ∀ k ∈ ls ++ (tail ++ l) :: ms, '\n' ∉ k := by
    rw [List.forall_mem_append, List.forall_mem_cons]
    exact ⟨hls, by simp [htail, hl], hms⟩
  have htext : joined ls ++ tail ++ joined (l :: ms) =
      (ls ++ (tail ++ l) :: ms).flatMap (· ++ ['\n']) ++ [] := by
    simp [joined]
  rw [htext, Text.cutAt_lines hlines List.not_mem_nil, List.append_assoc, List.cons_append]
  rfl

/-- The records of a file that lines are written behind. They are the old ones and the new ones if the
file did not end in the middle of a line; else there are none any more. -/
theorem records?_append_lines (hold : records? (Text.cutAt '\n' cs) = some ys)
    (hnew : List.Forall₂ IsLine ls xs) :
    records? (Text.cutAt '\n' (cs ++ joined ls)) =
      if xs = [] ∨ EndsLine cs then some (ys ++ xs) else none := by
  obtain ⟨init, tail, hinit, htail, hcs⟩ := Text.exists_lines '\n' cs
  change cs = joined init ++ tail at hcs
  subst hcs
  cases hnew with
  | nil =>
    have hnone : joined [] = [] := rfl
    rw [if_pos (.inl rfl), hnone, List.append_nil, List.append_nil, hold]
  | @cons l x ls xs hl hls =>
    have hlines {ls : List (List Char)} {xs : List Payload} (h : List.Forall₂ IsLine ls xs) :
        ∀ l ∈ ls, '\n' ∉ l := by
      induction h with
      | nil => exact List.forall_mem_nil _
      | cons hl _ ih => exact List.forall_mem_cons.2 ⟨hl.not_mem rfl, ih⟩
    have hends : EndsLine (joined init ++ tail) ↔ ∀ c ∈ tail, Json.Token.isSpace c = true := by
      rw [EndsLine, lastLine_eq hinit htail]
    rw [joined, Text.cutAt_lines hinit htail, records?_append] at hold
    obtain ⟨ys₁, hys₁, hrest⟩ := Option.bind_eq_some_iff.1 hold
    obtain ⟨ys₂, hys₂, rfl⟩ := Option.map_eq_some_iff.1 hrest
    rw [cutAt_append_lines hinit htail (hl.not_mem rfl) (hlines hls), records?_append,
      records?_append, hys₁, records?_lines hls]
    by_cases hspaces : ∀ c ∈ tail, Json.Token.isSpace c = true
    · obtain rfl := Option.some.inj (hys₂.symm.trans (records?_spaces hspaces))
      rw [records?_behind_spaces hl hspaces, if_pos (.inr (hends.2 hspaces)), List.append_nil]
      rfl
    · have hother : ∃ c ∈ tail, Json.Token.isSpace c = false := by
        simpa using hspaces
      rw [records?_behind_other hl hother (by rw [hys₂]; rfl), if_neg]
      · rfl
      · rw [hends]
        simp [hspaces]

theorem records?_joined (h : List.Forall₂ IsLine ls xs) :
    records? (Text.cutAt '\n' (joined ls)) = some xs := by
  have hempty : records? (Text.cutAt '\n' []) = some [] := rfl
  have hnew := records?_append_lines hempty h
  rw [if_pos (.inr (by decide))] at hnew
  exact hnew

end Runbook.Corpus
