import Runbook.Proofs.Screen.Markup
import Runbook.Proofs.Screen.Wrap
import Runbook.Screen.Report

namespace Runbook.Screen

open Markup

theorem Markup.Shown.exists_lines {x : Shown} (h : x.IsCalm) (width : Nat) :
    ∃ ls, x.lines width = .ok ls := by
  have hstops : x.stops = [] := by
    apply List.filter_eq_nil_iff.2
    intro s hs
    rw [h s hs]
    exact Bool.false_ne_true
  have hglyphs : Calm x.glyphs := by
    intro g hg
    obtain ⟨i, hi, rfl⟩ := List.mem_mapIdx.1 hg
    rw [hstops]
    rfl
  have hlines : (wrap width x.glyphs).any (·.any (·.stops)) = false := by
    apply List.any_eq_false.2
    intro l hl
    rw [Bool.not_eq_true, List.any_eq_false]
    intro g hg
    rw [hglyphs.wrap width l hl g hg]
    exact Bool.false_ne_true
  refine ⟨(wrap width x.glyphs).map chars, ?_⟩
  unfold Shown.lines
  simp only [hlines, hstops, List.any_nil, Bool.or_self, Bool.false_eq_true, if_false]

theorem exists_print {markup : List Char} (h : Reads [] (tags 0 markup)) (k : Console) :
    ∃ t, print k markup = .ok t := by
  obtain ⟨x, hx, hcalm⟩ := exists_render h k.names
  obtain ⟨ls, hls⟩ := x.exists_lines hcalm k.width
  exact ⟨ofLines ls, by simp only [print, hx, hls, Except.map]⟩

theorem exists_printRule {markup : List Char} (h : Reads [] (tags 0 markup)) (k : Console) :
    ∃ t, printRule k markup = .ok t := by
  obtain ⟨x, hx, -⟩ := exists_render h k.names
  exact ⟨_, by rw [printRule, hx]; rfl⟩

theorem isUnshown_of_print {k : Console} {markup : List Char} {f : Fault}
    (h : print k markup = .error f) : IsUnshown f := by
  unfold print at h
  split at h
  · rename_i hr
    cases h
    exact isUnshown_of_render hr
  · have hl := map_eq_error h
    unfold Shown.lines at hl
    dsimp only at hl
    split at hl
    · cases hl
      exact .inr rfl
    · cases hl

theorem isBracket_of_mem_toString {n : Int} {c : Char} (h : c ∈ (toString n).toList) :
    isBracket c = false := by
  have hnat : ∀ m : Nat, c ∈ m.repr.toList → isBracket c = false := by
    intro m hm
    rw [Nat.repr, String.toList_ofList] at hm
    have hd := Nat.isDigit_of_mem_toDigits (by decide) (by decide) hm
    apply isBracket_of_ne
    · rintro rfl
      cases hd
    · rintro rfl
      cases hd
  cases n with
  | ofNat m => exact hnat m h
  | negSucc m =>
    have hs : (toString (Int.negSucc m)).toList = '-' :: (m + 1).repr.toList :=
      String.toList_append
    rw [hs] at h
    obtain rfl | h := List.mem_cons.1 h
    · rfl
    · exact hnat (m + 1) h

theorem bracket?_toString (n : Int) : bracket? (toString n).toList = none := by
  apply bracket?_eq_none
  apply List.all_eq_true.2
  intro c hc
  rw [isBracket_of_mem_toString hc]
  rfl

def styleNames : List String := [
  "cyan", "dim", "yellow", "red", "bold white", "bold green", "bold red"]

theorem read_styleNames : ∀ name ∈ styleNames,
    Change.read name.toList = .ok (.opens ⟨name.toList, none⟩) ∧
      Change.read ('/' :: name.toList) = .ok (.closes (some name.toList)) ∧
      Style.stops name.toList = false ∧ Tag.isHandler ⟨name.toList, none⟩ = false := by
  decide +kernel

theorem isTag_styleNames : ∀ name ∈ styleNames,
    isTag name.toList ∧ isTag ('/' :: name.toList) := by
  decide +kernel

theorem Markup.Reads.style {name : String} (h : name ∈ styleNames) {opened : List Tag}
    {bodies : List (List Char)} (hb : Reads (⟨name.toList, none⟩ :: opened) bodies) :
    Reads opened (name.toList :: bodies) := by
  obtain ⟨hr, -, hs, -⟩ := read_styleNames name h
  exact .opens hr hs hb

theorem Markup.Reads.endStyle {name : String} (h : name ∈ styleNames) {opened : List Tag}
    {bodies : List (List Char)} (hb : Reads opened bodies) :
    Reads (⟨name.toList, none⟩ :: opened) (('/' :: name.toList) :: bodies) := by
  obtain ⟨-, hr, -, hplain⟩ := read_styleNames name h
  have hclosed : Tag.closedBy (some name.toList) ⟨name.toList, none⟩ = true := by
    simp [Tag.closedBy]
  refine .closes hr (List.find?_cons_of_pos hclosed) hplain ?_
  rw [List.eraseP_cons_of_pos hclosed]
  exact hb

theorem Markup.Reads.endStyleOr {name : String} (h : name ∈ styleNames) {opened : List Tag}
    {bodies : List (List Char)} (hb : ∀ opened, Reads opened bodies) (p : Prop) [Decidable p] :
    Reads (⟨name.toList, none⟩ :: opened)
      ((if p then [] else ['/' :: name.toList]) ++ bodies) := by
  split
  · exact hb _
  · exact .endStyle h (hb opened)

theorem tags_blank (slashes : Nat) (rest : List Char) : tags slashes (' ' :: rest) = tags 0 rest :=
  tags_cons_of_ne (by decide) (by decide) slashes rest

theorem tags_blanks (slashes : Nat) (rest : List Char) :
    tags slashes (spaces 2 ++ rest) = tags 0 rest :=
  (tags_blank slashes (' ' :: rest)).trans (tags_blank 0 rest)

theorem opensFirst_open (cs : List Char) : OpensFirst ('[' :: cs) := by
  intro h
  cases h

/-- A text in a style is read, whether what it ends with takes the meaning of its closing tag away or
not. -/
theorem reads_styled {name : String} (h : name ∈ styleNames) {cs rest : List Char} (hcs : Silent cs)
    (hrest : ∀ opened, Reads opened (tags 0 rest)) (opened : List Tag) :
    Reads opened (tags 0 (styled name cs ++ rest)) := by
  obtain ⟨hopen, hclose⟩ := isTag_styleNames name h
  obtain ⟨n, hn⟩ := hcs _ (opensFirst_open (('/' :: name.toList) ++ ']' :: rest))
  have htags : tags 0 (styled name cs ++ rest) =
      name.toList :: ((if n % 2 = 1 then [] else ['/' :: name.toList]) ++ tags 0 rest) := by
    calc
      _ = tags 0 ('[' :: (name.toList ++ ']' :: (cs ++ '[' :: (('/' :: name.toList) ++
            ']' :: rest)))) := by
        simp [styled]
      _ = name.toList :: tags n ('[' :: (('/' :: name.toList) ++ ']' :: rest)) := by
        rw [tags_tag hopen, hn]
        rfl
      _ = _ := by rw [tags_tag hclose]
  rw [htags]
  exact .style h (.endStyleOr h hrest _)

theorem reads_nil (opened : List Tag) : Reads opened (tags 0 []) := by
  rw [tags_nil]
  exact .nil opened

theorem reads_styled_last {name : String} (h : name ∈ styleNames) {cs : List Char} (hcs : Silent cs)
    (opened : List Tag) : Reads opened (tags 0 (styled name cs)) := by
  have hreads := reads_styled h hcs reads_nil opened
  rwa [List.append_nil] at hreads

theorem exists_suiteRule (k : Console) (name : String) {via : List Char}
    (hvia : ∀ opened, Reads opened (tags 0 via)) :
    ∃ t, printRule k (styled "cyan" ("SUITE ".toList ++ escape name) ++ via) = .ok t := by
  have hname : Silent ("SUITE ".toList ++ (escape name ++ [])) :=
    silent_escape (by decide) rfl name
  rw [List.append_nil] at hname
  exact exists_printRule (reads_styled (by decide) hname hvia []) k

theorem exists_suiteStart (k : Console) (name : String) (parent : Option String) :
    ∃ t, suiteStart k name parent = .ok t := by
  unfold suiteStart
  dsimp only
  cases parent with
  | none =>
    obtain ⟨t, ht⟩ := exists_suiteRule k name reads_nil
    exact ⟨_, by rw [ht]; rfl⟩
  | some p =>
    dsimp only
    split
    · obtain ⟨t, ht⟩ := exists_suiteRule k name reads_nil
      exact ⟨_, by rw [ht]; rfl⟩
    · have hvia : ∀ opened, Reads opened
          (tags 0 (' ' :: styled "dim" ("(via ".toList ++ (escape p ++ [')'])))) := by
        intro opened
        rw [tags_blank]
        exact reads_styled_last (by decide) (silent_escape (by decide) rfl p) opened
      obtain ⟨t, ht⟩ := exists_suiteRule k name hvia
      exact ⟨_, by rw [ht]; rfl⟩

theorem exists_skipping (k : Console) (count : Int) : ∃ t, skipping k count = .ok t := by
  have htext : '[' ∉ "↳ Skipping ".toList ++ ((toString count).toList ++ " test(s)…".toList) := by
    apply not_mem_of_bracket?
    rw [bracket?_append, bracket?_append, bracket?_toString]
    rfl
  apply exists_print
  rw [tags_blanks]
  exact reads_styled_last (by decide) (silent_of_not_mem htext) []

theorem bracket?_statusText (r : Run) : bracket? (statusText r) = none := by
  unfold statusText
  cases r.response with
  | none => rfl
  | some a => exact bracket?_toString a.status

/-- A step is shown if its path is a text and its method opens no bracket. -/
theorem exists_stepResult {r : Run} {path : String} (hp : r.path = .str path)
    (hm : '[' ∉ (Text.upper r.method).toList) (k : Console) :
    ∃ t, stepResult k r = .ok t := by
  have hmethod : Silent (padEnd 6 (Text.upper r.method).toList) := by
    apply silent_of_not_mem
    simp [padEnd, spaces, hm]
  have hstatus : bracket? (" → ".toList ++ statusText r) = none := by
    rw [bracket?_append, bracket?_statusText]
    rfl
  have hname (opened : List Tag) : Reads opened
      (tags 0 (styled "dim" (escape r.name ++ (" → ".toList ++ statusText r)))) :=
    reads_styled_last (by decide) (@silent_escape [] _ rfl hstatus r.name) opened
  have hpath (opened : List Tag) : Reads opened (tags 0 (' ' :: (escape path ++ (spaces 2 ++
      styled "dim" (escape r.name ++ (" → ".toList ++ statusText r)))))) := by
    have hopens : OpensFirst (spaces 2 ++
        styled "dim" (escape r.name ++ (" → ".toList ++ statusText r))) := by
      intro h
      cases h
    obtain ⟨n, hn⟩ := tags_escape hopens path
    rw [tags_blank, hn, tags_blanks]
    exact hname opened
  have hmark : ∀ rest, (∀ opened, Reads opened (tags 0 rest)) →
      Reads [] (tags 0 ((if r.error.isNone then styled "bold green" ['✓']
        else styled "bold red" ['✗']) ++ rest)) := by
    intro rest hrest
    split
    · exact reads_styled (by decide) (silent_of_not_mem (by decide)) hrest []
    · exact reads_styled (by decide) (silent_of_not_mem (by decide)) hrest []
  unfold stepResult
  rw [hp]
  dsimp only [pathText]
  apply exists_print
  rw [tags_blanks]
  apply hmark
  intro opened
  rw [tags_blank]
  exact reads_styled (by decide) hmethod hpath opened

theorem stepResult_of_path {r : Run} (hp : ∀ t, r.path ≠ .str t) (k : Console) :
    stepResult k r = .error (.data .kind) := by
  unfold stepResult pathText
  cases h : r.path with
  | str t => exact absurd h (hp t)
  | _ => rfl

end Runbook.Screen
