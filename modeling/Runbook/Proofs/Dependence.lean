import Runbook.Proofs.Navigation
import Runbook.Proofs.Resolution

namespace Runbook

namespace Cutting

theorem exists_trailing {p : Occurrence × List Char} {ps : List (Occurrence × List Char)}
    (hp : p ∈ ps) : ∃ before after, trailing ps = before ++ (p.1.chars ++ after) := by
  obtain ⟨as, bs, rfl⟩ := List.append_of_mem hp
  exact ⟨trailing as, p.2 ++ trailing bs, by simp [trailing]⟩

/-- A reference that stands anywhere in a text is one of those that the text is cut into. -/
theorem mem_rest_of_chars {k : Cutting} {o : Occurrence} {before after : List Char}
    (hk : k.chars = before ++ (o.chars ++ after)) : ∃ p ∈ k.rest, p.1 = o := by
  obtain ⟨b, rfl⟩ := exists_chars before
  obtain ⟨a, rfl⟩ := exists_chars after
  have hclear : ∀ p ∈ b.rest ++ (o, a.first) :: a.rest, Clear p.2 :=
    List.forall_mem_append.2 ⟨b.clearRest, List.forall_mem_cons.2 ⟨a.clearFirst, a.clearRest⟩⟩
  have hwhole : k = ⟨b.first, b.rest ++ (o, a.first) :: a.rest, b.clearFirst, hclear⟩ := by
    refine chars_injective (hk.trans ?_)
    simp [chars, trailing]
  exact ⟨(o, a.first), by simp [hwhole], rfl⟩

theorem reference_mem_pieces {e : String} {ps : List (Occurrence × List Char)} :
    .reference e ∈ pieces ps ↔ ∃ p ∈ ps, p.1.name = e := by
  simp [pieces, eq_comm]

theorem reference_mem_split {cs : List Char} {e : String} :
    .reference e ∈ Piece.split 0 cs ↔
      ∃ (o : Occurrence) (before after : List Char), cs = before ++ (o.chars ++ after) ∧ o.name = e := by
  obtain ⟨k, rfl⟩ := exists_chars cs
  have hfirst : Piece.reference e ∉ k.first.map .char := by simp
  rw [split_chars, List.mem_append, or_iff_right hfirst, reference_mem_pieces]
  constructor
  · rintro ⟨p, hp, he⟩
    obtain ⟨before, after, hrest⟩ := exists_trailing hp
    exact ⟨p.1, k.first ++ before, after, by rw [chars, hrest, List.append_assoc], he⟩
  · rintro ⟨o, before, after, hk, he⟩
    obtain ⟨p, hp, rfl⟩ := mem_rest_of_chars hk
    exact ⟨p, hp, he⟩

end Cutting

namespace Reference

variable {h h' : History}

/-- A step is named in a value: in one of the texts stands an expression that begins with it. -/
def Names (v : Value) (name : String) : Prop :=
  ∃ s ∈ v.texts, ∃ (o : Occurrence) (before after : List Char),
    s.toList = before ++ (o.chars ++ after) ∧ stepName? o.name = some name

theorem exists_stepName (expr : String) : ∃ name, stepName? expr = some name := by
  rw [stepName?, Text.cutAt_eq_splitOn]
  cases hparts : expr.toList.splitOn '.' with
  | nil => exact (List.splitOn_ne_nil _ _ hparts).elim
  | cons p ps => exact ⟨_, rfl⟩

theorem pieceTexts_congr {ps : List Piece}
    (hps : ∀ expr, .reference expr ∈ ps → lookup h expr = lookup h' expr) :
    pieceTexts h ps = pieceTexts h' ps := by
  induction ps with
  | nil => rfl
  | cons p ps ih =>
    have hrest := ih fun expr hexpr => hps expr (List.mem_cons_of_mem _ hexpr)
    cases p with
    | char c => rw [pieceTexts, pieceTexts, hrest]
    | reference expr => rw [pieceTexts, pieceTexts, hrest, hps expr List.mem_cons_self]

theorem resolve_text_congr {s : String}
    (hs : ∀ (o : Occurrence) (before after : List Char), s.toList = before ++ (o.chars ++ after) →
      lookup h o.name = lookup h' o.name) : resolve h (.str s) = resolve h' (.str s) := by
  rw [resolve, resolve, resolveText, resolveText]
  split
  · rename_i expr href
    obtain ⟨o, ho, rfl⟩ := Occurrence.reference?_eq_some_iff.1 href
    obtain ⟨before, after, hparts⟩ := strip_infix s.toList
    exact hs o before after (by rw [← hparts, ho]; simp)
  · rw [Piece.ofText, pieceTexts_congr fun expr hexpr => ?_]
    obtain ⟨o, before, after, ho, rfl⟩ := Cutting.reference_mem_split.1 hexpr
    exact hs o before after ho

mutual

theorem resolve_congr {v : Value} (hv : ∀ s ∈ v.texts, resolve h (.str s) = resolve h' (.str s)) :
    resolve h v = resolve h' v := by
  match v with
  | .str s => exact hv s (List.mem_singleton_self s)
  | .list items => rw [resolve, resolve, resolveItems_congr hv]
  | .map entries => rw [resolve, resolve, resolveEntries_congr hv]
  | .null | .bool _ | .int _ | .float _ | .tuple _ | .bytes _ | .set _ | .date _ | .dateTime _ => rfl

theorem resolveItems_congr {vs : List Value}
    (hvs : ∀ s ∈ Value.itemTexts vs, resolve h (.str s) = resolve h' (.str s)) :
    resolveItems h vs = resolveItems h' vs := by
  match vs with
  | [] => rfl
  | v :: vs =>
    obtain ⟨hv, hrest⟩ := List.forall_mem_append.1 hvs
    rw [resolveItems, resolveItems, resolve_congr hv, resolveItems_congr hrest]

theorem resolveEntries_congr {es : List (Value × Value)}
    (hes : ∀ s ∈ Value.entryTexts es, resolve h (.str s) = resolve h' (.str s)) :
    resolveEntries h es = resolveEntries h' es := by
  match es with
  | [] => rfl
  | (k, v) :: es =>
    obtain ⟨hv, hrest⟩ := List.forall_mem_append.1 hes
    rw [resolveEntries, resolveEntries, resolve_congr hv, resolveEntries_congr hrest]

end

theorem resolve_alike {v : Value}
    (hnames : ∀ name, Names v name → Option.Rel Run.Alike (h.get? name) (h'.get? name)) :
    resolve h v = resolve h' v := by
  refine resolve_congr fun s hs => resolve_text_congr fun o before after ho => ?_
  obtain ⟨name, hname⟩ := exists_stepName o.name
  exact lookup_alike hname (hnames name ⟨s, hs, o, before, after, ho, hname⟩)

theorem get?_eq_getLast? (rs : List Run) (name : String) :
    (History.mk rs).get? name = (rs.filter (·.name == name)).getLast? := by
  rw [History.get?, ← List.head?_filter, List.filter_reverse, List.head?_reverse]

theorem get?_insert {before after : List Run} {r : Run} {name : String}
    (hr : r.name = name → ∃ q ∈ after, q.name = name) :
    (History.mk (before ++ r :: after)).get? name = (History.mk (before ++ after)).get? name := by
  rw [get?_eq_getLast?, get?_eq_getLast?, List.filter_append, List.filter_append]
  by_cases hname : r.name = name
  · obtain ⟨q, hq, hqn⟩ := hr hname
    have hne : after.filter (·.name == name) ≠ [] :=
      List.ne_nil_of_mem (List.mem_filter.2 ⟨hq, by simpa using hqn⟩)
    rw [List.filter_cons_of_pos (by simpa using hname), List.getLast?_append_of_ne_nil _ hne,
      List.getLast?_append_of_ne_nil _ (List.cons_ne_nil _ _), List.getLast?_cons_of_ne_nil hne]
  · rw [List.filter_cons_of_neg (by simpa using hname)]

/-- Resolving a value depends only on the last run of each step that is named in it, and of that run on
the answer and the arguments: two histories that agree in these give the same value or the same fault.
So it makes no difference if a run of another step, or one with a later run of its step behind it, is
there or is not, nor where it stands. -/
theorem resolve_depends (v : Value) :
    (∀ h h' : History,
      (∀ name, Names v name → Option.Rel Run.Alike (h.get? name) (h'.get? name)) →
        resolve h v = resolve h' v) ∧
    (∀ before r after, (Names v r.name → ∃ q ∈ after, q.name = r.name) →
      resolve ⟨before ++ r :: after⟩ v = resolve ⟨before ++ after⟩ v) ∧
    ∀ rs rs' : List Run,
      (∀ name, Names v name → (rs.filter (·.name == name)).getLast? =
        (rs'.filter (·.name == name)).getLast?) →
      resolve ⟨rs⟩ v = resolve ⟨rs'⟩ v := by
  refine ⟨fun h h' => resolve_alike, fun before r after hr => ?_, fun rs rs' hlast => ?_⟩
  · refine resolve_alike fun name hname => Run.rel_alike_of_eq (get?_insert fun he => ?_)
    exact he ▸ hr (he ▸ hname)
  · refine resolve_alike fun name hname => Run.rel_alike_of_eq ?_
    rw [get?_eq_getLast?, get?_eq_getLast?, hlast name hname]

def asking : Value := .list [.str "/pets/{{a.outputs}}", .int 3]

def seen : History :=
  ⟨[answered "a" (.int 1), answered "b" (.int 1), answered "a" (.int 7)]⟩

def seenOtherwise : History :=
  ⟨[{ answered "a" (.int 7) with method := "put" }, answered "b" (.int 2)]⟩

theorem names_asking {name : String} (hname : Names asking name) : name = "a" := by
  obtain ⟨s, hs, o, front, back, ho, hstep⟩ := hname
  obtain rfl := List.mem_singleton.1 hs
  have hread : Piece.reference o.name ∈ Piece.split 0 "/pets/{{a.outputs}}".toList :=
    Cutting.reference_mem_split.2 ⟨o, front, back, ho, rfl⟩
  have hsplit : Piece.split 0 "/pets/{{a.outputs}}".toList =
      "/pets/".toList.map .char ++ [.reference "a.outputs"] := by decide
  have hexpr : o.name = "a.outputs" := by
    rw [hsplit] at hread
    simpa using hread
  rw [hexpr] at hstep
  exact (Option.some.inj hstep).symm

theorem resolve_depends_asking :
    (∀ name, Names asking name → Option.Rel Run.Alike (seen.get? name) (seenOtherwise.get? name)) ∧
      resolve seen asking = resolve seenOtherwise asking := by
  have hagree : ∀ name, Names asking name →
      Option.Rel Run.Alike (seen.get? name) (seenOtherwise.get? name) := by
    intro name hname
    obtain rfl := names_asking hname
    exact .some ⟨rfl, rfl⟩
  exact ⟨hagree, (resolve_depends asking).1 seen seenOtherwise hagree⟩

end Reference

end Runbook
