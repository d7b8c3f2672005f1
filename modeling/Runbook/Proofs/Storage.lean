import Runbook.Proofs.Dict
import Runbook.Proofs.Text.Lines
import Runbook.Proofs.Text.Utf8
import Runbook.Storage

namespace Runbook.Storage

variable {s s' : Storage} {path : String} {p q : FilePath}

theorem of_mem_names {n : String} (h : n ∈ names path) : n ≠ "" ∧ n ≠ "." ∧ '/' ∉ n.toList := by
  obtain ⟨hmem, hname⟩ := List.mem_filter.1 h
  obtain ⟨cs, hcs, rfl⟩ := List.mem_map.1 hmem
  rw [Bool.and_eq_true, bne_iff_ne, bne_iff_ne] at hname
  refine ⟨hname.1, hname.2, fun hslash => ?_⟩
  rw [String.toList_ofList] at hslash
  exact (Text.mem_of_mem_cutAt hcs _ hslash).2 rfl

theorem cutAt_intercalate_names (h : names path ≠ []) :
    Text.cutAt '/' ("/".intercalate (names path)).toList = (names path).map String.toList := by
  rw [String.toList_intercalate]
  refine Text.cutAt_intercalate (fun l hl => ?_) (by simpa using h)
  obtain ⟨n, hn, rfl⟩ := List.mem_map.1 hl
  exact (of_mem_names hn).2.2

theorem names_intercalate_names (path : String) :
    names ("/".intercalate (names path)) = names path := by
  by_cases h : names path = []
  · rw [h]
    rfl
  · rw [names, cutAt_intercalate_names h, List.map_map]
    have hmap : (names path).map (String.ofList ∘ String.toList) = names path := by
      simp [Function.comp_def]
    rw [hmap, List.filter_eq_self]
    intro n hn
    obtain ⟨hempty, hdot, -⟩ := of_mem_names hn
    simp [hempty, hdot]

theorem names_slash (path : String) : names ("/" ++ path) = names path := by
  have hcut : Text.cutAt '/' ("/" ++ path).toList = [] :: Text.cutAt '/' path.toList := by
    rw [String.toList_append]
    exact Text.cutAt_append '/' [] path.toList
  rw [names, hcut]
  rfl

theorem names_normal (path : String) : names (normal path) = names path := by
  rw [normal]
  split
  · rw [names_slash, names_intercalate_names]
  · split
    · rename_i hempty
      rw [← names_intercalate_names path, String.isEmpty_iff.1 hempty]
      rfl
    · exact names_intercalate_names path

theorem isAbsolute_normal (path : String) : isAbsolute (normal path) = isAbsolute path := by
  rw [normal]
  cases habs : isAbsolute path with
  | true => simp [isAbsolute]
  | false =>
    simp only [Bool.false_eq_true, if_false]
    split
    · rfl
    · rename_i hne
      by_cases hnames : names path = []
      · rw [hnames] at hne
        exact (hne rfl).elim
      · have hcut := cutAt_intercalate_names hnames
        generalize "/".intercalate (names path) = joined at hne hcut
        rw [isAbsolute, beq_eq_false_iff_ne]
        intro hslash
        obtain ⟨cs, hcs⟩ := List.head?_eq_some_iff.1 hslash
        have hfirst : [] ∈ (names path).map String.toList := by
          rw [← hcut, hcs]
          exact (Text.cutAt_append '/' [] cs).symm ▸ List.mem_cons_self
        obtain ⟨n, hn, hempty⟩ := List.mem_map.1 hfirst
        exact (of_mem_names hn).1 (String.toList_eq_nil_iff.1 hempty)

theorem follow_mono (h : ∀ q, s.isDirectory q = true → s'.isDirectory q = true) {path' : String}
    {ns : List String} (hp : s.follow path ns p = .ok q) : s'.follow path' ns p = .ok q := by
  induction ns generalizing p with
  | nil => exact hp
  | cons n ns ih =>
    rw [follow] at hp ⊢
    split at hp
    · split at hp
      · rename_i hup hdir
        rw [if_pos hup, if_pos (h _ hdir)]
        exact ih hp
      · cases hp
    · rename_i hdown
      rw [if_neg hdown]
      exact ih hp

/-- The place of a path is the same where no directory is lost, also for the path in normal form. -/
theorem locate_mono (hcwd : s'.cwd = s.cwd)
    (h : ∀ q, s.isDirectory q = true → s'.isDirectory q = true) (hp : s.locate path = .ok p) :
    s'.locate path = .ok p ∧ s'.locate (normal path) = .ok p := by
  rw [locate, locate, names_normal, isAbsolute_normal, hcwd]
  exact ⟨follow_mono h hp, follow_mono h hp⟩

theorem file?_putFile (s : Storage) (p : FilePath) (data : List UInt8) :
    (s.putFile p data).file? p = some data := by
  rw [file?, putFile, Dict.get?_put, if_pos (beq_self_eq_true p)]

theorem file?_putFile_of_ne (h : q ≠ p) (data : List UInt8) :
    (s.putFile p data).file? q = s.file? q := by
  rw [file?, putFile, Dict.get?_put, if_neg (by simpa using Ne.symm h), file?]

theorem isDirectory_iff : s.isDirectory q = true ↔
    q <+: s.cwd ∨ (∃ e ∈ s.entries.entries, q <+: e.1 ∧ (e.2 = .directory ∨ q ≠ e.1)) := by
  rw [isDirectory, Bool.or_eq_true, List.isPrefixOf_iff_prefix, List.any_eq_true]
  refine or_congr_right (exists_congr fun e => and_congr_right fun _ => ?_)
  obtain ⟨x, data | _⟩ := e <;> simp

theorem isDirectory_of_prefix (h : p <+: q) (hq : s.isDirectory q = true) :
    s.isDirectory p = true := by
  rcases isDirectory_iff.1 hq with hcwd | ⟨e, he, hqe, hdir⟩
  · exact isDirectory_iff.2 (.inl (h.trans hcwd))
  · refine isDirectory_iff.2 (.inr ⟨e, he, h.trans hqe, hdir.imp id fun hne hpe => hne ?_⟩)
    exact hqe.eq_of_length (Nat.le_antisymm hqe.length_le (hpe ▸ h.length_le))

theorem prefix_dropLast (h : p <+: q) (hne : p ≠ q) : p <+: q.dropLast := by
  obtain ⟨rest, rfl⟩ := h
  have hrest : rest ≠ [] := fun hrest => hne (by rw [hrest, List.append_nil])
  rw [List.dropLast_append_of_ne_nil hrest]
  exact List.prefix_append p _

theorem isDirectory_putFile (hp : s.isDirectory p = false) (data : List UInt8) :
    (s.putFile p data).isDirectory q = true ↔ s.isDirectory q = true ∨ q <+: p ∧ q ≠ p := by
  have hcwd : (s.putFile p data).cwd = s.cwd := rfl
  have hput {e : FilePath × Entry} : e ∈ (s.putFile p data).entries.entries ↔
      e = (p, .file data) ∨ e.1 ≠ p ∧ e ∈ s.entries.entries := by
    obtain ⟨x, a⟩ := e
    rw [← Dict.get?_eq_some_iff, ← Dict.get?_eq_some_iff, putFile, Dict.get?_put]
    by_cases hx : p = x
    · simp [hx, eq_comm]
    · simp [hx, Ne.symm hx]
  rw [isDirectory_iff, isDirectory_iff, hcwd, or_assoc]
  refine or_congr_right ⟨?_, ?_⟩
  · rintro ⟨e, he, hq, hdir⟩
    rcases hput.1 he with rfl | ⟨-, hold⟩
    · exact .inr ⟨hq, hdir.resolve_left (by simp)⟩
    · exact .inl ⟨e, hold, hq, hdir⟩
  · rintro (⟨e, he, hq, hdir⟩ | ⟨hq, hne⟩)
    · by_cases hx : e.1 = p
      · rcases hdir with hdir | hdir
        · have hpdir : s.isDirectory p = true :=
            isDirectory_iff.2 (.inr ⟨e, he, hx ▸ List.prefix_refl _, .inl hdir⟩)
          rw [hp] at hpdir
          cases hpdir
        · exact ⟨(p, .file data), hput.2 (.inl rfl), hx ▸ hq, .inr (hx ▸ hdir)⟩
      · exact ⟨e, hput.2 (.inr ⟨hx, he⟩), hq, hdir⟩
    · exact ⟨(p, .file data), hput.2 (.inl rfl), hq, .inr hne⟩

theorem openFor_eq_ok (h : s.openFor false path = .ok s') :
    ∃ p, s.locate path = .ok p ∧ s.isDirectory p = false ∧ s.isDirectory p.dropLast = true ∧
      s' = s.putFile p [] := by
  rw [openFor] at h
  cases hp : s.locate path with
  | error f =>
    rw [hp] at h
    cases h
  | ok p =>
    rw [hp] at h
    dsimp only at h
    split at h
    · cases h
    · rename_i hdir
      split at h
      · cases h
      · rename_i hparent
        cases h
        rw [Bool.not_eq_true, Bool.or_eq_false_iff] at hdir
        exact ⟨p, rfl, hdir.1, by simpa using hparent, rfl⟩

theorem locate_opened (hp : s.locate path = .ok p) (hdir : s.isDirectory p = false) :
    (s.putFile p []).locate path = .ok p ∧ (s.putFile p []).isDirectory p = false := by
  constructor
  · exact (locate_mono (by rfl) (fun _ hq => (isDirectory_putFile hdir []).2 (.inl hq)) hp).1
  · rw [← Bool.not_eq_true, isDirectory_putFile hdir]
    simp [hdir]

/-- What is written to a file that was opened is read from it again. -/
theorem readText_append (h : s.openFor false path = .ok s') (text : String) :
    (s'.append path text).readText (normal path) = .ok (Text.unifyNewlines text.toList) := by
  obtain ⟨p, hp, hdir, -, rfl⟩ := openFor_eq_ok h
  obtain ⟨hplace, hopened⟩ := locate_opened hp hdir
  have hwritten : (s.putFile p []).append path text =
      (s.putFile p []).putFile p (Text.Utf8.encode text.toList) := by
    rw [append, hplace]
    dsimp only
    rw [file?_putFile]
    rfl
  have hagain := (locate_mono (by rfl) (fun q hq =>
    (isDirectory_putFile hopened (Text.Utf8.encode text.toList)).2 (.inl hq)) hplace).2
  rw [readText, hwritten, read, hagain]
  dsimp only
  rw [readAt, file?_putFile]
  dsimp only
  rw [Text.Utf8.decode?_encode]

section Directory

variable {directory name : String} {base : FilePath}

structure IsName (name : String) : Prop where
  names : names name = [name]
  up : name ≠ ".."

theorem IsName.plain (h : IsName name) : name ≠ "" ∧ name ≠ "." ∧ '/' ∉ name.toList :=
  have hmem : name ∈ Storage.names name := by
    rw [h.names]
    exact List.mem_singleton.2 rfl
  of_mem_names hmem

theorem names_join (directory name : String) :
    names (directory ++ "/" ++ name) = names directory ++ names name := by
  have htext : (directory ++ "/" ++ name).toList = directory.toList ++ '/' :: name.toList := by
    simp [String.toList_append]
  rw [names, htext, Text.cutAt_append, List.map_append, List.filter_append]
  rfl

theorem names_inDirectory (h : IsName name) :
    names (inDirectory directory name) = names directory ++ [name] := by
  rw [inDirectory, names_normal]
  split
  · rename_i hempty
    rw [String.isEmpty_iff.1 hempty, h.names]
    rfl
  · rw [names_join, h.names]

theorem isAbsolute_inDirectory (h : IsName name) :
    isAbsolute (inDirectory directory name) = isAbsolute directory := by
  rw [inDirectory, isAbsolute_normal]
  split
  · rename_i hempty
    have hslash : isAbsolute name = false := by
      rw [isAbsolute, beq_eq_false_iff_ne]
      exact fun hhead => h.plain.2.2 (List.mem_of_head? hhead)
    rw [String.isEmpty_iff.1 hempty, hslash]
    rfl
  · rename_i hne
    rw [String.isEmpty_iff, ← String.toList_eq_nil_iff] at hne
    obtain ⟨c, cs, hcs⟩ := List.exists_cons_of_ne_nil hne
    simp [isAbsolute, String.toList_append, hcs]

theorem follow_append {ns : List String} (h : s.follow path ns p = .ok q) (ms : List String) :
    s.follow path (ns ++ ms) p = s.follow path ms q := by
  induction ns generalizing p with
  | nil =>
    obtain rfl := Except.ok.inj h
    rfl
  | cons n ns ih =>
    rw [follow] at h
    rw [List.cons_append, follow]
    split at h
    · rename_i hup
      split at h
      · rename_i hdir
        rw [if_pos hup, if_pos hdir, ih h]
      · cases h
    · rename_i hdown
      rw [if_neg hdown, ih h]

theorem locate_inDirectory (h : IsName name) (hbase : s.locate directory = .ok base) :
    s.locate (inDirectory directory name) = .ok (base ++ [name]) := by
  rw [locate] at hbase
  have hbase' : s.follow (inDirectory directory name) (names directory)
      (if isAbsolute directory then [] else s.cwd) = .ok base := follow_mono (fun _ => id) hbase
  rw [locate, names_inDirectory h, isAbsolute_inDirectory h, follow_append hbase', follow,
    if_neg (by simpa using h.up), follow]

theorem namesDirectory_inDirectory (h : IsName name) :
    namesDirectory (inDirectory directory name) = false := by
  have hnames : names (inDirectory directory name) = names directory ++ [name] :=
    names_inDirectory h
  rw [inDirectory, names_normal] at hnames
  rw [inDirectory]
  generalize (if directory.isEmpty then name else directory ++ "/" ++ name) = path at hnames ⊢
  have hne : names path ≠ [] := by simp [hnames]
  have hcut := cutAt_intercalate_names hne
  rw [hnames, List.map_append, List.map_singleton] at hcut
  have hjoined : (Text.cutAt '/' ("/".intercalate (names directory ++ [name])).toList).getLast? =
      some name.toList := by
    rw [hcut, List.getLast?_append, List.getLast?_singleton]
    rfl
  obtain ⟨hempty, hdot, -⟩ := h.plain
  have hlast : (Text.cutAt '/' (normal path).toList).getLast? = some name.toList := by
    rw [normal, hnames]
    split
    · have hslash : Text.cutAt '/' ("/" ++ "/".intercalate (names directory ++ [name])).toList =
          [] :: Text.cutAt '/' ("/".intercalate (names directory ++ [name])).toList := by
        rw [String.toList_append]
        exact Text.cutAt_append '/' [] _
      rw [hslash, List.getLast?_cons, hjoined]
      rfl
    · split
      · rename_i hnone
        rw [String.isEmpty_iff.1 hnone] at hjoined
        exact (hempty (String.toList_eq_nil_iff.1 (Option.some.inj hjoined).symm)).elim
      · exact hjoined
  have hne {t : String} (ht : name ≠ t) : name.toList ≠ t.toList := fun heq =>
    ht (String.toList_injective heq)
  have hnone : ¬ name.toList ∈ [[], ['.'], ['.', '.']] := by
    simp only [List.mem_cons, List.not_mem_nil, or_false, not_or]
    exact ⟨hne (t := "") hempty, hne (t := ".") hdot, hne (t := "..") h.up⟩
  rw [namesDirectory, hlast]
  simpa using hnone

end Directory

theorem openFor_eq (hplace : s.locate path = .ok p) (hname : namesDirectory path = false)
    (hfile : s.isDirectory p = false) (hparent : s.isDirectory p.dropLast = true) (append : Bool) :
    s.openFor append path =
      .ok (s.putFile p (if append then (s.file? p).getD [] else [])) := by
  rw [openFor, hplace]
  dsimp only
  rw [hfile, hname, hparent]
  rfl

theorem append_eq (hplace : s.locate path = .ok p) (text : String) :
    s.append path text = s.putFile p ((s.file? p).getD [] ++ Text.Utf8.encode text.toList) := by
  rw [append, hplace]

theorem readText_eq {data : List UInt8} {cs : List Char} (hplace : s.locate path = .ok p)
    (hfile : s.file? p = some data) (hdecode : Text.Utf8.decode? data = some cs) :
    s.readText path = .ok (Text.unifyNewlines cs) := by
  rw [readText, read, hplace]
  dsimp only
  rw [readAt, hfile]
  dsimp only
  rw [hdecode]

theorem readText_of_garbled {data : List UInt8} (hplace : s.locate path = .ok p)
    (hfile : s.file? p = some data) (hdecode : Text.Utf8.decode? data = none) :
    s.readText path = .error .notText := by
  rw [readText, read, hplace]
  dsimp only
  rw [readAt, hfile]
  dsimp only
  rw [hdecode]

theorem readText_of_no_file (hplace : s.locate path = .ok p) (hfile : s.file? p = none) :
    ∃ f, f ≠ .notText ∧ s.readText path = .error f := by
  rw [readText, read, hplace]
  dsimp only
  rw [readAt, hfile]
  dsimp only
  split
  · exact ⟨_, by simp, rfl⟩
  · rw [absence]
    split
    · exact ⟨_, by simp, rfl⟩
    · exact ⟨_, by simp, rfl⟩

theorem file_of_readText {cs : List Char} (hplace : s.locate path = .ok p)
    (h : s.readText path = .ok cs) : ∃ data raw, s.file? p = some data ∧
      Text.Utf8.decode? data = some raw ∧ cs = Text.unifyNewlines raw := by
  rw [readText, read, hplace] at h
  dsimp only at h
  rw [readAt] at h
  cases hfile : s.file? p with
  | none =>
    rw [hfile] at h
    cases h
  | some data =>
    rw [hfile] at h
    dsimp only at h
    cases hdecode : Text.Utf8.decode? data with
    | none =>
      rw [hdecode] at h
      cases h
    | some raw =>
      rw [hdecode] at h
      exact ⟨data, raw, rfl, hdecode, (Except.ok.inj h).symm⟩

end Runbook.Storage
