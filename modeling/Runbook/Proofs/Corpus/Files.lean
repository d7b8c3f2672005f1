import Runbook.Corpus
import Runbook.Proofs.Storage

namespace Runbook.Corpus

open Storage (IsName inDirectory)

variable {s : Storage} {directory name : String} {base q : FilePath} {p : Plan}
  {m : Dict Value Value} {notices : List Notice}

def written : List String := [failuresName, newFailuresName]

theorem isName_of_mem_written (h : name ∈ written) : IsName name := by
  have hall : ∀ n ∈ written, Storage.names n = [n] ∧ n ≠ ".." := by decide
  exact ⟨(hall name h).1, (hall name h).2⟩

/-- The directory of the corpus is in its place, and no file that is written is a directory. -/
structure Usable (s : Storage) (directory : String) (base : FilePath) : Prop where
  place : s.locate directory = .ok base
  isDirectory : s.isDirectory base = true
  files : ∀ n ∈ written, s.isDirectory (base ++ [n]) = false

namespace Usable

theorem locate (h : Usable s directory base) (hname : name ∈ written) :
    s.locate (inDirectory directory name) = .ok (base ++ [name]) :=
  Storage.locate_inDirectory (isName_of_mem_written hname) h.place

theorem putFile (h : Usable s directory base) (hq : s.isDirectory q = false)
    (hparent : s.isDirectory q.dropLast = true) (data : List UInt8) :
    Usable (s.putFile q data) directory base where
  place :=
    (Storage.locate_mono (by rfl) (fun _ hr => (Storage.isDirectory_putFile hq data).2 (.inl hr))
      h.place).1
  isDirectory := (Storage.isDirectory_putFile hq data).2 (.inl h.isDirectory)
  files n hn := by
    rw [← Bool.not_eq_true, Storage.isDirectory_putFile hq, h.files n hn]
    rintro (hdir | ⟨hbelow, hne⟩)
    · cases hdir
    · have hdir := Storage.isDirectory_of_prefix (Storage.prefix_dropLast hbelow hne) hparent
      rw [h.files n hn] at hdir
      cases hdir

theorem putWritten (h : Usable s directory base) (hname : name ∈ written) (data : List UInt8) :
    Usable (s.putFile (base ++ [name]) data) directory base :=
  h.putFile (h.files name hname) (by rw [List.dropLast_concat]; exact h.isDirectory) data

theorem openFor (h : Usable s directory base) (hname : name ∈ written) (append : Bool) :
    s.openFor append (inDirectory directory name) =
      .ok (s.putFile (base ++ [name]) (if append then (s.file? (base ++ [name])).getD [] else [])) :=
  Storage.openFor_eq (h.locate hname)
    (Storage.namesDirectory_inDirectory (isName_of_mem_written hname)) (h.files name hname)
    (by rw [List.dropLast_concat]; exact h.isDirectory) append

theorem append (h : Usable s directory base) (hname : name ∈ written) (text : String) :
    s.append (inDirectory directory name) text = s.putFile (base ++ [name])
      ((s.file? (base ++ [name])).getD [] ++ Text.Utf8.encode text.toList) :=
  Storage.append_eq (h.locate hname) text

theorem exists?_eq (h : Usable s directory base) (hname : name ∈ written) :
    s.exists? (inDirectory directory name) = (s.file? (base ++ [name])).isSome := by
  rw [Storage.exists?, h.locate hname]
  dsimp only
  rw [h.files name hname, Bool.or_false]

end Usable

/-- What is written to both files, and the fault that the writing ends with. -/
structure Texts where
  corpus : String
  latest : String
  fault : Option Fault

/-- The records that a plan writes down in front of its new ones. -/
def rewritten (p : Plan) : List Payload := if p.repro then p.otherFailures else []

/-- The new records of a plan with the metadata, as far as they are written. -/
def stamped (m : Dict Value Value) (p : Plan) : List Payload :=
  stamp (if m.isEmpty then none else some m) p.newFailures

def texts (m : Dict Value Value) (p : Plan) : Texts :=
  match lines (rewritten p) with
  | (text, some f) => ⟨text, "", some f⟩
  | (text, none) =>
    ⟨text ++ (lines (stamped m p)).1, (lines (stamped m p)).1, (lines (stamped m p)).2⟩

def kept (s : Storage) (base : FilePath) (p : Plan) : List UInt8 :=
  if p.repro then [] else (s.file? (base ++ [failuresName])).getD []

/-- What a storage has become by writing to both files and to no other one. -/
structure Leaves (s s' : Storage) (directory : String) (base : FilePath)
    (corpus latest : List UInt8) : Prop where
  usable : Usable s' directory base
  corpus : s'.file? (base ++ [failuresName]) = some corpus
  latest : s'.file? (base ++ [newFailuresName]) = some latest
  others : ∀ q, (∀ n ∈ written, q ≠ base ++ [n]) → s'.file? q = s.file? q

theorem rewritten_of_append (h : p.repro = false) : rewritten p = [] := by rw [rewritten, h]; rfl

theorem rewritten_of_repro (h : p.repro = true) : rewritten p = p.otherFailures := by
  rw [rewritten, if_pos h]

theorem kept_of_append (h : p.repro = false) :
    kept s base p = (s.file? (base ++ [failuresName])).getD [] := by rw [kept, h]; rfl

theorem kept_of_repro (h : p.repro = true) : kept s base p = [] := by rw [kept, if_pos h]

theorem failures_mem_written : failuresName ∈ written := by decide

theorem newFailures_mem_written : newFailuresName ∈ written := by decide

theorem places_ne : base ++ [failuresName] ≠ base ++ [newFailuresName] := by
  simp [failuresName, newFailuresName]

namespace Leaves

variable {s' : Storage} {corpus latest : List UInt8}

theorem appendCorpus (h : Leaves s s' directory base corpus latest) (text : String) :
    Leaves s (s'.append (inDirectory directory failuresName) text) directory base
      (corpus ++ Text.Utf8.encode text.toList) latest := by
  have hmem := failures_mem_written
  rw [h.usable.append hmem, h.corpus, Option.getD_some]
  refine ⟨h.usable.putWritten hmem _, Storage.file?_putFile _ _ _, ?_, fun q hq => ?_⟩
  · rw [Storage.file?_putFile_of_ne places_ne.symm, h.latest]
  · rw [Storage.file?_putFile_of_ne (hq _ hmem), h.others q hq]

theorem appendLatest (h : Leaves s s' directory base corpus latest) (text : String) :
    Leaves s (s'.append (inDirectory directory newFailuresName) text) directory base
      corpus (latest ++ Text.Utf8.encode text.toList) := by
  have hmem := newFailures_mem_written
  rw [h.usable.append hmem, h.latest, Option.getD_some]
  refine ⟨h.usable.putWritten hmem _, ?_, Storage.file?_putFile _ _ _, fun q hq => ?_⟩
  · rw [Storage.file?_putFile_of_ne places_ne, h.corpus]
  · rw [Storage.file?_putFile_of_ne (hq _ hmem), h.others q hq]

end Leaves

theorem Usable.opened (h : Usable s directory base) (p : Plan) :
    ∃ s₁ s₂, s.openFor (!p.repro) (inDirectory directory failuresName) = .ok s₁ ∧
      s₁.openFor false (inDirectory directory newFailuresName) = .ok s₂ ∧
      Leaves s s₂ directory base (kept s base p) [] := by
  have hcorpus := failures_mem_written
  have hlatest := newFailures_mem_written
  have hkept : (if (!p.repro) = true then (s.file? (base ++ [failuresName])).getD [] else []) =
      kept s base p := by
    rw [kept]
    cases p.repro <;> rfl
  have hopen := h.openFor hcorpus (!p.repro)
  rw [hkept] at hopen
  have husable := h.putWritten hcorpus (kept s base p)
  refine ⟨_, _, hopen, husable.openFor hlatest false, husable.putWritten hlatest _, ?_,
    Storage.file?_putFile _ _ _, fun q hq => ?_⟩
  · rw [Storage.file?_putFile_of_ne places_ne, Storage.file?_putFile]
  · rw [Storage.file?_putFile_of_ne (hq _ hlatest), Storage.file?_putFile_of_ne (hq _ hcorpus)]

theorem lines_rewritten (p : Plan) :
    (if p.repro then lines p.otherFailures else ("", none)) = lines (rewritten p) := by
  rw [rewritten]
  cases p.repro <;> rfl

theorem writeNew_eq (s : Storage) (path newPath : String) (m : Dict Value Value) (p : Plan) :
    writeNew s path newPath m p =
      ((s.append path (lines (stamped m p)).1).append newPath (lines (stamped m p)).1,
        { p with newFailures := stamped m p }, (lines (stamped m p)).2) := rfl

theorem writeOpen_eq (s : Storage) (path newPath : String) (m : Dict Value Value) (p : Plan) :
    writeOpen s path newPath m p = match lines (rewritten p) with
      | (text, some f) => (s.append path text, p, some f)
      | (text, none) => writeNew (s.append path text) path newPath m p := by
  rw [writeOpen, lines_rewritten]
  rcases lines (rewritten p) with ⟨text, _ | f⟩ <;> rfl

theorem writeOpen_leaves {s' : Storage} {corpus latest : List UInt8}
    (h : Leaves s s' directory base corpus latest) (m : Dict Value Value) (p : Plan) :
    (writeOpen s' (inDirectory directory failuresName) (inDirectory directory newFailuresName) m
      p).2.2 = (texts m p).fault ∧
    Leaves s (writeOpen s' (inDirectory directory failuresName)
      (inDirectory directory newFailuresName) m p).1 directory base
      (corpus ++ Text.Utf8.encode (texts m p).corpus.toList)
      (latest ++ Text.Utf8.encode (texts m p).latest.toList) := by
  have hfirst := h.appendCorpus (lines (rewritten p)).1
  rw [writeOpen_eq, texts]
  cases hold : lines (rewritten p) with
  | mk text fault =>
    rw [hold] at hfirst
    cases fault with
    | some f =>
      have hempty : latest ++ Text.Utf8.encode "".toList = latest := List.append_nil _
      dsimp only
      rw [hempty]
      exact ⟨rfl, hfirst⟩
    | none =>
      have hsecond := (hfirst.appendCorpus (lines (stamped m p)).1).appendLatest
        (lines (stamped m p)).1
      have htext : corpus ++ Text.Utf8.encode (text ++ (lines (stamped m p)).1).toList =
          corpus ++ Text.Utf8.encode text.toList ++
            Text.Utf8.encode (lines (stamped m p)).1.toList := by
        simp [Text.Utf8.encode, String.toList_append]
      dsimp only
      rw [htext, writeNew_eq]
      dsimp only
      exact ⟨rfl, hsecond⟩

/-- In a usable directory both files are written, and the writing fails only with a record that has
no line. -/
theorem writeFailures_usable (h : Usable s directory base)
    (hm : (readMetadata s directory).run [] = (.ok m, notices)) (p : Plan) :
    (writeFailures s directory p).fault = (texts m p).fault ∧
      Leaves s (writeFailures s directory p).storage directory base
        (kept s base p ++ Text.Utf8.encode (texts m p).corpus.toList)
        (Text.Utf8.encode (texts m p).latest.toList) := by
  obtain ⟨s₁, s₂, hopen, hopen', hleaves⟩ := h.opened p
  obtain ⟨hfault, hwritten⟩ := writeOpen_leaves hleaves m p
  rw [List.nil_append] at hwritten
  unfold writeFailures
  simp only [hm, hopen, hopen']
  split
  · rename_i s' p' f hw
    rw [hw] at hfault hwritten
    exact ⟨hfault, hwritten⟩
  · rename_i s' p' hw
    rw [hw] at hfault hwritten
    exact ⟨hfault, hwritten⟩

theorem writeFailures_of_metadata_error {f : Fault}
    (hm : (readMetadata s directory).run [] = (.error f, notices)) (p : Plan) :
    writeFailures s directory p = ⟨s, p, notices, some f⟩ := by
  unfold writeFailures
  simp only [hm]

/-- A plan that appends leaves all that the corpus holds in its place, whatever fails. -/
theorem writeFailures_prefix (h : Usable s directory base) (hmode : p.repro = false)
    {data : List UInt8} (hfile : s.file? (base ++ [failuresName]) = some data) :
    ∃ more, (writeFailures s directory p).storage.file? (base ++ [failuresName]) =
      some (data ++ more) := by
  rcases hm : (readMetadata s directory).run [] with ⟨f | m, notices⟩
  · refine ⟨[], ?_⟩
    rw [writeFailures_of_metadata_error hm, List.append_nil]
    exact hfile
  · obtain ⟨-, hleaves⟩ := writeFailures_usable h hm p
    exact ⟨_, by rw [hleaves.corpus, kept_of_append hmode, hfile, Option.getD_some]⟩

end Runbook.Corpus
