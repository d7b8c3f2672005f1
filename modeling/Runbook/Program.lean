import Runbook.Corpus
import Runbook.Engine.Run
import Runbook.PlanFile.Writing
import Runbook.Settings

namespace Runbook

structure Program (σ : Type) where
  settings : Settings
  runner : Runner σ
  console : Screen.Console
  now : DateTime

namespace Program

variable {σ α : Type}

structure State (σ : Type) where
  storage : Storage
  work : Engine.State σ

abbrev Act (σ : Type) := ExceptT Fault (StateM (State σ))

def State.start (s : Storage) (o : Plan.Options) (runner : σ) : State σ :=
  ⟨s, .start (.ofOptions o) runner⟩

def onWork (act : Engine.Act σ α) : Act σ α :=
  ExceptT.mk fun s => ((act.run s.work).1, { s with work := (act.run s.work).2 })

def logged (act : Logged α) : Act σ α :=
  ExceptT.mk fun s =>
    ((act.run []).1, { s with work := { s.work with notices := s.work.notices ++ (act.run []).2 } })

def pass : Except Fault α → Act σ α
  | .ok a => pure a
  | .error f => throw f

/-- Do `after` whatever becomes of `act`. If both fail, the later fault counts. -/
def thenAlways (act : Act σ α) (after : Act σ Unit) : Act σ α :=
  ExceptT.mk fun s =>
    match after.run (act.run s).2 with
    | (.ok (), s') => ((act.run s).1, s')
    | (.error f, s') => (.error f, s')

/-- A fault of a plan, a corpus or a file ends the program with a message. All others are none that
the program knows. -/
def halts : Fault → Bool
  | .file .notText => false
  | .file _ => true
  | .mistaken _ | .data _ | .exchange _ | .runner _ | .markup => false
  | _ => true

def halting (p : Program σ) (act : Act σ Unit) : Act σ Bool :=
  tryCatch (do act; pure true) fun f =>
    if halts f then do
      onWork (Engine.display (Screen.halt p.console f.message))
      pure false
    else throw f

def engine (p : Program σ) : Engine σ := ⟨p.runner, .replace, p.console⟩

def readCorpus (p : Program σ) : Act σ Unit := do
  let s ← get
  if s.storage.exists? (Storage.inDirectory p.settings.directory Corpus.failuresName) then
    let (plan, result) := Corpus.readFailures s.storage p.settings.directory s.work.plan
    onWork (Engine.updatePlan fun _ => plan)
    onWork (Engine.notify (← pass result))

def load (p : Program σ) : Act σ Unit := do
  let plan ← logged (PlanFile.load (← get).storage p.settings.planPath p.settings.options)
  onWork (Engine.updatePlan fun _ => plan)
  p.readCorpus

def execute (p : Program σ) : Act σ Unit := do
  let _ ← onWork (p.engine.runPlan p.settings.suites)

def writeResults (p : Program σ) : Act σ Unit := do
  if p.settings.resultPath ≠ "" then
    let s ← get
    let (storage, result) :=
      PlanFile.store s.storage p.settings.resultPath (PlanFile.resultsPieces s.work.plan p.now)
    set { s with storage := storage }
    pass result

def writeCorpus (p : Program σ) : Act σ Unit := do
  let s ← get
  let w := Corpus.writeFailures s.storage p.settings.directory s.work.plan
  set { s with
    storage := w.storage
    work := { s.work with plan := w.plan, notices := s.work.notices ++ w.notices } }
  w.fault.elim (pure ()) throw

def persist (p : Program σ) : Act σ Unit := do
  p.writeResults
  p.writeCorpus

def report (p : Program σ) : Act σ Unit := do
  onWork (Engine.displayPrinted (Screen.report p.console (← get).work.plan))

def toEnd (p : Program σ) : Act σ Bool := do
  if ← p.halting p.load then
    let done ← thenAlways (p.halting p.execute) p.persist
    if done then p.report
    pure done
  else pure false

def run (p : Program σ) (s : Storage) (runner : σ) : Except Fault Bool × State σ :=
  (p.toEnd.run) (.start s p.settings.options runner)

end Program

end Runbook
