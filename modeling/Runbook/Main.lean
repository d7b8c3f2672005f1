import Runbook.Http.Recording
import Runbook.Http.Step
import Runbook.Program
import Std.Time

namespace Runbook.Main

def placeText (p : FilePath) : String := "/" ++ "/".intercalate p

def look (p : FilePath) : IO (Option Entry) := do
  try return some (.file (← IO.FS.readBinFile (placeText p)).toList)
  catch
    | .inappropriateType .. => return some .directory
    | _ => return none

def take (s : Storage) (p : FilePath) : IO Storage := do
  match ← look p with
  | some e => return { s with entries := s.entries.put p e }
  | none => return s

def takeWay : List String → FilePath → Storage → IO Storage
  | [], _, s => return s
  | n :: ns, p, s =>
    if n == ".." then takeWay ns p.dropLast s
    else do
      let s ← take s (p ++ [n])
      if (s.file? (p ++ [n])).isSome then return s
      takeWay ns (p ++ [n]) s

def takePath (s : Storage) (path : String) : IO Storage :=
  takeWay (Storage.names path) (if Storage.isAbsolute path then [] else s.cwd) s

def surroundings : IO Storage := do
  let cwd := Storage.names (← IO.currentDir).toString
  (Settings.upwards cwd).foldlM (fun s p => take s (p ++ [".env"])) ⟨.empty, cwd⟩

def namesAround (s : Storage) : List String :=
  match (Settings.envFile? s).bind Text.Utf8.decode? with
  | some cs => EnvFile.variableNames cs
  | none => []

def environment (names : List String) : IO Environment :=
  names.foldlM (fun env name => do
    match ← IO.getEnv name with
    | some value => return env.put name value
    | none => return env) .empty

def writeBack (before after : Storage) : IO Unit :=
  after.entries.entries.forM fun
    | (p, .file data) => do
      if before.file? p != some data then
        IO.FS.writeBinFile (placeText p) ⟨data.toArray⟩
    | _ => pure ()

def now : IO DateTime := do
  let t ← Std.Time.DateTime.now
  let date := Date.ofParts? t.year.toInt.toNat t.month.val.toNat t.day.val.toNat
  return ⟨date.getD ⟨1970, 1, 1, by decide⟩, t.hour.val.toNat, t.minute.val.toNat,
    t.second.val.toNat, t.nanosecond.val.toNat / 1000, some (t.offset.second.val / 60)⟩

/-- All names of characters are taken to be known. -/
def console : IO Screen.Console := do
  return ⟨((← IO.getEnv "COLUMNS").bind String.toNat?).getD 80, fun _ => true⟩

def recording : List String → IO Http.Recording
  | [] => return []
  | path :: _ => return Http.Recording.read (← IO.FS.readFile path)

def levelText : Level → String
  | .debug => "DEBUG"
  | .info => "INFO"
  | .warning => "WARNING"
  | .error => "ERROR"

def printLog (rank : Int) (notices : List Notice) : IO Unit :=
  notices.forM fun n => do
    if ((logRank? (levelText n.level)).getD 0) ≥ rank then
      IO.eprintln (levelText n.level ++ " " ++ n.message)

def fail (f : Fault) : IO UInt32 := do
  IO.eprintln (if f.message.isEmpty then "The program has failed." else f.message)
  return 1

def execute (settings : Settings) (rank : Int) (s : Storage) (rs : Http.Recording) : IO UInt32 := do
  let t ← now
  match Http.Client.atBase settings.baseUrl Http.Recording.transport t.date with
  | .error f => fail f
  | .ok client =>
    let p : Program (Http.Client.State Http.Recording) := ⟨settings, client.runner, ← console, t⟩
    let s ← settings.paths.foldlM takePath s
    let (result, left) := p.run s (Http.Client.start rs)
    printLog rank left.work.notices
    IO.print left.work.screen
    writeBack s left.storage
    match result with
    | .error f => fail f
    | .ok done => return if done then 0 else 1

end Runbook.Main

open Runbook Runbook.Main in
def main (args : List String) : IO UInt32 := do
  let s ← surroundings
  let env ← environment (Settings.variableNames ++ namesAround s)
  match Settings.load s env with
  | .error f => fail f
  | .ok settings =>
    match logRank? settings.logLevel with
    | none => fail (.data .value)
    | some rank => execute settings rank s (← recording args)
