import ChangeDesk.Program

/-!
The program as a process. What it may look at is read before the run, and what the run changed is written
after it. There is no network here, so every call of the backend is refused.
-/
namespace ChangeDesk.Terminal

def lookedAt : List String :=
  ["NOQ_API_URL", "NOQ_TOKEN", "NOQ_CSRF_TOKEN", "NOQ_SESSION_DB", "HOME", "XDG_DATA_HOME",
    "XDG_CONFIG_HOME"]

def readEnvironment : IO Environment := do
  let found ← lookedAt.filterMapM fun key => do
    return (← IO.getEnv key).map fun value => (key, value)
  return fun key => found.lookup key

/-- The places on the way along a path, the last one included. -/
def placesOf (directory : Disk.Place) (path : String) : List Disk.Place :=
  let (first, components) := Disk.start directory path
  (components.foldl (fun (here, all) component =>
    let here := Disk.next here component
    (here, here :: all)) (first, [first])).2.reverse

def readNode (place : Disk.Place) : IO (Option Disk.Node) := do
  let path := (← IO.currentDir) / place.path
  if ← path.isDir then return some .directory
  else if ← path.pathExists then
    let bytes ← IO.FS.readBinFile path
    return some (.file (Text.Utf8.decode bytes.toList))
  else return none

/-- The real disk along the paths of a run's files. -/
def readDisk (environment : Environment) (directory : Disk.Place) : IO Disk := do
  let session := Settings.sessionFile environment
  let paths := [session, Settings.logFile session, Settings.configFile environment]
  let places := paths.flatMap (placesOf directory)
  places.foldlM (fun disk place => do
    match ← readNode place with
    | some node => return disk.put place node
    | none => return disk) Disk.empty

def writeChanges (before after : Disk) : IO Unit :=
  after.nodes.entries.forM fun (path, node) => do
    if before.nodes.get? path ≠ some node then
      match node with
      | .directory => IO.FS.createDirAll path
      | .file content => IO.FS.writeFile path content

/-- Asks the questions of a command at the terminal; an empty answer is the last one. -/
def askAll : List String → IO String
  | [] => return ""
  | prompt :: more => do
    IO.eprint prompt
    let line ← (← IO.getStdin).getLine
    if Text.isBlank line then return line
    return line ++ (← askAll more)

def readTyped (words : List String) : IO (Option (List Char)) := do
  if ← (← IO.getStdin).isTty then
    match Arguments.read words with
    | .ok ⟨_, some command⟩ => return some (← askAll (Program.prompts command)).toList
    | _ => return some []
  else return none

end ChangeDesk.Terminal

open ChangeDesk ChangeDesk.Terminal in
def main (words : List String) : IO UInt32 := do
  let environment ← readEnvironment
  let directory := Disk.placeOf (← IO.currentDir).toString
  let disk ← readDisk environment directory
  let surroundings : Program.Surroundings := ⟨environment, directory, fun _ => .refused⟩
  let (ending, after) := Program.run surroundings words (.before disk (← readTyped words))
  writeChanges disk after.disk
  IO.print after.output
  IO.eprint ending.complaint
  match ending with
  | .usage .help => IO.print Command.overview
  | .usage _ => IO.eprint Command.overview
  | _ => pure ()
  return UInt32.ofNat ending.exitCode
