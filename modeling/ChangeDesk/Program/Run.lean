import ChangeDesk.Api.Gateway
import ChangeDesk.Disk
import ChangeDesk.Session.Store
import ChangeDesk.Settings

/-!
What a run of the program stands on: its surroundings, which it cannot change, and what it changes or leaves
behind. A run that fails keeps what it did before.
-/
namespace ChangeDesk.Program

structure Surroundings where
  environment : Environment
  /-- The directory from which relative paths start. -/
  directory : Disk.Place
  network : Http.Network

structure State where
  disk : Disk
  /-- What is still to be read at the terminal, if there is one. -/
  typed : Option (List Char)
  /-- What was shown at the terminal. -/
  shown : String
  output : String
  /-- The requests sent, the last one first. -/
  sent : List Http.Request

def State.before (disk : Disk) (typed : Option (List Char)) : State := ⟨disk, typed, "", "", []⟩

inductive Failure where
  | cannotCreate (path : String)
  | cannotLog (path : String)
  | unreadableSettings
  | unwritableSettings
  | noToken
  | api (error : ApiError)
  /-- There is no terminal to ask for a token. -/
  | noTerminal
  /-- There is no terminal to ask for the second token. -/
  | noTerminalAgain
  | emptyToken
  | refused (cause : StoredSettings.Refused)
  /-- The session file is something else. -/
  | noDatabase
  /-- The session file cannot be opened. -/
  | unopenable (path : String)
  | noScreen
deriving DecidableEq, Repr

def Failure.message : Failure → String
  | .cannotCreate path => "Failed to create " ++ path
  | .cannotLog path => "Failed to open log file " ++ path
  | .unreadableSettings => "failed to load config"
  | .unwritableSettings => "failed to save config"
  | .noToken => "No access token configured. Run 'noq-request auth' first"
  | .api error => error.message
  | .noTerminal => "Failed to read token"
  | .noTerminalAgain => "Failed to read CSRF token"
  | .emptyToken => "Token cannot be empty"
  | .refused cause => cause.message
  | .noDatabase => "database error: file is not a database"
  | .unopenable path => "database error: unable to open database file: " ++ path
  | .noScreen => "Failed to enable raw mode"

abbrev Run := ExceptT Failure (StateM State)

namespace Run

def say (line : String) : Run Unit := modify fun s => { s with output := s.output ++ line ++ "\n" }

/-- Takes what the disk gives, or fails. -/
def orFail {α : Type} (failure : Failure) : Option α → Run α
  | some x => pure x
  | none => throw failure

def changeDisk (failure : Failure) (f : Disk → Option Disk) : Run Unit := do
  let disk ← orFail failure (f (← get).disk)
  modify fun s => { s with disk }

/-- Makes the directory that holds what a path names. -/
def makeParent (w : Surroundings) (failure : Failure) (path : String) : Run Unit :=
  match Text.Path.parent? path with
  | some parent =>
    if parent.isEmpty then pure ()
    else changeDisk failure (fun d => d.withDirectories? w.directory parent)
  | none => pure ()

def writeFile (w : Surroundings) (failure : Failure) (path content : String) : Run Unit :=
  changeDisk failure (fun d => d.write? w.directory path content)

def holds (w : Surroundings) (path : String) : Run Bool := do
  return (← get).disk.holds w.directory path

def content? (w : Surroundings) (path : String) : Run (Option String) := do
  return (← get).disk.content? w.directory path

/-- The line at the start of what is typed, without its end, and what is typed after it. -/
def typedLine (typed : List Char) : List Char × List Char :=
  let (line, rest) := typed.span (· ≠ '\n')
  match rest with
  | [] => (line, [])
  | _ :: rest => (if line.getLast? = some '\r' then line.dropLast else line, rest)

def ask (failure : Failure) (prompt : String) : Run String := do
  match (← get).typed with
  | none => throw failure
  | some typed =>
    let (line, rest) := typedLine typed
    modify fun s => { s with typed := some rest, shown := s.shown ++ prompt }
    return String.ofList line

end Run

end ChangeDesk.Program
