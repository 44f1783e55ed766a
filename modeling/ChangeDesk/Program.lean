import ChangeDesk.Command.Arguments
import ChangeDesk.Program.Run

/-!
The program behind its command line: the log file is opened, and then the command is carried out. Whatever
fails ends the run with one line that says why.
-/
namespace ChangeDesk.Program

variable (w : Surroundings)

/-- Opens the log file, making the directory that holds it. -/
def openLog : Run Unit := do
  let path := Settings.logFile (Settings.sessionFile w.environment)
  Run.makeParent w (.cannotCreate ((Text.Path.parent? path).getD "")) path
  unless (← Run.content? w path).isSome do
    Run.writeFile w (.cannotLog path) path ""

/-- The stored settings. A missing file is made, without settings in it. -/
def loadSettings : Run StoredSettings := do
  let path := Settings.configFile w.environment
  if ← Run.holds w path then
    let content ← Run.orFail .unreadableSettings (← Run.content? w path)
    Run.orFail .unreadableSettings (StoredSettings.ofText? content)
  else
    Run.makeParent w .unreadableSettings path
    Run.writeFile w .unreadableSettings path ""
    return .empty

def saveSettings (s : StoredSettings) : Run Unit := do
  let path := Settings.configFile w.environment
  Run.makeParent w .unwritableSettings path
  let content ← Run.orFail .unwritableSettings s.text?
  Run.writeFile w .unwritableSettings path content

/-- The entries of the session file, which becomes a store if there is nothing in it yet. -/
def openSession : Run SavedSession := do
  let path := Settings.sessionFile w.environment
  let saved ← match ← Run.content? w path with
    | some content => Run.orFail .noDatabase (SavedSession.ofText? content)
    | none => pure .empty
  Run.writeFile w (.unopenable path) path saved.text
  return saved

def connect : Run Gateway := do
  let settings := Settings.resolve (← loadSettings w) w.environment
  if settings.token.isNone then throw .noToken
  match Gateway.ofSettings settings with
  | .ok gateway => return gateway
  | .error e => throw (.api e)

def call {α : Type} (gateway : Gateway) (c : Call α) : Run α := do
  match gateway.request c with
  | .error e => throw (.api e)
  | .ok request =>
    modify fun s => { s with sent := request :: s.sent }
    match gateway.outcome c request.url (w.network request) with
    | .ok x => return x
    | .error e => throw (.api e)

/-- Opens the desk, for which there is no screen. -/
def runDesk : Run Unit := do
  let _ ← connect w
  let _ ← openSession w
  throw .noScreen

def integrationLine (s : Integration) : String := Text.padEnd 12 s.provider ++ " " ++ s.subType

def runProviders : Run Unit := do
  let all ← call w (← connect w) .providers
  if all.isEmpty then Run.say "No providers are configured"
  all.forM fun s => Run.say (integrationLine s)

def suggestionLine (s : Suggestion) : String :=
  if s.label = s.value then s.value else Text.padEnd 40 s.label ++ " " ++ s.value

def runSearch (query : Query) : Run Unit := do
  let all ← call w (← connect w) (.typeahead query)
  if all.isEmpty then Run.say ("No matches for '" ++ query.start ++ "'")
  all.forM fun s => Run.say (suggestionLine s)

def tokenPrompt : String := "Noq access token: "

def csrfPrompt : String := "CSRF token: "

/-- What a command may ask at the terminal, in order. -/
def prompts : Command → List String
  | .auth csrf => tokenPrompt :: if csrf then [csrfPrompt] else []
  | _ => []

def runAuth (csrf : Bool) : Run Unit := do
  let token := Text.trim (← Run.ask .noTerminal tokenPrompt)
  if token.isEmpty then throw .emptyToken
  let stored := { ← loadSettings w with token := some token }
  let stored ← if csrf then
      let second := Text.trim (← Run.ask .noTerminalAgain csrfPrompt)
      pure { stored with csrfToken := if second.isEmpty then none else some second }
    else pure stored
  saveSettings w stored
  Run.say ("✓ Token saved to " ++ Settings.configFile w.environment)

def presence (setting : Option String) : String := if setting.isSome then "set" else "not set"

def digits (n : UInt64) : String := String.ofList (decimalDigits n.toNat)

def settingsLines (path : String) (s : Settings) : List String := [
  "Config file:  " ++ path,
  "API URL:      " ++ s.apiUrl,
  "Token:        " ++ presence s.token,
  "CSRF token:   " ++ presence s.csrfToken,
  "Timeout:      " ++ digits s.timeoutSeconds ++ "s",
  "Debounce:     " ++ digits s.debounceMillis ++ "ms"]

/-- Changes the stored settings if a change is given, and shows those in effect if asked to or if none is. -/
def runConfig (list : Bool) (apiUrl : Option String) (timeout : Option UInt64) : Run Unit := do
  let stored ← loadSettings w
  let changed := apiUrl.isSome || timeout.isSome
  let stored ← match stored.change apiUrl timeout with
    | .ok stored => pure stored
    | .error cause => throw (.refused cause)
  if changed then
    saveSettings w stored
    Run.say "✓ Configuration updated"
  if list || !changed then
    let settings := Settings.resolve stored w.environment
    (settingsLines (Settings.configFile w.environment) settings).forM Run.say

def entryLine (e : String × SavedEntry) : String :=
  "  " ++ Text.padEnd 36 e.1 ++ " " ++ e.2.time ++ "  " ++ e.2.value

def runSessionList : Run Unit := do
  let path := Settings.sessionFile w.environment
  let saved ← if ← Run.holds w path then openSession w else pure .empty
  if saved.entries.isEmpty then Run.say "No session data"
  else
    Run.say ("Session store: " ++ path)
    Run.say (String.ofList (List.replicate 37 '─'))
    saved.entries.forM fun e => Run.say (entryLine e)

def runSessionClear : Run Unit := do
  let path := Settings.sessionFile w.environment
  if ← Run.holds w path then
    let saved ← openSession w
    Run.writeFile w (.unopenable path) path (SavedSession.text .empty)
    Run.say ("✓ Cleared " ++ String.ofList (decimalDigits saved.size) ++ " session entries")
  else Run.say "No session data to clear"

def runCommand : Command → Run Unit
  | .desk => runDesk w
  | .providers => runProviders w
  | .search query => runSearch w query
  | .auth csrf => runAuth w csrf
  | .config list apiUrl timeout => runConfig w list apiUrl timeout
  | .session .list => runSessionList w
  | .session .clear => runSessionClear w

inductive Ending where
  | success
  | failure (cause : Failure)
  /-- The arguments were refused, or answered with a help text. -/
  | usage (cause : UsageError)
deriving DecidableEq, Repr

def Ending.exitCode : Ending → Nat
  | success => 0
  | failure _ => 1
  | usage cause => cause.exitCode

/-- The text of a run's complaint; empty if it has none. -/
def Ending.complaint : Ending → String
  | failure cause => "Error: " ++ cause.message ++ "\n"
  | _ => ""

def run (words : List String) (s : State) : Ending × State :=
  match Arguments.read words with
  | .error cause => (.usage cause, s)
  | .ok invocation =>
    let steps : Run Unit := do
      openLog w
      runCommand w (invocation.command.getD .desk)
    match steps.run.run s with
    | (.ok _, s) => (.success, s)
    | (.error cause, s) => (.failure cause, s)

end ChangeDesk.Program
