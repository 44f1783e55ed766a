import ChangeDesk.Json.Record
import ChangeDesk.Text.Basic
import ChangeDesk.Toml.Document

/-!
The settings of the program: those that are kept between runs, each of which may be missing, and those in
effect.
-/

namespace ChangeDesk

structure StoredSettings where
  /-- The address of the backend, without the part that all of its addresses share. -/
  apiUrl : Option String
  token : Option String
  csrfToken : Option String
  timeoutSeconds : Option UInt64
  /-- How long typing must pause before completions are looked up. -/
  debounceMillis : Option UInt64
deriving DecidableEq, Repr

namespace StoredSettings

open Json (Record Reader Fields)

def empty : StoredSettings := ⟨none, none, none, none, none⟩

def record : Record StoredSettings :=
  ⟨"NoqConfig", _,
    .field "api_url" (Reader.optional Reader.text) (some none) <|
    .field "token" (Reader.optional Reader.text) (some none) <|
    .field "csrf_token" (Reader.optional Reader.text) (some none) <|
    .field "timeout_secs" (Reader.optional Reader.word64) (some none) <|
    .field "typeahead_debounce_ms" (Reader.optional Reader.word64) (some none) .done,
    StoredSettings.mk⟩

end StoredSettings

end ChangeDesk

/-!
## Changes

Changes of the stored settings by hand. They are looked at one by one and made together: where one is refused,
none is made.
-/

namespace ChangeDesk.StoredSettings

inductive Refused where
  | badAddress
  | zeroTimeout
deriving DecidableEq, Repr

def Refused.message : Refused → String
  | .badAddress => "API URL must start with http:// or https://"
  | .zeroTimeout => "Timeout must be at least 1 second"

def startsWith (start s : String) : Bool := start.toList.isPrefixOf s.toList

/-- The form in which an address is stored: without white space around it, and without slashes at its
end. -/
def address? (given : String) : Except Refused String :=
  let url := Text.trim given
  if startsWith "http://" url || startsWith "https://" url then .ok (Text.trimEnd (· = '/') url)
  else .error .badAddress

def changeAddress (given : Option String) (s : StoredSettings) : Except Refused StoredSettings :=
  match given with
  | none => .ok s
  | some given => (address? given).map fun url => { s with apiUrl := some url }

def changeTimeout (given : Option UInt64) (s : StoredSettings) : Except Refused StoredSettings :=
  match given with
  | none => .ok s
  | some seconds => if seconds = 0 then .error .zeroTimeout else .ok { s with timeoutSeconds := some seconds }

/-- The settings with both changes. The address is looked at first. -/
def change (apiUrl : Option String) (timeout : Option UInt64) (s : StoredSettings) :
    Except Refused StoredSettings := do
  changeTimeout timeout (← changeAddress apiUrl s)

/-!
## The file

The file of the stored settings: a TOML document with one key for each setting that is set. Other keys are
ignored when it is read and dropped when it is written.
-/

/-- A setting that is a text, if it is there; fails on a value of another type. -/
def textEntry? (doc : Toml) (key : String) : Option (Option String) :=
  match doc.member? key with
  | none => some none
  | some (.text s) => some (some s)
  | some _ => none

/-- A setting that is a natural number, if it is there; fails on any other value. -/
def numberEntry? (doc : Toml) (key : String) : Option (Option UInt64) :=
  match doc.member? key with
  | none => some none
  | some (.integer n) => if 0 ≤ n then some (some (UInt64.ofNat n.toNat)) else none
  | some _ => none

def ofToml? (doc : Toml) : Option StoredSettings := do
  return {
    apiUrl := ← textEntry? doc "api_url"
    token := ← textEntry? doc "token"
    csrfToken := ← textEntry? doc "csrf_token"
    timeoutSeconds := ← numberEntry? doc "timeout_secs"
    debounceMillis := ← numberEntry? doc "typeahead_debounce_ms" }

def ofText? (s : String) : Option StoredSettings := (Toml.parse? s).bind ofToml?

def textLine (key : String) : Option String → String
  | some s => key ++ " = " ++ Toml.quote s ++ "\n"
  | none => ""

/-- The line of a number that is set; fails on a number that the format cannot hold. -/
def numberLine? (key : String) : Option UInt64 → Option String
  | some n =>
    if Toml.inRange n.toNat then some (key ++ " = " ++ String.ofList (decimalDigits n.toNat) ++ "\n")
    else none
  | none => some ""

/-- The content of the file; none if a number is too large for it. -/
def text? (s : StoredSettings) : Option String := do
  let timeout ← numberLine? "timeout_secs" s.timeoutSeconds
  let debounce ← numberLine? "typeahead_debounce_ms" s.debounceMillis
  return textLine "api_url" s.apiUrl ++ textLine "token" s.token ++
    textLine "csrf_token" s.csrfToken ++ timeout ++ debounce

end ChangeDesk.StoredSettings

/-!
## Settings in effect

The settings in effect, and the places of the files. The environment wins over what is stored, blank values
count as missing, and every value has a normal form: no white space around it, no slash at the end of the
address, and at least one second to wait.
-/

namespace ChangeDesk

abbrev Environment := String → Option String

structure Settings where
  apiUrl : String
  token : Option String
  csrfToken : Option String
  timeoutSeconds : UInt64
  debounceMillis : UInt64
deriving DecidableEq, Repr

/-- The value without white space around it, unless it is blank. -/
def filled? (value : String) : Option String :=
  if Text.isBlank value then none else some (Text.trim value)

namespace Settings

def defaultApiUrl : String := "http://localhost:8092"

def defaultTimeoutSeconds : UInt64 := 10

def defaultDebounceMillis : UInt64 := 300

/-- A variable of the environment, or else a stored value. -/
def pick (env : Environment) (key : String) (stored : Option String) : Option String :=
  ((env key).bind filled?) <|> (stored.bind filled?)

def resolve (stored : StoredSettings) (env : Environment) : Settings where
  apiUrl := Text.trimEnd (· = '/') ((pick env "NOQ_API_URL" stored.apiUrl).getD defaultApiUrl)
  token := pick env "NOQ_TOKEN" stored.token
  csrfToken := pick env "NOQ_CSRF_TOKEN" stored.csrfToken
  timeoutSeconds := max (stored.timeoutSeconds.getD defaultTimeoutSeconds) 1
  debounceMillis := stored.debounceMillis.getD defaultDebounceMillis

def programName : String := "noq-request"

/-- A directory that a variable names with an absolute path, or else one below the home directory. -/
def baseDirectory (env : Environment) (key fallback : String) : String :=
  match env key with
  | some path => if Text.Path.isAbsolute path then path else Text.Path.join ((env "HOME").getD "") fallback
  | none => Text.Path.join ((env "HOME").getD "") fallback

def sessionFile (env : Environment) : String :=
  let standard := Text.Path.join
    (Text.Path.join (baseDirectory env "XDG_DATA_HOME" ".local/share") programName) "session.db"
  match env "NOQ_SESSION_DB" with
  | some path => if Text.isBlank path then standard else path
  | none => standard

/-- The log file beside the file of a session store. -/
def logFile (sessionFile : String) : String :=
  Text.Path.withFileName sessionFile (programName ++ ".log")

def configFile (env : Environment) : String :=
  Text.Path.join (Text.Path.join (baseDirectory env "XDG_CONFIG_HOME" ".config") programName)
    "default-config.toml"

end Settings

end ChangeDesk
