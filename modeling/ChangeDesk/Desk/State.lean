import ChangeDesk.Debounce
import ChangeDesk.Desk.Job
import ChangeDesk.Editor
import ChangeDesk.Picker
import ChangeDesk.Session.Store

/-!
The state of the desk: the draft with the list to choose from, the open editor, what is awaited from the
backend, what is shown over the screen, and the session store. Every operation yields the next state and
the job it issues, if any; none issues more than one.
-/
namespace ChangeDesk

/-- A message over the current view, until it is dismissed. -/
inductive Notice where
  /-- An edit was taken over into the request. -/
  | updated (path : String)
  /-- An edited file is no longer among those of the request. -/
  | detached (path : String)
  | failure (error : ApiError)
deriving DecidableEq, Repr

namespace Notice

def isError : Notice → Bool
  | updated _ => false
  | _ => true

def message : Notice → String
  | updated path => "Updated " ++ path
  | detached path => path ++ " is no longer part of this request"
  | failure e => e.message

end Notice

inductive Exit where
  | cancelled
  | submitted (receipt : Receipt)
  | sessionExpired
deriving DecidableEq, Repr

/-- The part of the review that takes the keys. -/
inductive ReviewFocus where
  | files
  | justification
deriving DecidableEq, Repr

structure Desk where
  draft : Draft
  picker : Picker
  inflight : Inflight
  session : Session
  fieldCursor : Nat
  typing : Debounce
  suggestions : List Suggestion
  suggestionSelected : Nat
  reviewFocus : ReviewFocus
  selectedFile : Nat
  editor : Option Editor
  /-- Lines scrolled past in the diff, at most `scrollLimit`. -/
  scroll : Nat
  /-- Why the last move or submission was refused. -/
  refusal : Option Refusal
  notice : Option Notice
  lastAttempt : Option Timestamp
  helpOpen : Bool
  exit : Option Exit

/-- The next state and the job issued on the way. -/
abbrev Reaction := Desk × Option Issued

/-- The time: milliseconds for pauses in the typing, and the calendar's time for attempts. -/
structure Clock where
  millis : Nat
  wall : Timestamp

namespace Desk

def scrollLimit : Nat := 65535

def pageLines : Nat := 20

/-- The desk before it asks for anything. -/
def idle (session : Session) (delay : Nat) : Desk where
  draft := .new
  picker := .new
  inflight := .new
  session := session
  fieldCursor := 0
  typing := .new delay
  suggestions := []
  suggestionSelected := 0
  reviewFocus := .files
  selectedFile := 0
  editor := none
  scroll := 0
  refusal := none
  notice := none
  lastAttempt := ((session.lastAttempt Session.submitFeature).toOption).join
  helpOpen := false
  exit := none

def hasQuit (d : Desk) : Bool := d.exit.isSome

def quiet (d : Desk) : Reaction := (d, none)

/-- Issues a job under a new token. -/
def issue (job : Job) (d : Desk) : Reaction :=
  let (token, inflight) := d.inflight.issue job.kind
  ({ d with inflight := inflight }, some ⟨token, job⟩)

def loadProviders (d : Desk) : Reaction := issue .providers { d with picker := d.picker.reload }

def loadTemplate (d : Desk) : Reaction :=
  match d.draft.selection with
  | some s => d.issue (.definition s)
  | none => d.quiet

def requestPreview (d : Desk) : Reaction :=
  d.issue (.preview d.draft.fingerprint d.draft.previewRequest)

def currentField (d : Desk) : Option Field :=
  d.draft.template.bind (fun t => t.fields[d.fieldCursor]?)

/-- Asks for completions of what is typed in the current field; blank text has none. -/
def requestTypeahead (start : String) (d : Desk) : Reaction :=
  match d.draft.selection, d.currentField with
  | some s, some f =>
    if Text.isBlank start then
      quiet { d with inflight := d.inflight.cancel .typeahead, suggestions := [] }
    else d.issue (.typeahead ⟨s.provider, s.subType, f.name, start⟩)
  | _, _ => d.quiet

def submit (clock : Clock) (d : Desk) : Reaction :=
  match d.draft.beginSubmit with
  | .ok (request, draft) =>
    -- a store that cannot be written does not keep the request back
    let session := match d.session.recordAttempt Session.submitFeature clock.wall with
      | .ok s => s
      | .error _ => d.session
    issue (.submit request)
      { d with draft := draft, session := session, lastAttempt := some clock.wall, refusal := none }
  | .error r => quiet { d with refusal := some r }

/-- Leaves the desk. Nothing that is still awaited counts any more. -/
def quit (reason : Exit) (d : Desk) : Desk :=
  { d with inflight := d.inflight.nextGeneration, exit := some reason }

end Desk

end ChangeDesk
