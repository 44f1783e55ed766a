import ChangeDesk.Desk.Input
import ChangeDesk.Desk.State

/-!
The desk as a machine: it starts by asking for the integrations, takes in the answers of the backend, and
reacts to key presses and to the passing of time, in any order. An answer that no longer counts changes
nothing. An expired session ends the desk, whatever it answers; any other error of the list of integrations is
shown in its place, and all others as a notice.
-/

namespace ChangeDesk.Desk

/-- Shows an error as a notice, or leaves the desk if the session has expired. -/
def report (e : ApiError) (d : Desk) : Desk :=
  if e = .sessionExpired then d.quit .sessionExpired else { d with notice := some (.failure e) }

def takeProviders (outcome : Outcome (List Integration)) (d : Desk) : Desk :=
  match outcome with
  | .ok l => { d with picker := (d.picker.load l).syncWith d.draft }
  | .error e =>
    if e = .sessionExpired then d.quit .sessionExpired
    else { d with picker := d.picker.fail e.message }

def takeTemplate (outcome : Outcome Template) (d : Desk) : Desk :=
  match outcome with
  | .ok t => { d with draft := (d.draft.setTemplate t).2, fieldCursor := 0 }
  | .error e => d.report e

/-- Takes in completions if their field is still the current one. -/
def takeSuggestions (field : String) (outcome : Outcome (List Suggestion)) (d : Desk) : Desk :=
  match outcome with
  | .ok hits =>
    if d.currentField.any (fun f => f.name == field) then
      { d with suggestions := hits, suggestionSelected := 0 }
    else d
  | .error e => d.report e

/-- Takes in previewed files, closing an editor of the files they replace. -/
def takePreview (fingerprint : String) (outcome : Outcome (List ChangedFile)) (d : Desk) : Reaction :=
  match outcome with
  | .ok files =>
    match d.draft.applyPreview fingerprint files with
    | (true, draft) => quiet { d with draft := draft, editor := none, selectedFile := 0, scroll := 0 }
    | (false, _) =>
      -- the files are for other values than the current ones
      if d.draft.stage = .review ∧ d.draft.needsPreview then d.requestPreview else d.quiet
  | .error e => quiet (d.report e)

/-- Takes in the answer to a submission: a receipt ends the desk, an error leaves the draft for a retry. -/
def takeReceipt (outcome : Outcome Receipt) (d : Desk) : Desk :=
  match outcome with
  | .ok receipt =>
    let session := match d.session.clearAttempt Session.submitFeature with
      | .ok (_, s) => s
      | .error _ => d.session
    quit (.submitted receipt)
      { d with draft := d.draft.submitSucceeded, session := session, lastAttempt := none }
  | .error e => report e { d with draft := d.draft.submitFailed }

/-- Takes in an answer that counts. -/
def takeAnswer (answer : Answer) (d : Desk) : Reaction :=
  match answer with
  | .providers outcome => quiet (d.takeProviders outcome)
  | .definition outcome => quiet (d.takeTemplate outcome)
  | .typeahead field outcome => quiet (d.takeSuggestions field outcome)
  | .preview fingerprint outcome => d.takePreview fingerprint outcome
  | .submit outcome => quiet (d.takeReceipt outcome)

def deliver (c : Completion) (d : Desk) : Reaction :=
  match d.inflight.settle c.token with
  | (true, inflight) => takeAnswer c.answer { d with inflight := inflight }
  | (false, _) => d.quiet

end ChangeDesk.Desk

namespace ChangeDesk

inductive Event where
  | key (k : Key) (clock : Clock)
  | tick (clock : Clock)
  | completion (c : Completion)

namespace Desk

def start (session : Session) (delay : Nat) : Reaction := (idle session delay).loadProviders

def react (d : Desk) : Event → Reaction
  | .key k clock => d.press k clock
  | .tick clock => d.tick clock
  | .completion c => d.deliver c

end Desk

end ChangeDesk
