import ChangeDesk.Desk.State

/-!
What keys and the passing of time do. Leaving with Ctrl and c comes first, then closing the help, then
dismissing a notice, then the keys of the stages, then the open editor, and last the current stage.
-/
namespace ChangeDesk

inductive KeyCode where
  | char (c : Char)
  | enter
  | escape
  | tab
  | backTab
  | backspace
  | delete
  | insert
  | left
  | right
  | up
  | down
  | home
  | stop
  | pageUp
  | pageDown
  | function (n : Nat)
deriving DecidableEq, Repr

/-- A key press: the key, and whether Ctrl is held. Other modifiers make no difference. -/
structure Key where
  code : KeyCode
  ctrl : Bool
deriving DecidableEq, Repr

namespace Desk

def resetTyping (d : Desk) : Desk :=
  { d with
    typing := d.typing.reset
    suggestions := []
    suggestionSelected := 0
    inflight := d.inflight.cancel .typeahead }

def enterStage (d : Desk) : Reaction :=
  let d := { d with editor := none, scroll := 0 }
  match d.draft.stage with
  | .choose => quiet { d with picker := d.picker.syncWith d.draft }
  | .configure =>
    let (d, issued) := if d.draft.template.isNone then d.loadTemplate else d.quiet
    (d.resetTyping, issued)
  | .review =>
    let d := { d with reviewFocus := .files }
    if d.draft.needsPreview then d.requestPreview else d.quiet

/-- Enters the stage of a draft that has moved, or shows why it has not. -/
def moved (d : Desk) (r : Except Refusal Draft) : Reaction :=
  match r with
  | .ok draft => enterStage { d with draft := draft, refusal := none }
  | .error r => quiet { d with refusal := some r }

def advance (d : Desk) : Reaction := d.moved d.draft.advance

def back (d : Desk) : Reaction := d.moved (.ok d.draft.back)

def jumpTo (stage : Stage) (d : Desk) : Reaction := d.moved (d.draft.goTo stage)

def moveField (forward : Bool) (d : Desk) : Desk :=
  let count := (d.draft.template.map (fun t => t.fields.length)).getD 0
  if count = 0 then d
  else
    let cursor := if forward then min (d.fieldCursor + 1) (count - 1) else d.fieldCursor - 1
    resetTyping { d with fieldCursor := cursor }

def editField (edit : String → String) (clock : Clock) (d : Desk) : Desk :=
  match d.currentField with
  | none => d
  | some f =>
    let value := edit (d.draft.text f.name)
    let d := { d with draft := d.draft.setText f.name value }
    if f.completes then { d with typing := d.typing.input value clock.millis } else d

/-- Enters the highlighted completion into the current field; none if there is no completion. -/
def acceptSuggestion? (d : Desk) : Option Desk :=
  match d.suggestions[d.suggestionSelected]? with
  | none => none
  | some hit =>
    let draft := match d.currentField with
      | some f => d.draft.setText f.name hit.value
      | none => d.draft
    some (resetTyping { d with draft := draft })

/-- Opens the selected file. While a request is under way its files can only be looked at. -/
def openEditor (readOnly : Bool) (d : Desk) : Desk :=
  if d.draft.needsPreview then d
  else match d.draft.files[d.selectedFile]? with
    | some f => { d with editor := some (.openFile f (readOnly || d.draft.submitting)), scroll := 0 }
    | none => d

def dropLast (s : String) : String := String.ofList s.toList.dropLast

def scrollDown (d : Desk) : Desk := { d with scroll := min (d.scroll + pageLines) scrollLimit }

def scrollUp (d : Desk) : Desk := { d with scroll := d.scroll - pageLines }

def chooseKey (k : Key) (d : Desk) : Reaction :=
  match k.code with
  | .char 'q' => quiet (d.quit .cancelled)
  | .escape => quiet (d.quit .cancelled)
  | .char '?' => quiet { d with helpOpen := true }
  | .char 'j' => quiet { d with picker := d.picker.selectNext }
  | .down => quiet { d with picker := d.picker.selectNext }
  | .char 'k' => quiet { d with picker := d.picker.selectPrevious }
  | .up => quiet { d with picker := d.picker.selectPrevious }
  | .char 'r' => d.loadProviders
  | .enter => advance { d with draft := (d.picker.choose d.draft).2 }
  | _ => d.quiet

/-- Characters typed with Ctrl move the highlight among the completions; others are entered. -/
def configureChar (c : Char) (ctrl : Bool) (clock : Clock) (d : Desk) : Desk :=
  if ctrl then
    if c = 'n' then
      if d.suggestionSelected + 1 < d.suggestions.length then
        { d with suggestionSelected := d.suggestionSelected + 1 }
      else d
    else if c = 'p' then { d with suggestionSelected := d.suggestionSelected - 1 }
    else d
  else d.editField (fun s => s.push c) clock

def configureKey (k : Key) (clock : Clock) (d : Desk) : Reaction :=
  match k.code with
  | .escape => d.back
  | .enter => d.advance
  | .up => quiet (d.moveField false)
  | .backTab => quiet (d.moveField false)
  | .down => quiet (d.moveField true)
  | .tab => quiet (d.acceptSuggestion?.getD (d.moveField true))
  | .backspace => quiet (d.editField dropLast clock)
  | .char c => quiet (d.configureChar c k.ctrl clock)
  | _ => d.quiet

def nextFile (d : Desk) : Desk :=
  if d.selectedFile + 1 < d.draft.files.length then
    { d with selectedFile := d.selectedFile + 1, scroll := 0 }
  else d

def previousFile (d : Desk) : Desk :=
  if 0 < d.selectedFile then { d with selectedFile := d.selectedFile - 1, scroll := 0 } else d

def filesKey (k : Key) (clock : Clock) (d : Desk) : Reaction :=
  match k.code with
  | .char 'q' => quiet (d.quit .cancelled)
  | .char '?' => quiet { d with helpOpen := true }
  | .escape => d.back
  | .char 'j' => quiet d.nextFile
  | .down => quiet d.nextFile
  | .char 'k' => quiet d.previousFile
  | .up => quiet d.previousFile
  | .enter => quiet (d.openEditor false)
  | .char 'e' => quiet (d.openEditor false)
  | .char 'v' => quiet (d.openEditor true)
  | .tab => quiet { d with reviewFocus := .justification }
  | .char 'S' => d.submit clock
  | .char 'R' => d.requestPreview
  | .pageDown => quiet d.scrollDown
  | .pageUp => quiet d.scrollUp
  | _ => d.quiet

def editJustification (edit : String → String) (d : Desk) : Desk :=
  { d with draft := d.draft.setText justificationField (edit (d.draft.text justificationField)) }

def justificationKey (k : Key) (clock : Clock) (d : Desk) : Reaction :=
  match k.code with
  | .tab => quiet { d with reviewFocus := .files }
  | .backTab => quiet { d with reviewFocus := .files }
  | .escape => quiet { d with reviewFocus := .files }
  | .enter => d.submit clock
  | .backspace => quiet (d.editJustification dropLast)
  | .char c => if k.ctrl then d.quiet else quiet (d.editJustification (fun s => s.push c))
  | _ => d.quiet

/-- Confirms the edit and takes it over into the draft. -/
def confirmEdit (e : Editor) (d : Desk) : Desk :=
  match e.confirm with
  | (none, _) => d
  | (some file, e) =>
    let (replaced, draft) := d.draft.replaceFile file
    { d with
      draft := draft
      editor := some e
      notice := some (if replaced then .updated file.path else .detached file.path) }

def withEditor (a : Editor.Action) (e : Editor) (d : Desk) : Desk := { d with editor := some (e.act a) }

/-- Characters typed with Ctrl confirm or revert; others are entered. -/
def editorChar (c : Char) (ctrl : Bool) (e : Editor) (d : Desk) : Desk :=
  if ctrl then
    if c = 's' then d.confirmEdit e
    else if c = 'r' then d.withEditor .revert e
    else d
  else d.withEditor (.insert c) e

def editorKey (k : Key) (e : Editor) (d : Desk) : Desk :=
  match k.code with
  | .escape => { d with editor := none }
  | .char c => d.editorChar c k.ctrl e
  | .left => d.withEditor .left e
  | .right => d.withEditor .right e
  | .up => d.withEditor .up e
  | .down => d.withEditor .down e
  | .home => d.withEditor .home e
  | .stop => d.withEditor .stop e
  | .backspace => d.withEditor .backspace e
  | .delete => d.withEditor .delete e
  | .enter => d.withEditor .newline e
  | .pageDown => d.scrollDown
  | .pageUp => d.scrollUp
  | _ => d

def stageOfKey? : KeyCode → Option Stage
  | .function 1 => some .choose
  | .function 2 => some .configure
  | .function 3 => some .review
  | _ => none

def stageKey (k : Key) (clock : Clock) (d : Desk) : Reaction :=
  match d.draft.stage, d.reviewFocus with
  | .choose, _ => d.chooseKey k
  | .configure, _ => d.configureKey k clock
  | .review, .files => d.filesKey k clock
  | .review, .justification => d.justificationKey k clock

def press (k : Key) (clock : Clock) (d : Desk) : Reaction :=
  if k = ⟨.char 'c', true⟩ then quiet (d.quit .cancelled)
  else if d.helpOpen then quiet { d with helpOpen := false }
  else if d.notice.isSome ∧ k.code = .escape then quiet { d with notice := none }
  else match stageOfKey? k.code, d.editor with
    | some stage, _ => d.jumpTo stage
    | none, some e => quiet (d.editorKey k e)
    | none, none => d.stageKey k clock

/-- Looks up completions once the typing has paused. -/
def tick (clock : Clock) (d : Desk) : Reaction :=
  if d.draft.stage = .configure then
    match d.typing.poll clock.millis with
    | (some start, typing) => requestTypeahead start { d with typing := typing }
    | (none, typing) => quiet { d with typing := typing }
  else d.quiet

end Desk

end ChangeDesk
