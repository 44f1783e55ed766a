import ChangeDesk.Desk.State
import ChangeDesk.Highlight
import ChangeDesk.Screen.Canvas

/-!
What a desk looks like: the panes on the screen and the place of the cursor. The head shows the stages, the
foot a hint or why something was refused, and the body the open editor or else the current stage. A notice
lies over all of them, and the help stands alone.
-/
namespace ChangeDesk

open Screen

/-- The panes from the lowest to the uppermost, and the cursor if it shows. -/
structure View where
  panes : List Pane
  cursor : Option (Nat × Nat)

namespace View

def still (panes : List Pane) : View := ⟨panes, none⟩

def withPanes (v : View) (panes : List Pane) : View := { v with panes := v.panes ++ panes }

def paint (v : View) (width height : Nat) : Canvas :=
  v.panes.foldl Canvas.paintPane (.blank width height)

end View

namespace Desk

def numberText (n : Nat) : String := String.ofList (decimalDigits n)

def chosenStyle (chosen : Bool) : Style := if chosen then .strong .yellow else .unset

def chosenMark (chosen : Bool) : String := if chosen then ">" else " "

def stageTab (current stage : Stage) : Line :=
  [⟨" ", .unset⟩,
    ⟨"F" ++ numberText (stage.index + 1) ++ " " ++ stage.title, chosenStyle (current == stage)⟩,
    ⟨" ", .unset⟩]

def headPane (d : Desk) (a : Area) : Pane :=
  .plain a "New self-service request"
    (.cut [List.intercalate [⟨"│", .unset⟩] (Stage.all.map (stageTab d.draft.stage))] 0)

def cardItem (chosen : Bool) (s : Integration) : Item :=
  ⟨plainLines (chosenMark chosen ++ " " ++ Text.padEnd 12 s.provider ++ " " ++ s.subType),
    chosenStyle chosen⟩

def pickerContent (p : Picker) : Content :=
  match p.offer with
  | .loading => .cut (plainLines "Loading configured providers...") 0
  | .empty =>
    .cut [plainLine "No providers are configured.", [],
      plainLine "Connect an integration in Noq, then press r to refresh."] 0
  | .failed message =>
    .wrapped [[⟨message, .ofColour .red⟩], [], plainLine "Press r to retry."]
  | .ready cards => .items (cards.zipIdx.map (fun (s, i) => cardItem (i == p.selected) s))

def chooseView (d : Desk) (a : Area) : View := .still [.plain a "Provider" (pickerContent d.picker)]

/-- One field with its value, and below it its description. -/
def fieldItem (d : Desk) (f : Field) (chosen : Bool) : Item :=
  let head := plainLine (chosenMark chosen ++ " " ++ f.shownName ++ (if f.required then "*" else "") ++
    ": " ++ d.draft.text f.name)
  let description := f.description.toList.map (fun text => [⟨"    " ++ text, .ofColour .darkGray⟩])
  ⟨head :: description, chosenStyle chosen⟩

def suggestionItems (d : Desk) : List Item :=
  d.suggestions.zipIdx.map fun (s, i) =>
    ⟨plainLines s.label, if i = d.suggestionSelected then .strong .cyan else .unset⟩

def suggestionRows (d : Desk) : Nat := min (d.suggestions.length + 2) 8

/-- The fields of a template, with the completions below them. -/
def templateView (d : Desk) (t : Template) (a : Area) : View :=
  let items := t.fields.zipIdx.map (fun (f, i) => d.fieldItem f (i == d.fieldCursor))
  let pane (a : Area) : Pane := .plain a (t.name.getD t.templateId) (.items items)
  if d.suggestions.isEmpty then .still [pane a]
  else
    let (fields, suggestions) := a.splitBottom d.suggestionRows
    .still [pane fields,
      .plain suggestions "Suggestions (Ctrl+n/Ctrl+p, Tab to accept)" (.items d.suggestionItems)]

def configureView (d : Desk) (a : Area) : View :=
  match d.draft.template with
  | some t => d.templateView t a
  | none =>
    let what := (d.draft.selection.map Integration.title).getD ""
    .still [.plain a "Configure"
      (.cut (plainLines ("Loading template definition for " ++ what ++ "...")) 0)]

def diffPane (d : Desk) (a : Area) (fileType title : String) (lines : List DiffLine) : Pane :=
  .plain a title (.cut (lines.map (Highlight.diffLine fileType)) d.scroll)

/-- Why there are no files to show. -/
def noFilesText (d : Desk) : String :=
  if d.inflight.isPending .preview then "Generating request preview..."
  else if d.draft.files.isEmpty then "No changes. Press R to regenerate the preview."
  else "The preview is out of date. Press R to regenerate it."

def filesPanes (d : Desk) (a : Area) : List Pane :=
  if d.draft.needsPreview then [.plain a "Changes" (.cut (plainLines d.noFilesText) 0)]
  else
    let (list, diff) := a.splitColumns 30
    let items := d.draft.files.zipIdx.map fun (f, i) =>
      (⟨plainLines (f.path ++ " (+" ++ numberText f.additions.toNat ++ ")"),
        chosenStyle (i == d.selectedFile)⟩ : Item)
    .plain list "Files" (.items items) ::
      (d.draft.files[d.selectedFile]?).toList.map fun f =>
        let title := "Diff (Enter edit, v view)"
        d.diffPane diff f.fileExtension
          (match f.sourceLink with
            | some link => title ++ " | " ++ link
            | none => title)
          (Diff.lines f.previousBody f.body)

def justificationPane (d : Desk) (a : Area) : Pane :=
  let title := "Justification (Tab)"
  let title := match d.lastAttempt with
    | some t => title ++ " | last submit attempt " ++ String.ofList t.clockChars
    | none => title
  { Pane.plain a title (.cut (plainLines (d.draft.text justificationField)) 0) with
    border := if d.reviewFocus = .justification then .ofColour .yellow else .unset }

def reviewView (d : Desk) (a : Area) : View :=
  let (files, justification) := a.splitBottom 3
  let cursor := if d.reviewFocus = .justification then
      some (justification.cursorIn (d.draft.text justificationField).length 0)
    else none
  ⟨d.filesPanes files ++ [d.justificationPane justification], cursor⟩

/-- The first line shown of a buffer whose cursor is in line `row`, where `rows` lines are visible: the
cursor's line is the last one shown, unless the buffer is shown from its start. -/
def editorTop (rows row : Nat) : Nat := row - (rows - 1)

/-- The lines of a buffer that a pane of this area shows. -/
def editorRows (a : Area) : Nat := max (a.height - 2) 1

/-- The scroll position that shows a line first; positions have 16 bits. -/
def scrollTo (line : Nat) : Nat := line % (scrollLimit + 1)

def bufferPane (e : Editor) (a : Area) : Pane :=
  let title := if e.readOnly then "Template (read-only, Esc close)"
    else "Template (Ctrl+S modify, Ctrl+R revert, Esc close)"
  let lines := e.lines.map (fun l => Highlight.fileLine e.file.fileExtension (String.ofList l))
  .plain a title (.cut lines (scrollTo (editorTop (editorRows a) e.position.1)))

/-- The cursor in the buffer of an editor; none if it is read-only. -/
def bufferCursor (e : Editor) (a : Area) : Option (Nat × Nat) :=
  let (row, column) := e.position
  if e.readOnly then none
  else some (a.cursorIn column (row - editorTop (editorRows a) row))

/-- The open editor: the diff to the buffer above, the buffer below. -/
def editorView (d : Desk) (e : Editor) (a : Area) : View :=
  let (upper, lower) := a.splitRows 50
  let diff := e.diff
  let title := e.file.sourceLink.getD e.file.path ++ " (+" ++ numberText (Diff.addedCount diff) ++ ")" ++
    (if e.hasChanged then " [changed]" else "")
  ⟨[d.diffPane upper e.file.fileExtension title diff, bufferPane e lower], bufferCursor e lower⟩

def bodyView (d : Desk) (a : Area) : View :=
  match d.editor, d.draft.stage with
  | some e, _ => d.editorView e a
  | none, .choose => d.chooseView a
  | none, .configure => d.configureView a
  | none, .review => d.reviewView a

def hint (d : Desk) : String :=
  match d.editor, d.draft.stage with
  | some e, _ =>
    if e.readOnly then "PgUp/PgDn: scroll  Esc: close"
    else "arrows: move  Ctrl+S: modify  Ctrl+R: revert  Esc: close"
  | none, .choose => "j/k: choose  Enter: continue  r: refresh  ?: help  q: quit"
  | none, .configure => "Up/Down: field  type to edit  Enter: continue  Esc: back  F1: restart"
  | none, .review =>
    "j/k: file  Enter: edit  Tab: justification  S: submit  Esc: back  ?: help"

def footText (d : Desk) : String × Style :=
  match d.refusal with
  | some r => (r.message, .ofColour .red)
  | none => if d.draft.submitting then ("Submitting request...", .ofColour .cyan) else (d.hint, .unset)

def footPane (d : Desk) (a : Area) : Pane :=
  let (text, style) := d.footText
  { Pane.plain a "" (.wrapped (plainLines text)) with style := style }

def noticePane (n : Notice) (screen : Area) : Pane :=
  { Pane.plain (screen.centered 60 30) (if n.isError then "Error" else "Notice")
      (.wrapped (plainLines (n.message ++ "\n\nEsc to dismiss"))) with
    style := .ofColour (if n.isError then .red else .green)
    clears := true }

def helpText : List String := [
  "Noq Request - Keyboard Shortcuts",
  "",
  "Steps:",
  "  F1 / F2 / F3  - Jump back to a completed step",
  "  Enter         - Continue to the next step",
  "  Esc           - Previous step (or dismiss a notification)",
  "",
  "Select provider:",
  "  j / k         - Move between providers",
  "  r             - Refresh the provider list",
  "",
  "Configure:",
  "  Up / Down     - Move between fields",
  "  Ctrl+n/Ctrl+p - Move between suggestions",
  "  Tab           - Accept suggestion",
  "",
  "Review & submit:",
  "  Enter / e     - Edit the selected file",
  "  v             - View the selected file (read-only)",
  "  Tab           - Edit the justification",
  "  S (Shift+S)   - Submit the request",
  "  R (Shift+R)   - Regenerate the preview",
  "",
  "Editor:",
  "  Ctrl+S        - Modify (keep the edited template)",
  "  Ctrl+R        - Revert local edits",
  "",
  "  Ctrl+C        - Quit",
  "",
  "Press any key to close this help"]

def helpPane (screen : Area) : Pane :=
  .plain (screen.centered 60 80) "Help" (.wrapped (helpText.map plainLine))

def view (d : Desk) (screen : Area) : View :=
  if d.helpOpen then .still [helpPane screen]
  else
    let (head, body, foot) := screen.frame
    let v := d.bodyView body
    { v with panes := d.headPane head :: v.panes }.withPanes
      (d.footPane foot :: d.notice.toList.map (fun n => noticePane n screen))

end Desk

end ChangeDesk
