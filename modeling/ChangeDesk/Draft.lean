import ChangeDesk.Model
import ChangeDesk.Sha256
import ChangeDesk.Text.Basic

/-!
The draft of one change request, through its three stages: choosing an integration, configuring its
template, and reviewing the files that would change. Moving forward asks for the fields of the stage that
is left; moving back is always allowed and loses nothing. Choosing another integration drops what depended
on the earlier one. The files on review belong to the values they were previewed for: a fingerprint of
these values is kept beside them.
-/
namespace ChangeDesk

inductive Stage where
  | choose
  | configure
  | review
deriving DecidableEq, Repr

namespace Stage

def all : List Stage := [choose, configure, review]

def index : Stage → Nat
  | choose => 0
  | configure => 1
  | review => 2

def title : Stage → String
  | choose => "Select provider"
  | configure => "Configure"
  | review => "Review & submit"

def next? : Stage → Option Stage
  | choose => some configure
  | configure => some review
  | review => none

def previous? : Stage → Option Stage
  | choose => none
  | configure => some choose
  | review => some configure

end Stage

/-- Whether a value counts as missing: null, blank text, and empty arrays and objects. -/
def Json.isBlankValue : Json → Bool
  | .null => true
  | .string s => Text.isBlank s
  | .array items => items.isEmpty
  | .object members => members.isEmpty
  | .bool _ => false
  | .number _ => false

/-- Why a draft refuses to move on or to be submitted. -/
inductive Refusal where
  | missingFields (names : List String)
  | templatePending
  | noFiles
  | stalePreview
  | skipAhead (stage : Stage)
  | noNextStage
  | notOnReview
  | submitInProgress
deriving DecidableEq, Repr

namespace Refusal

def message : Refusal → String
  | missingFields names => "Required: " ++ String.intercalate ", " names
  | templatePending => "The template definition is still loading"
  | noFiles => "There are no changes to submit"
  | stalePreview =>
    "The preview no longer matches the configured values; regenerate it before submitting"
  | skipAhead stage => "Complete the current step before moving to " ++ stage.title
  | noNextStage => "Already on the last step"
  | notOnReview => "Requests can only be submitted from the review step"
  | submitInProgress => "A submission is already in progress"

end Refusal

def providerField : String := "provider"

def subTypeField : String := "sub_type"

def justificationField : String := "justification"

def isChoiceField (name : String) : Bool := name == providerField || name == subTypeField

/-- Whether a field belongs to the configuration of the template. -/
def isConfigured (name : String) : Bool := !isChoiceField name && name != justificationField

structure Draft where
  stage : Stage
  form : SortedMap Json
  template : Option Template
  files : List ChangedFile
  /-- The fingerprint of the values that the files were previewed for. -/
  previewed : Option String
  submitting : Bool

namespace Draft

def new : Draft := ⟨.choose, .empty, none, [], none, false⟩

instance : Inhabited Draft := ⟨new⟩

/-- The text of a field; empty if the field is absent or not a text. -/
def text (d : Draft) (name : String) : String := ((d.form.get? name).bind Json.text?).getD ""

/-- The draft without anything that depends on the choice of an integration. -/
def clearDependents (d : Draft) : Draft :=
  { d with
    form := d.form.filterKeys (fun name => !isConfigured name)
    template := none
    files := []
    previewed := none }

def holds (d : Draft) (name : String) (v : Json) : Bool :=
  match d.form.get? name with
  | some w => w.sameValue v
  | none => false

/-- Sets a field. A new value for a part of the choice drops what depends on the choice. -/
def setField (name : String) (v : Json) (d : Draft) : Draft :=
  let kept := if isChoiceField name && !d.holds name v then d.clearDependents else d
  { kept with form := kept.form.insert name v }

def setText (name text : String) (d : Draft) : Draft := d.setField name (.string text)

def choose (s : Integration) (d : Draft) : Draft :=
  (d.setText providerField s.provider).setText subTypeField s.subType

/-- The chosen integration, once neither part is blank. -/
def selection (d : Draft) : Option Integration :=
  let provider := d.text providerField
  let subType := d.text subTypeField
  if Text.isBlank provider || Text.isBlank subType then none else some ⟨provider, subType⟩

def accepts (d : Draft) (t : Template) : Bool :=
  d.selection == some ⟨t.provider, t.templateId⟩

/-- Installs the template of the chosen integration; any other is refused. -/
def setTemplate (t : Template) (d : Draft) : Bool × Draft :=
  if d.accepts t then (true, { d with template := some t }) else (false, d)

def required (d : Draft) : Stage → List String
  | .choose => [providerField, subTypeField]
  | .configure =>
    match d.template with
    | some t => (t.fields.filter Field.required).map Field.name
    | none => []
  | .review => [justificationField]

/-- The fields that a stage asks for and that are absent or blank. -/
def missing (d : Draft) (stage : Stage) : List String :=
  (d.required stage).filter fun name =>
    match d.form.get? name with
    | some v => v.isBlankValue
    | none => true

def validate (d : Draft) (stage : Stage) : Except Refusal Unit :=
  if stage = .configure ∧ d.template.isNone then .error .templatePending
  else if d.missing stage ≠ [] then .error (.missingFields (d.missing stage))
  else if stage = .review ∧ d.files.isEmpty then .error .noFiles
  else .ok ()

def advance (d : Draft) : Except Refusal Draft :=
  match d.stage.next? with
  | none => .error .noNextStage
  | some next => do
    d.validate d.stage
    return { d with stage := next }

def back (d : Draft) : Draft := { d with stage := d.stage.previous?.getD d.stage }

/-- Moves to the current or an earlier stage. -/
def goTo (stage : Stage) (d : Draft) : Except Refusal Draft :=
  if d.stage.index < stage.index then .error (.skipAhead stage) else .ok { d with stage := stage }

def configured (d : Draft) : SortedMap Json := d.form.filterKeys isConfigured

/-- The text whose digest tells the previewed values apart. -/
def fingerprintText (d : Draft) : String :=
  (Json.object [("fields", Json.ofMap d.configured),
    ("provider", .string (d.text providerField)),
    ("sub_type", .string (d.text subTypeField))]).compact

def fingerprint (d : Draft) : String := Sha256.ofText d.fingerprintText

/-- Whether there are no files for the current values. -/
def needsPreview (d : Draft) : Bool := d.files.isEmpty || d.previewed != some d.fingerprint

/-- Installs previewed files; files for other values than the current ones are refused. -/
def applyPreview (fingerprint : String) (files : List ChangedFile) (d : Draft) : Bool × Draft :=
  if fingerprint = d.fingerprint then
    (true, { d with files := files, previewed := some fingerprint })
  else (false, d)

def file? (d : Draft) (path : String) : Option ChangedFile := d.files.find? (fun f => f.path = path)

/-- Replaces the first file of the same path. -/
def replaceFirst (file : ChangedFile) : List ChangedFile → List ChangedFile
  | [] => []
  | f :: rest => if f.path = file.path then file :: rest else f :: replaceFirst file rest

/-- Takes over a confirmed edit of one of the files; a file of another path is refused. -/
def replaceFile (file : ChangedFile) (d : Draft) : Bool × Draft :=
  if (d.file? file.path).isSome then (true, { d with files := replaceFirst file d.files })
  else (false, d)

def requestWith (d : Draft) (files : List ChangedFile) : ChangeRequest :=
  ⟨d.text providerField, d.text subTypeField, d.configured, d.text justificationField, files⟩

def previewRequest (d : Draft) : ChangeRequest := d.requestWith []

/-- Checks that the draft can be submitted, and hands out the request to send. -/
def beginSubmit (d : Draft) : Except Refusal (ChangeRequest × Draft) :=
  if d.stage ≠ .review then .error .notOnReview
  else if d.submitting then .error .submitInProgress
  else do
    d.validate .review
    if d.needsPreview then throw .stalePreview
    return (d.requestWith d.files, { d with submitting := true })

/-- The draft after its request was accepted: a fresh one. -/
def submitSucceeded (_ : Draft) : Draft := new

/-- The draft after its request was refused: everything stays for another try. -/
def submitFailed (d : Draft) : Draft := { d with submitting := false }

end Draft

end ChangeDesk
