import ChangeDesk.Desk
import ChangeDesk.Desk.Job
import ChangeDesk.Text.Basic

/-!
The desk with a backend that answers from a script. Templates are looked up by the title of the integration
and suggestions by what was typed; the files of a preview have the values of the request written into them.
-/

namespace ChangeDesk

/-- A scripted template. What it does not say of its integration is taken from the question. -/
structure ScriptedTemplate where
  templateId : Option String
  provider : Option String
  name : Option String
  fields : List Field
deriving DecidableEq, Repr

structure Script where
  providers : Outcome (List Integration)
  templates : List (String × Outcome ScriptedTemplate)
  suggestions : List (String × Outcome (List Suggestion))
  preview : Outcome (List ChangedFile)
  receipt : Outcome Receipt

namespace ScriptedTemplate

def answer (t : ScriptedTemplate) (s : Integration) : Template :=
  ⟨t.templateId.getD s.subType, t.provider.getD s.provider, t.name, t.fields⟩

end ScriptedTemplate

namespace Script

/-- Nothing is configured and every request is accepted. -/
def blank : Script := ⟨.ok [], [], [], .ok [], .ok ⟨"req-1", none⟩⟩

/-- The template of an integration; one that the script does not know has no fields. -/
def template (script : Script) (s : Integration) : Outcome Template :=
  match script.templates.lookup s.title with
  | some outcome => outcome.map (fun t => t.answer s)
  | none => .ok ⟨s.subType, s.provider, none, []⟩

/-- A text with the values of a request written into it: each field's name between braces is replaced by the
field's text, field by field in the order of their names. -/
def fillIn (request : ChangeRequest) (text : String) : String :=
  request.fields.entries.foldl (fun text (name, v) =>
    match v with
    | .string value => Text.replaceAll ("\x7b" ++ name ++ "\x7d") value text
    | _ => text) text

def fillInFile (request : ChangeRequest) (f : ChangedFile) : ChangedFile :=
  { f with
    path := fillIn request f.path
    previousBody := fillIn request f.previousBody
    body := fillIn request f.body }

def backend (script : Script) : Backend where
  providers := script.providers
  definition := script.template
  typeahead query := (script.suggestions.lookup query.start).getD (.ok [])
  preview request := script.preview.map (fun files => files.map (fillInFile request))
  submit _ := script.receipt

end Script

/-!
## Rehearsals

A desk rehearsed with a script. Every job is answered from the script as it stands when the job is issued. The
answers wait in one queue; those of the held kinds wait aside until they are released to the end of the queue.
Nothing is delivered before it is asked for.
-/

structure Rehearsal where
  desk : Desk
  script : Script
  /-- The kinds whose answers are put aside. -/
  held : List RequestKind
  queue : List Completion
  aside : List Completion
  /-- The jobs issued and not yet forgotten, oldest first. -/
  calls : List Job

namespace Rehearsal

/-- Goes on from a reaction of the desk: the job it issued is answered. -/
def follow (r : Rehearsal) (reaction : Reaction) : Rehearsal :=
  let r := { r with desk := reaction.1 }
  match reaction.2 with
  | none => r
  | some issued =>
    let c := r.script.backend.complete issued
    let r := { r with calls := r.calls ++ [issued.job] }
    if issued.job.kind ∈ r.held then { r with aside := r.aside ++ [c] }
    else { r with queue := r.queue ++ [c] }

def start (script : Script) (held : List RequestKind) (reaction : Reaction) : Rehearsal :=
  follow ⟨reaction.1, script, held, [], [], []⟩ reaction

def happen (e : Event) (r : Rehearsal) : Rehearsal := r.follow (r.desk.react e)

/-- Delivers the answers that are queued now, in order. -/
def process (r : Rehearsal) : Rehearsal :=
  r.queue.foldl (fun r c => r.happen (.completion c)) { r with queue := [] }

/-- Delivers queued answers one at a time for as long as any is awaited, at most `steps` of them. -/
def settleWithin : Nat → Rehearsal → Rehearsal
  | 0, r => r
  | steps + 1, r =>
    match r.queue with
    | c :: queue =>
      if r.desk.inflight.hasPending then
        settleWithin steps (happen (.completion c) { r with queue := queue })
      else r
    | [] => r

/-- Delivers queued answers for as long as any is awaited. A delivery issues at most one job, and only a
preview does, so twice the queue is enough. -/
def settle (r : Rehearsal) : Rehearsal := settleWithin (2 * r.queue.length + 2) r

/-- Takes the item at a position out of those that satisfy a test. -/
def takeOut (keep : Completion → Bool) : Nat → List Completion → Option (Completion × List Completion)
  | _, [] => none
  | n, c :: rest =>
    if keep c then
      match n with
      | 0 => some (c, rest)
      | n + 1 => (takeOut keep n rest).map (fun (found, rest) => (found, c :: rest))
    else (takeOut keep n rest).map (fun (found, rest) => (found, c :: rest))

/-- Releases an answer of one kind, counted from the oldest put aside, to the end of the queue; tells whether
there was one. -/
def release (kind : RequestKind) (index : Nat) (r : Rehearsal) : Bool × Rehearsal :=
  match takeOut (fun c => c.token.kind == kind) index r.aside with
  | some (c, aside) => (true, { r with queue := r.queue ++ [c], aside := aside })
  | none => (false, r)

def forgetCalls (r : Rehearsal) : Rehearsal := { r with calls := [] }

end Rehearsal

end ChangeDesk
