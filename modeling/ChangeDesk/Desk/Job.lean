import ChangeDesk.Api.Response
import ChangeDesk.Inflight
import ChangeDesk.Model

/-!
What the desk asks of a backend and what comes back. A job is issued under a token; its completion carries
the same token and the answer. Answers to lookups and previews also say what they answer.
-/
namespace ChangeDesk

/-- A lookup of completions for the start of a field's value. -/
structure Query where
  provider : String
  templateId : String
  field : String
  start : String
deriving DecidableEq, Repr

/-- Something asked of the backend. A preview carries the fingerprint of the values it is made for. -/
inductive Job where
  | providers
  | definition (selection : Integration)
  | typeahead (query : Query)
  | preview (fingerprint : String) (request : ChangeRequest)
  | submit (request : ChangeRequest)

def Job.kind : Job → RequestKind
  | providers => .providers
  | definition _ => .definition
  | typeahead _ => .typeahead
  | preview _ _ => .preview
  | submit _ => .submit

abbrev Outcome (α : Type) := Except ApiError α

inductive Answer where
  | providers (outcome : Outcome (List Integration))
  | definition (outcome : Outcome Template)
  | typeahead (field : String) (outcome : Outcome (List Suggestion))
  | preview (fingerprint : String) (outcome : Outcome (List ChangedFile))
  | submit (outcome : Outcome Receipt)

def Answer.kind : Answer → RequestKind
  | providers _ => .providers
  | definition _ => .definition
  | typeahead _ _ => .typeahead
  | preview _ _ => .preview
  | submit _ => .submit

structure Issued where
  token : Token
  job : Job

structure Completion where
  token : Token
  answer : Answer

structure Backend where
  providers : Outcome (List Integration)
  definition : Integration → Outcome Template
  typeahead : Query → Outcome (List Suggestion)
  preview : ChangeRequest → Outcome (List ChangedFile)
  submit : ChangeRequest → Outcome Receipt

namespace Backend

def answer (b : Backend) : Job → Answer
  | .providers => .providers b.providers
  | .definition s => .definition (b.definition s)
  | .typeahead q => .typeahead q.field (b.typeahead q)
  | .preview fingerprint request => .preview fingerprint (b.preview request)
  | .submit request => .submit (b.submit request)

def complete (b : Backend) (i : Issued) : Completion := ⟨i.token, b.answer i.job⟩

theorem kind_answer (b : Backend) (j : Job) : (b.answer j).kind = j.kind := by
  cases j <;> rfl

end Backend

end ChangeDesk
