import ChangeDesk.Api.Response
import ChangeDesk.Desk.Job
import ChangeDesk.Http.Exchange
import ChangeDesk.Settings

/-!
The calls that the backend answers, as requests to addresses below the one that is set. A call says what is
sent and how the payload of the response is read.
-/
namespace ChangeDesk

open Json (Reader Record)

structure Call (α : Type) where
  /-- The place below the common part of all addresses. -/
  path : String
  parameters : List (String × String)
  /-- What is sent along; calls that only ask send nothing. -/
  body : Option Json
  read : Reader α

namespace Call

def providers : Call (List Integration) :=
  ⟨"/providers", [], none, Reader.list Integration.record.read⟩

def definition (s : Integration) : Call Template :=
  ⟨"/providers/definitions", [("provider", s.provider), ("template_id", s.subType)], none,
    Template.record.read⟩

def queryPairs (q : Query) : List (String × String) :=
  [("provider", q.provider), ("template_id", q.templateId), ("field", q.field), ("prefix", q.start)]

/-- Completions for the start of a value. -/
def typeahead (q : Query) : Call (List Suggestion) :=
  ⟨"/self-service/typeahead", queryPairs q, none, Reader.list Suggestion.record.read⟩

/-- The record around the files of a preview; without the member there are none. -/
def previewRecord : Record (List ChangedFile) :=
  ⟨"PreviewResponse", _, .field "files" (Reader.list ChangedFile.record.read) (some []) .done, id⟩

def preview (r : ChangeRequest) : Call (List ChangedFile) :=
  ⟨"/self-service/requests/validate", [], some r.toJson, previewRecord.read⟩

def submit (r : ChangeRequest) : Call Receipt :=
  ⟨"/self-service/requests", [], some r.toJson, Receipt.record.read⟩

end Call

/-- The way to a backend. Its headers are sent with every call. -/
structure Gateway where
  address : String
  headers : List (String × String)
  timeoutSeconds : Nat
deriving DecidableEq, Repr

namespace Gateway

/-- The part that all addresses of the backend share. -/
def commonPath : String := "/api/v4"

/-- A header made of a secret of this name, unless its value cannot be one. -/
def secretHeader? (secret header value : String) : Except ApiError (String × String) :=
  if Http.isHeaderValue value then .ok (header, value)
  else .error (.config (secret ++ ": failed to parse header value"))

/-- A gateway with its credentials. The token is looked at first. -/
def withSecrets (address : String) (token csrfToken : Option String) (timeoutSeconds : Nat) :
    Except ApiError Gateway := do
  let bearer ← token.mapM fun t => secretHeader? "token" "authorization" ("Bearer " ++ t)
  let csrf ← csrfToken.mapM fun t => secretHeader? "csrf token" "x-xsrf-token" t
  return ⟨address, ("accept", "application/json") :: (bearer.toList ++ csrf.toList), timeoutSeconds⟩

def ofSettings (s : Settings) : Except ApiError Gateway :=
  withSecrets s.apiUrl s.token s.csrfToken s.timeoutSeconds.toNat

def unusableAddress (u : Http.Url) : ApiError :=
  .transport ("builder error for url (" ++ u.text ++ ")")

def url {α : Type} (g : Gateway) (c : Call α) : Except ApiError Http.Url :=
  match Http.Url.parse? (g.address ++ commonPath ++ c.path) with
  | none => .error (.transport "builder error")
  | some u =>
    if !u.hasHost then .error (unusableAddress u)
    else
      let u := if c.body.isNone then u.withPairs c.parameters else u
      if u.isSendable then .ok u else .error (unusableAddress u)

def request {α : Type} (g : Gateway) (c : Call α) : Except ApiError Http.Request := do
  let url ← g.url c
  match c.body with
  | none => return ⟨.get, url, g.headers, ""⟩
  | some body => return ⟨.post, url, g.headers ++ [("content-type", "application/json")], body.compact⟩

/-- What a reply to a call means. -/
def outcome {α : Type} (g : Gateway) (c : Call α) (url : Http.Url) (reply : Http.Reply) : Outcome α :=
  let unsent : ApiError := .transport ("error sending request for url (" ++ url.text ++ ")")
  match reply with
  | .refused => .error unsent
  | .silence => .error (.timeout g.timeoutSeconds)
  | .bytes received =>
    match Http.Response.ofBytes received with
    | .error .head => .error unsent
    | .error .body => .error (.transport "error decoding response body")
    | .ok response => do
      let payload ← Api.interpret response.status response.body
      match c.read payload with
      | .ok x => return x
      | .error mismatch => throw (.decode mismatch.message)

def call {α : Type} (g : Gateway) (net : Http.Network) (c : Call α) : Outcome α := do
  let request ← g.request c
  g.outcome c request.url (net request)

/-- The backend at the other end of a gateway. -/
def backend (g : Gateway) (net : Http.Network) : Backend where
  providers := g.call net .providers
  definition s := g.call net (.definition s)
  typeahead q := g.call net (.typeahead q)
  preview r := g.call net (.preview r)
  submit r := g.call net (.submit r)

end Gateway

end ChangeDesk
