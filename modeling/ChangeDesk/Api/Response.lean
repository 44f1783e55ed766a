import ChangeDesk.Json.Basic
import ChangeDesk.Json.Parser
import ChangeDesk.Text.Basic

/-!
The answers of the backend: why a call fails, the message that an error body carries, and what a status and a
body mean.
-/

namespace ChangeDesk

inductive ApiError where
  /-- No answer within this many seconds. -/
  | timeout (seconds : Nat)
  /-- The backend could not be reached. -/
  | transport (reason : String)
  | sessionExpired
  /-- The backend refused; its own wording is shown. -/
  | rejected (status : Nat) (message : String)
  /-- The answer does not have the expected form. -/
  | decode (reason : String)
  /-- The client's own settings cannot be used. -/
  | config (reason : String)
deriving DecidableEq, Repr

namespace ApiError

def message : ApiError → String
  | .timeout seconds => "The request timed out after " ++ String.ofList (decimalDigits seconds) ++ "s"
  | .transport reason => "Could not reach the Noq API: " ++ reason
  | .sessionExpired => "Your session has expired. Run `noq-request auth` to sign in again"
  | .rejected _ message => message
  | .decode reason => "Unexpected response from the Noq API: " ++ reason
  | .config reason => "Invalid client configuration: " ++ reason

end ApiError

end ChangeDesk

/-!
## Messages

The message that a backend's error body carries: the first text that is not blank, in depth-first order,
through the items of arrays and through the members `message`, `error` and `data` of objects. Nothing is found
below the eighth step.
-/

namespace ChangeDesk.Api

/-- How many steps below the body a message may stand. -/
def messageDepth : Nat := 8

/-- The members through which a message is looked for, in this order. -/
def messageKeys : List String := ["message", "error", "data"]

/-- The values one step below a value, in the order in which they are looked at. -/
def children : Json → List Json
  | .array items => items
  | .object members => messageKeys.filterMap (fun key => members.lookup key)
  | _ => []

/-- The first message at most `steps` steps below a value. -/
def messageWithin? : Nat → Json → Option String
  | _, .string s => if Text.isBlank s then none else some s
  | 0, _ => none
  | steps + 1, v => (children v).findSome? (messageWithin? steps)

def extractMessage (body : Json) : Option String := messageWithin? messageDepth body

/-!
## Payloads

What a status and a body mean: a payload, taken out of its `data` envelope, or an error. Status 401 always
means that the session has expired.
-/

/-- Wording for a refusal by a broken backend that gives none. -/
def genericFailure : String := "Something went wrong"

/-- The value of a body; a blank body is `null`. -/
def bodyValue? (body : String) : Option Json :=
  if Text.isBlank body then some .null else Json.parse? body

/-- The payload inside an envelope, or the value itself when there is none. -/
def unwrapEnvelope (v : Json) : Json := (v.member? "data").getD v

/-- The wording of a refusal without a message of its own. -/
def refusalText (status : Nat) : String :=
  if 500 ≤ status then genericFailure
  else "Request failed with status " ++ String.ofList (decimalDigits status)

/-- The payload of a response, or why there is none. -/
def interpret (status : Nat) (body : String) : Except ApiError Json :=
  if status = 401 then .error .sessionExpired
  else if 200 ≤ status ∧ status < 300 then
    match bodyValue? body with
    | some v => .ok (unwrapEnvelope v)
    | none => .error (.decode "body is not JSON")
  else
    .error (.rejected status (((bodyValue? body).bind extractMessage).getD (refusalText status)))

end ChangeDesk.Api
