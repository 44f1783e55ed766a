import ChangeDesk.Json.Parser
import ChangeDesk.Model
import ChangeDesk.Session.Store

/-!
Reading the text of a session entry as a value of one kind. An integration is read straight from the text:
a member that it does not know is passed over unread, and a member given twice is an error.
-/
namespace ChangeDesk.Session

def byReader {α : Type} (read : Json.Reader α) (text : String) : Option α :=
  match Json.parse? text with
  | some v => (read v).toOption
  | none => none

/-- An integer of 32 bits with its sign. -/
def integer32 : String → Option Int := byReader (Json.Reader.integer (-2147483648) 2147483647 "i32")

def flag : String → Option Bool := byReader Json.Reader.flag

def text : String → Option String := byReader Json.Reader.text

def texts : String → Option (List String) := byReader (Json.Reader.list Json.Reader.text)

/-- The parts of an integration found so far. -/
structure Parts where
  provider : Option String
  subType : Option String

def literalText? (cs : List Char) : Option (String × List Char) :=
  match Json.skipBlanks cs with
  | '"' :: rest => (Json.stringBody? [] rest).map fun (s, rest) => (String.ofList s, rest)
  | _ => none

/-- The value of a member: the two known keys hold texts and may stand once, any other is passed over. -/
def member? (key : String) (parts : Parts) (cs : List Char) : Option (Parts × List Char) :=
  if key = "provider" then
    if parts.provider.isSome then none
    else (literalText? cs).map fun (s, rest) => ({ parts with provider := some s }, rest)
  else if key = "sub_type" then
    if parts.subType.isSome then none
    else (literalText? cs).map fun (s, rest) => ({ parts with subType := some s }, rest)
  else (Json.skipValue? (2 * cs.length + 2) cs).map fun rest => (parts, rest)

/-- The members of an object that are left, and what stands behind it. -/
def members? : Nat → Parts → List Char → Option (Parts × List Char)
  | 0, _, _ => none
  | fuel + 1, parts, cs => do
    let (key, rest) ← literalText? cs
    match Json.skipBlanks rest with
    | ':' :: rest =>
      let (parts, rest) ← member? key parts rest
      match Json.skipBlanks rest with
      | ',' :: rest => members? fuel parts rest
      | '\x7d' :: rest => some (parts, rest)
      | _ => none
    | _ => none

/-- An integration read straight from a text. -/
def integration (text : String) : Option Integration :=
  let cs := text.toList
  match Json.skipBlanks cs with
  | '\x7b' :: rest =>
    let found : Option (Parts × List Char) := match Json.skipBlanks rest with
      | '\x7d' :: rest => some (⟨none, none⟩, rest)
      | rest => members? cs.length ⟨none, none⟩ rest
    match found with
    | some (⟨some provider, subType⟩, rest) =>
      if (Json.skipBlanks rest).isEmpty then some ⟨provider, subType.getD ""⟩ else none
    | _ => none
  | _ => byReader Integration.record.read text

end ChangeDesk.Session
