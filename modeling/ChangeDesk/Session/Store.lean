import ChangeDesk.Json.Parser
import ChangeDesk.Json.Basic
import ChangeDesk.Settings
import ChangeDesk.Timestamp

/-!
The session store: small JSON texts under feature names, kept from one run to the next, and the file that
holds them. An operation fails as a whole when the table is gone, and reading fails when an entry is no text
or not the text of a value of the wanted kind. The times of attempts are kept under the feature's name with a
suffix of their own.
-/

namespace ChangeDesk

inductive SessionError where
  /-- The table is gone, or an entry is not a text. -/
  | storage
  /-- The entry of this key cannot be read as what is wanted. -/
  | entry (key : String)
deriving DecidableEq, Repr

/-- The start of the wording for an unreadable entry; the reader's own words follow it. -/
def SessionError.entryMessage (key : String) : String := "invalid session entry for '" ++ key ++ "': "

inductive Stored where
  | text (s : String)
  | binary
deriving DecidableEq, Repr

/-- The stored entries, if there is a table to hold them. -/
structure Session where
  table : Option (SortedMap Stored)

namespace Session

def empty : Session := ⟨some .empty⟩

instance : Inhabited Session := ⟨empty⟩

/-- The store whose table is gone. -/
def broken : Session := ⟨none⟩

/-- The store after it is opened anew: a table that is gone is made again, without entries. -/
def reopen (s : Session) : Session := ⟨some (s.table.getD .empty)⟩

def withTable {α : Type} (s : Session) (f : SortedMap Stored → Except SessionError α) :
    Except SessionError α :=
  match s.table with
  | some t => f t
  | none => .error .storage

def text? (s : Session) (key : String) : Except SessionError (Option String) :=
  s.withTable fun t =>
    match t.get? key with
    | none => .ok none
    | some (.text v) => .ok (some v)
    | some .binary => .error .storage

def read {α : Type} (s : Session) (key : String) (reader : String → Option α) :
    Except SessionError (Option α) := do
  match ← s.text? key with
  | none => return none
  | some v =>
    match reader v with
    | some x => return some x
    | none => throw (.entry key)

def get (s : Session) (key : String) : Except SessionError (Option Json) := s.read key Json.parse?

def store (key : String) (v : Stored) (s : Session) : Except SessionError Session :=
  s.withTable fun t => .ok ⟨some (t.insert key v)⟩

def put (key : String) (v : Json) (s : Session) : Except SessionError Session :=
  s.store key (.text v.compact)

/-- Removes the entry of a key, and says whether there was one. -/
def clear (key : String) (s : Session) : Except SessionError (Bool × Session) :=
  s.withTable fun t => .ok (t.contains key, ⟨some (t.erase key)⟩)

/-- Removes all entries, and says how many there were. -/
def clearAll (s : Session) : Except SessionError (Nat × Session) :=
  s.withTable fun t => .ok (t.size, empty)

def Stored.text? : Stored → Option String
  | .text v => some v
  | .binary => none

def entries (s : Session) : Except SessionError (List (String × String)) :=
  s.withTable fun t =>
    match t.entries.mapM (fun (k, v) => (Stored.text? v).map (fun v => (k, v))) with
    | some l => .ok l
    | none => .error .storage

def attemptKey (feature : String) : String := feature ++ ":last-attempt"

def submitFeature : String := "self-service-submit"

def recordAttempt (feature : String) (t : Timestamp) (s : Session) : Except SessionError Session :=
  s.put (attemptKey feature) (.string t.write)

/-- Reads a time from the text of a JSON string. -/
def timestampOfText (text : String) : Option Timestamp :=
  match Json.parse? text with
  | some (.string v) => Timestamp.read? v
  | _ => none

def lastAttempt (s : Session) (feature : String) : Except SessionError (Option Timestamp) :=
  s.read (attemptKey feature) timestampOfText

def clearAttempt (feature : String) (s : Session) : Except SessionError (Bool × Session) :=
  s.clear (attemptKey feature)

end Session

/-!
## The file

The file of the session store: a line that says what it is, and the entries as one JSON text. A file of at
most one byte is a store without entries.
-/

structure SavedEntry where
  value : String
  time : String
deriving DecidableEq, Repr

abbrev SavedSession := SortedMap SavedEntry

namespace SavedSession

/-- The first line of the file. -/
def mark : String := Settings.programName ++ " session store\n"

def entryJson (e : String × SavedEntry) : Json :=
  .array [.string e.1, .string e.2.value, .string e.2.time]

def entry? : Json → Option (String × SavedEntry)
  | .array [.string key, .string value, .string time] => some (key, ⟨value, time⟩)
  | _ => none

def text (s : SavedSession) : String := mark ++ (Json.array (s.entries.map entryJson)).compact

/-- Reads the content of a file; none if it is something else. -/
def ofText? (content : String) : Option SavedSession :=
  if content.utf8ByteSize ≤ 1 then some .empty
  else if mark.toList.isPrefixOf content.toList then
    match Json.parse? (String.ofList (content.toList.drop mark.length)) with
    | some (.array items) => (items.mapM entry?).map .ofList
    | _ => none
  else none

end SavedSession

end ChangeDesk
