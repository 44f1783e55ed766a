import ChangeDesk.Diff
import ChangeDesk.Model

/-!
The editor of one changed file: a buffer that starts as the file's body, and a cursor in it, counted in
bytes. Edits stay in the buffer until they are confirmed, which yields the file with its new body and its
number of added lines. A read-only editor moves its cursor but keeps its buffer and confirms nothing.
-/
namespace ChangeDesk

/-- An open file, the buffer and the cursor's byte offset in it. -/
structure Editor where
  /-- The file as last confirmed. -/
  file : ChangedFile
  readOnly : Bool
  buffer : String
  cursor : Nat
deriving DecidableEq, Repr

namespace Editor

def byteLength (cs : List Char) : Nat := cs.foldr (fun c n => c.utf8Size + n) 0

/-- Cuts characters at a byte offset, or at the last place before it that is between two characters. -/
def cutBytes : Nat → List Char → List Char × List Char
  | _, [] => ([], [])
  | n, c :: rest =>
    if c.utf8Size ≤ n then
      let r := cutBytes (n - c.utf8Size) rest
      (c :: r.1, r.2)
    else ([], c :: rest)

def openFile (file : ChangedFile) (readOnly : Bool) : Editor := ⟨file, readOnly, file.body, 0⟩

def before (e : Editor) : List Char := (cutBytes e.cursor e.buffer.toList).1

def after (e : Editor) : List Char := (cutBytes e.cursor e.buffer.toList).2

def hasChanged (e : Editor) : Bool := e.buffer != e.file.body

def diff (e : Editor) : List DiffLine := Diff.lines e.file.previousBody e.buffer

/-- The file with the buffer as its body, counting the lines that the buffer adds. -/
def confirmed (e : Editor) : ChangedFile :=
  { e.file with body := e.buffer, additions := UInt32.ofNat (Diff.addedCount e.diff) }

/-- Confirms the buffer; a read-only editor has nothing to confirm. -/
def confirm (e : Editor) : Option ChangedFile × Editor :=
  if e.readOnly then (none, e) else (some e.confirmed, { e with file := e.confirmed })

/-- Brings back the body last confirmed. The cursor stays where it is or moves back into the text. -/
def revert (e : Editor) : Editor :=
  { e with
    buffer := e.file.body
    cursor := byteLength (cutBytes e.cursor e.file.body.toList).1 }

/-- Replaces the whole buffer and puts the cursor at its end. -/
def setBuffer (text : String) (e : Editor) : Editor :=
  if e.readOnly then e else { e with buffer := text, cursor := byteLength text.toList }

def entered (c : Char) (e : Editor) : String :=
  -- the same text either way, but a long buffer is not taken apart to type at its end
  if e.cursor = e.buffer.utf8ByteSize then e.buffer.push c
  else String.ofList (e.before ++ c :: e.after)

def insert (c : Char) (e : Editor) : Editor :=
  if e.readOnly then e else { e with buffer := e.entered c, cursor := e.cursor + c.utf8Size }

def newline (e : Editor) : Editor := e.insert '\n'

def backspace (e : Editor) : Editor :=
  if e.readOnly then e
  else match e.before.getLast? with
    | some c =>
      { e with
        buffer := String.ofList (e.before.dropLast ++ e.after)
        cursor := e.cursor - c.utf8Size }
    | none => e

def delete (e : Editor) : Editor :=
  if e.readOnly then e
  else { e with buffer := String.ofList (e.before ++ e.after.drop 1) }

def left (e : Editor) : Editor :=
  match e.before.getLast? with
  | some c => { e with cursor := e.cursor - c.utf8Size }
  | none => e

def right (e : Editor) : Editor :=
  match e.after.head? with
  | some c => { e with cursor := e.cursor + c.utf8Size }
  | none => e

/-- The characters between the last line feed before the cursor and the cursor. -/
def lineBefore (e : Editor) : List Char := (e.before.reverse.takeWhile (· ≠ '\n')).reverse

def lineAfter (e : Editor) : List Char := e.after.takeWhile (· ≠ '\n')

def home (e : Editor) : Editor := { e with cursor := e.cursor - byteLength e.lineBefore }

/-- Moves the cursor to the end of its line. -/
def stop (e : Editor) : Editor := { e with cursor := e.cursor + byteLength e.lineAfter }

/-- The cursor's row and its column in characters, both from zero. -/
def position (e : Editor) : Nat × Nat := (e.before.count '\n', e.lineBefore.length)

/-- The pieces of a text that end with each line feed, and what is left behind the last one. -/
def pieces : List Char → List (List Char)
  | [] => [[]]
  | c :: rest =>
    match pieces rest with
    | [] => [[c]]
    | p :: ps => if c = '\n' then [c] :: p :: ps else (c :: p) :: ps

def lines (e : Editor) : List (List Char) :=
  (pieces e.buffer.toList).map (fun p => p.filter (· ≠ '\n'))

/-- The byte offset of a row and a column; a column beyond the end of its row stands for that end. -/
def offsetOf (e : Editor) (row column : Nat) : Nat :=
  let ps := pieces e.buffer.toList
  let line := ((ps.drop row).headD []).filter (· ≠ '\n')
  byteLength (ps.take row).flatten + byteLength (line.take column)

def up (e : Editor) : Editor :=
  let (row, column) := e.position
  if 0 < row then { e with cursor := e.offsetOf (row - 1) column } else e

def down (e : Editor) : Editor :=
  let (row, column) := e.position
  if row < e.buffer.toList.count '\n' then { e with cursor := e.offsetOf (row + 1) column } else e

inductive Action where
  | insert (c : Char)
  | newline
  | backspace
  | delete
  | left
  | right
  | home
  | stop
  | up
  | down
  | setBuffer (text : String)
  | revert
  | confirm
deriving DecidableEq, Repr

def act (e : Editor) : Action → Editor
  | .insert c => e.insert c
  | .newline => e.newline
  | .backspace => e.backspace
  | .delete => e.delete
  | .left => e.left
  | .right => e.right
  | .home => e.home
  | .stop => e.stop
  | .up => e.up
  | .down => e.down
  | .setBuffer text => e.setBuffer text
  | .revert => e.revert
  | .confirm => e.confirm.2

def run (e : Editor) (actions : List Action) : Editor := actions.foldl act e

end Editor

end ChangeDesk
