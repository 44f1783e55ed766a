import ChangeDesk.Diff.Script
import ChangeDesk.Text.Basic

/-!
Line diffs: two texts cut into lines, and their script of changes as a list of lines to be shown. A line keeps
its terminator: a carriage return and line feed together, a line feed, or a carriage return alone. What
follows the last terminator is a last line, unless it is empty. Joining the lines gives the text back.
-/

namespace ChangeDesk.Diff

/-- The lines of a text. `acc` holds the start of the current line, last character first. -/
def splitLinesAux (acc : List Char) : List Char → List (List Char)
  | [] => if acc.isEmpty then [] else [acc.reverse]
  | '\r' :: '\n' :: rest => ('\n' :: '\r' :: acc).reverse :: splitLinesAux [] rest
  | c :: rest =>
    if c = '\n' ∨ c = '\r' then (c :: acc).reverse :: splitLinesAux [] rest
    else splitLinesAux (c :: acc) rest

/-- The lines of a text with their terminators. -/
def splitLines (s : String) : List String := (splitLinesAux [] s.toList).map String.ofList

/-- A line without line feeds and carriage returns at its end. -/
def lineText (line : String) : String := Text.trimEnd (fun c => c = '\n' ∨ c = '\r') line

theorem flatten_splitLinesAux (acc cs : List Char) :
    (splitLinesAux acc cs).flatten = acc.reverse ++ cs := by
  fun_induction splitLinesAux acc cs <;> simp_all

end ChangeDesk.Diff

/-!
## Unified diffs

The unified line diff of two texts. Between two kept lines all removed lines come before all added ones, and
every line carries its number, counted from one, on the sides on which it stands.
-/

namespace ChangeDesk

/-- One line of a unified diff with its numbers in the old and the new text. -/
inductive DiffLine where
  | context (oldLine newLine : Nat) (text : String)
  | removed (oldLine : Nat) (text : String)
  | added (newLine : Nat) (text : String)
deriving DecidableEq, Repr

namespace DiffLine

def oldLine? : DiffLine → Option Nat
  | context i _ _ => some i
  | removed i _ => some i
  | added _ _ => none

def newLine? : DiffLine → Option Nat
  | context _ j _ => some j
  | removed _ _ => none
  | added j _ => some j

/-- The line without its terminator. -/
def text : DiffLine → String
  | context _ _ t => t
  | removed _ t => t
  | added _ t => t

def marker : DiffLine → Char
  | context _ _ _ => ' '
  | removed _ _ => '-'
  | added _ _ => '+'

def isAdded : DiffLine → Bool
  | added _ _ => true
  | _ => false

def isRemoved : DiffLine → Bool
  | removed _ _ => true
  | _ => false

end DiffLine

namespace Diff

/-- Removed lines from number `i` on and added lines from number `j` on. -/
def changedLines (i j : Nat) (removed added : List String) : List DiffLine :=
  removed.zipIdx.map (fun (l, n) => .removed (i + n + 1) (lineText l)) ++
    added.zipIdx.map (fun (l, n) => .added (j + n + 1) (lineText l))

/-- Kept lines after `i` old and `j` new ones. -/
def keptLines (i j : Nat) (kept : List String) : List DiffLine :=
  kept.zipIdx.map (fun (l, n) => .context (i + n + 1) (j + n + 1) (lineText l))

/-- The lines of a script after `i` old and `j` new lines. `removed` and `added` are the lines changed since
the last kept one; they are listed when the next kept line or the end is reached. -/
def listLines (i j : Nat) (removed added : List String) : Script String → List DiffLine
  | [] => changedLines i j removed added
  | .keep l :: rest =>
    let i' := i + removed.length
    let j' := j + added.length
    changedLines i j removed added ++ keptLines i' j' l ++
      listLines (i' + l.length) (j' + l.length) [] [] rest
  | .remove l :: rest => listLines i j (removed ++ l) added rest
  | .add l :: rest => listLines i j removed (added ++ l) rest

def lines (previous current : String) : List DiffLine :=
  listLines 0 0 [] [] (compact (script (splitLines previous) (splitLines current)))

def addedCount (ls : List DiffLine) : Nat := ls.countP DiffLine.isAdded

def removedCount (ls : List DiffLine) : Nat := ls.countP DiffLine.isRemoved

end Diff

end ChangeDesk
