import ChangeDesk.Proofs.Editor.Cursor
import Mathlib.Data.Nat.Find

/-!
The editor as two lists of characters, those before the cursor and those behind it. Every operation of the
editor acts on its buffer and its byte offset as it acts on these two lists, so that whole runs agree.
-/
namespace ChangeDesk

/-- The characters on the two sides of the cursor, and the body last confirmed. -/
structure TwoLists where
  before : List Char
  after : List Char
  confirmed : List Char
  readOnly : Bool
deriving DecidableEq, Repr

namespace TwoLists

open Editor (inRow rowsBefore)

def openFile (file : ChangedFile) (readOnly : Bool) : TwoLists :=
  ⟨[], file.body.toList, file.body.toList, readOnly⟩

def column (s : TwoLists) : Nat := (s.before.rtakeWhile inRow).length

def insert (c : Char) (s : TwoLists) : TwoLists :=
  if s.readOnly then s else { s with before := s.before ++ [c] }

def backspace (s : TwoLists) : TwoLists :=
  if s.readOnly then s else { s with before := s.before.dropLast }

def delete (s : TwoLists) : TwoLists :=
  if s.readOnly then s else { s with after := s.after.tail }

def left (s : TwoLists) : TwoLists :=
  match s.before.getLast? with
  | some c => { s with before := s.before.dropLast, after := c :: s.after }
  | none => s

def right (s : TwoLists) : TwoLists :=
  match s.after with
  | c :: after => { s with before := s.before ++ [c], after := after }
  | [] => s

/-- Shifts everything back to the nearest line feed before the cursor. -/
def home (s : TwoLists) : TwoLists :=
  { s with before := s.before.rdropWhile inRow, after := s.before.rtakeWhile inRow ++ s.after }

def stop (s : TwoLists) : TwoLists :=
  { s with before := s.before ++ s.after.takeWhile inRow, after := s.after.dropWhile inRow }

/-- Goes to the same column of the row above, or to its end if it is shorter; the first row stays. -/
def up (s : TwoLists) : TwoLists :=
  if '\n' ∈ s.before then
    let above := rowsBefore s.before
    let row := above.rtakeWhile inRow
    { s with
      before := above.rdropWhile inRow ++ row.take s.column
      after := row.drop s.column ++ '\n' :: s.before.rtakeWhile inRow ++ s.after }
  else s

def down (s : TwoLists) : TwoLists :=
  match s.after.dropWhile inRow with
  | feed :: below =>
    { s with
      before := s.before ++ s.after.takeWhile inRow ++ feed :: (below.takeWhile inRow).take s.column
      after := (below.takeWhile inRow).drop s.column ++ below.dropWhile inRow }
  | [] => s

def setBuffer (text : String) (s : TwoLists) : TwoLists :=
  if s.readOnly then s else { s with before := text.toList, after := [] }

/-- How many characters the longest beginning of at most `n` bytes has. -/
def within (n : Nat) (cs : List Char) : Nat :=
  Nat.findGreatest (fun k => Editor.byteLength (cs.take k) ≤ n) cs.length

/-- Brings back the confirmed body; before the cursor there is as much of it as there were bytes. -/
def revert (s : TwoLists) : TwoLists :=
  let k := within (Editor.byteLength s.before) s.confirmed
  { s with before := s.confirmed.take k, after := s.confirmed.drop k }

def confirm (s : TwoLists) : TwoLists :=
  if s.readOnly then s else { s with confirmed := s.before ++ s.after }

def act (s : TwoLists) : Editor.Action → TwoLists
  | .insert c => s.insert c
  | .newline => s.insert '\n'
  | .backspace => s.backspace
  | .delete => s.delete
  | .left => s.left
  | .right => s.right
  | .home => s.home
  | .stop => s.stop
  | .up => s.up
  | .down => s.down
  | .setBuffer text => s.setBuffer text
  | .revert => s.revert
  | .confirm => s.confirm

def run (s : TwoLists) (actions : List Editor.Action) : TwoLists := actions.foldl act s

end TwoLists

namespace Editor

variable {e : Editor} {s : TwoLists}

theorem cutBytes_eq (n : Nat) (cs : List Char) :
    cutBytes n cs = (cs.take (TwoLists.within n cs), cs.drop (TwoLists.within n cs)) := by
  obtain ⟨hparts, hlength, hnext⟩ := cutBytes_spec n cs
  generalize cutBytes n cs = cut at hparts hlength hnext ⊢
  obtain ⟨b, a⟩ := cut
  subst hparts
  have hwithin : TwoLists.within n (b ++ a) = b.length := by
    refine Nat.findGreatest_eq_iff.2 ⟨by simp, fun _ => by simpa using hlength, ?_⟩
    intro k hlt hle hfits
    obtain ⟨m, rfl⟩ := Nat.exists_eq_add_of_lt hlt
    cases a with
    | nil =>
      rw [List.append_nil] at hle
      omega
    | cons c rest =>
      have hover : n < byteLength b + c.utf8Size := hnext c rest rfl
      rw [Nat.add_assoc, List.take_length_add_append, List.take_succ_cons, byteLength_append,
        byteLength_cons] at hfits
      omega
  rw [hwithin, List.take_left, List.drop_left]

/-- An editor has the two lists before and behind its cursor, and the same confirmed body. -/
structure Represents (e : Editor) (s : TwoLists) : Prop where
  place : e.At s.before s.after
  confirmed : e.file.body.toList = s.confirmed
  readOnly : e.readOnly = s.readOnly

theorem represents_openFile (file : ChangedFile) (readOnly : Bool) :
    Represents (openFile file readOnly) (.openFile file readOnly) :=
  ⟨⟨rfl, rfl⟩, rfl, rfl⟩

namespace Represents

/-- Where else the cursor goes in the same text. -/
theorem move (h : Represents e s) {b a : List Char} (ht : b ++ a = s.before ++ s.after) {n : Nat}
    (hn : n = byteLength b) : Represents { e with cursor := n } { s with before := b, after := a } :=
  ⟨⟨h.place.text.trans ht.symm, hn⟩, h.confirmed, h.readOnly⟩

/-- What a read-only editor ignores, its two lists ignore as well. -/
theorem unlessReadOnly (h : Represents e s) {e' : Editor} {s' : TwoLists} (h' : Represents e' s') :
    Represents (if e.readOnly then e else e') (if s.readOnly then s else s') := by
  rw [h.readOnly]
  split
  · exact h
  · exact h'

theorem insert (h : Represents e s) (c : Char) : Represents (e.insert c) (s.insert c) := by
  refine h.unlessReadOnly ⟨⟨?_, ?_⟩, h.confirmed, h.readOnly⟩
  · simp [entered_eq, h.place.before_eq, h.place.after_eq]
  · simp [h.place.cursor]

theorem backspace (h : Represents e s) : Represents e.backspace s.backspace := by
  refine h.unlessReadOnly ?_
  rw [h.place.before_eq, h.place.after_eq]
  cases hlast : s.before.getLast? with
  | none =>
    have hnil : s.before.dropLast = s.before := by rw [List.getLast?_eq_none_iff.1 hlast]; rfl
    rw [hnil]
    exact h
  | some c =>
    obtain ⟨before, hbefore⟩ := List.getLast?_eq_some_iff.1 hlast
    have hcursor := h.place.cursor
    rw [hbefore] at hcursor ⊢
    refine ⟨⟨?_, ?_⟩, h.confirmed, h.readOnly⟩
    · simp
    · simp [hcursor]

theorem delete (h : Represents e s) : Represents e.delete s.delete := by
  refine h.unlessReadOnly ⟨⟨?_, h.place.cursor⟩, h.confirmed, h.readOnly⟩
  simp [h.place.before_eq, h.place.after_eq]

theorem left (h : Represents e s) : Represents e.left s.left := by
  unfold Editor.left TwoLists.left
  rw [h.place.before_eq]
  cases hlast : s.before.getLast? with
  | none => exact h
  | some c =>
    obtain ⟨before, hbefore⟩ := List.getLast?_eq_some_iff.1 hlast
    refine h.move ?_ ?_
    · simp [hbefore]
    · simp [h.place.cursor, hbefore]

theorem right (h : Represents e s) : Represents e.right s.right := by
  unfold Editor.right TwoLists.right
  rw [h.place.after_eq]
  cases hafter : s.after with
  | nil => exact h
  | cons c after =>
    refine h.move ?_ ?_
    · simp [hafter]
    · simp [h.place.cursor]

theorem lineBefore_eq (h : Represents e s) : e.lineBefore = s.before.rtakeWhile inRow := by
  rw [lineBefore, h.place.before_eq]
  rfl

theorem lineAfter_eq (h : Represents e s) : e.lineAfter = s.after.takeWhile inRow := by
  rw [lineAfter, h.place.after_eq]
  rfl

theorem home (h : Represents e s) : Represents e.home s.home := by
  refine h.move ?_ ?_
  · rw [← List.append_assoc, List.rdropWhile_append_rtakeWhile]
  · have hlength := congrArg byteLength (List.rdropWhile_append_rtakeWhile (p := inRow) (l := s.before))
    rw [byteLength_append] at hlength
    rw [h.place.cursor, h.lineBefore_eq]
    omega

theorem stop (h : Represents e s) : Represents e.stop s.stop := by
  refine h.move ?_ ?_
  · rw [List.append_assoc, List.takeWhile_append_dropWhile]
  · rw [h.place.cursor, h.lineAfter_eq, byteLength_append]

theorem position_eq (h : Represents e s) : e.position = (s.before.count '\n', s.column) := by
  rw [position, h.place.before_eq, h.lineBefore_eq]
  rfl

theorem up (h : Represents e s) : Represents e.up s.up := by
  simp only [Editor.up, h.position_eq, TwoLists.up, List.count_pos_iff]
  split
  · rename_i hmem
    -- The text from the row above on: that row, its line feed, the open row, and what is behind the cursor.
    have htext : (rowsBefore s.before).rdropWhile inRow ++ ((rowsBefore s.before).rtakeWhile inRow ++
        '\n' :: (s.before.rtakeWhile inRow ++ s.after)) = s.before ++ s.after := by
      rw [← List.append_assoc, List.rdropWhile_append_rtakeWhile, ← List.cons_append, ← List.append_assoc,
        rowsBefore_append hmem]
    refine h.move ?_ ?_
    · rw [← htext]
      simp only [List.append_assoc, List.cons_append]
      rw [← List.append_assoc (List.take _ _), List.take_append_drop]
    · rw [count_of_mem hmem, Nat.add_sub_cancel,
        offsetOf_eq (h.place.text.trans htext.symm) (ended_rdropWhile _), takeWhile_row]
  · exact h

theorem down (h : Represents e s) : Represents e.down s.down := by
  simp only [Editor.down, h.position_eq, TwoLists.down, h.place.text, List.count_append]
  have hrow := List.takeWhile_append_dropWhile (p := inRow) (l := s.after)
  cases hbelow : s.after.dropWhile inRow with
  | nil =>
    rw [hbelow, List.append_nil] at hrow
    rw [if_neg]
    · exact h
    · rw [← hrow, count_takeWhile]
      omega
  | cons feed below =>
    obtain rfl := eq_feed_of_dropWhile hbelow
    rw [hbelow] at hrow
    -- What stands before the row below: everything before the cursor, and the open row with its line feed.
    have hended : Ended (s.before ++ s.after.takeWhile inRow ++ ['\n']) := by
      intro c hc
      simpa [eq_comm] using hc
    have htext : (s.before ++ s.after.takeWhile inRow ++ ['\n']) ++ below = s.before ++ s.after := by
      rw [List.append_assoc, List.append_assoc, List.singleton_append, hrow]
    have hcount : (s.before ++ s.after.takeWhile inRow ++ ['\n']).count '\n' =
        s.before.count '\n' + 1 := by
      simp [count_takeWhile]
    rw [if_pos]
    · refine h.move ?_ ?_
      · rw [← htext]
        simp only [List.append_assoc, List.cons_append]
        rw [← List.append_assoc (List.take _ _), List.take_append_drop, List.takeWhile_append_dropWhile]
        simp
      · rw [← hcount, offsetOf_eq (h.place.text.trans htext.symm) hended]
        simp
    · rw [← hrow, List.count_append, List.count_cons_self]
      omega

theorem setBuffer (h : Represents e s) (text : String) :
    Represents (e.setBuffer text) (s.setBuffer text) :=
  h.unlessReadOnly ⟨⟨(List.append_nil _).symm, rfl⟩, h.confirmed, h.readOnly⟩

theorem revert (h : Represents e s) : Represents e.revert s.revert := by
  refine ⟨⟨?_, ?_⟩, h.confirmed, h.readOnly⟩
  · simp [Editor.revert, TwoLists.revert, h.confirmed]
  · simp [Editor.revert, TwoLists.revert, h.confirmed, h.place.cursor, cutBytes_eq]

theorem confirm (h : Represents e s) : Represents e.confirm.2 s.confirm := by
  have hconfirm : e.confirm.2 = if e.readOnly then e else { e with file := e.confirmed } := by
    unfold Editor.confirm
    split <;> rfl
  rw [hconfirm]
  exact h.unlessReadOnly ⟨⟨h.place.text, h.place.cursor⟩, h.place.text, h.readOnly⟩

end Represents

/-- Every action on an editor acts the same way on its two lists. -/
theorem act_represents (h : Represents e s) (a : Action) : Represents (e.act a) (s.act a) := by
  cases a with
  | insert c => exact h.insert c
  | newline => exact h.insert '\n'
  | backspace => exact h.backspace
  | delete => exact h.delete
  | left => exact h.left
  | right => exact h.right
  | home => exact h.home
  | stop => exact h.stop
  | up => exact h.up
  | down => exact h.down
  | setBuffer text => exact h.setBuffer text
  | revert => exact h.revert
  | confirm => exact h.confirm

theorem represents_run (h : Represents e s) (actions : List Action) :
    Represents (e.run actions) (s.run actions) := by
  induction actions generalizing e s with
  | nil => exact h
  | cons a rest ih => exact ih (act_represents h a)

end Editor

end ChangeDesk
