import ChangeDesk.Proofs.Editor.TwoLists
import Mathlib.Algebra.GroupWithZero.Nat

/-!
The editor in terms of byte offsets alone. Every operation is made of searches, sums of lengths, and slices,
insertions and removals at offsets; these fail at an offset that is not between two characters. From a file
just opened no action fails, and each does what the same action does with the characters.
-/
namespace ChangeDesk.Editor

namespace Bytes

/-- Cuts a text at an offset; fails unless the offset is the length of a beginning of the text. -/
def split? : Nat → List Char → Option (List Char × List Char)
  | 0, cs => some ([], cs)
  | _ + 1, [] => none
  | n + 1, c :: cs =>
    if c.utf8Size ≤ n + 1 then
      (split? (n + 1 - c.utf8Size) cs).map (fun parts => (c :: parts.1, parts.2))
    else none

def sliceTo? (n : Nat) (cs : List Char) : Option (List Char) := (split? n cs).map Prod.fst

def sliceFrom? (n : Nat) (cs : List Char) : Option (List Char) := (split? n cs).map Prod.snd

/-- The characters between two offsets; fails if they are not in order. -/
def slice? (i j : Nat) (cs : List Char) : Option (List Char) :=
  if i ≤ j then (sliceTo? j cs).bind (sliceFrom? i) else none

def insert? (n : Nat) (c : Char) (cs : List Char) : Option (List Char) :=
  (split? n cs).map (fun parts => parts.1 ++ c :: parts.2)

def remove? (n : Nat) (cs : List Char) : Option (List Char) :=
  match split? n cs with
  | some (b, _ :: a) => some (b ++ a)
  | _ => none

/-- The offset of the first line feed. -/
def find? : List Char → Option Nat
  | [] => none
  | c :: cs => if c = '\n' then some 0 else (find? cs).map (c.utf8Size + ·)

/-- The offset of the last line feed. -/
def findLast? : List Char → Option Nat
  | [] => none
  | c :: cs =>
    match findLast? cs with
    | some i => some (c.utf8Size + i)
    | none => if c = '\n' then some 0 else none

/-- The pieces of a text, each of which ends with a line feed or is the last one; none is empty. -/
def rows : List Char → List (List Char)
  | [] => []
  | c :: cs =>
    if c = '\n' then [c] :: rows cs
    else match rows cs with
      | [] => [[c]]
      | p :: ps => (c :: p) :: ps

/-- The largest offset up to `n` at which a text can be cut. -/
def floor (cs : List Char) : Nat → Nat
  | 0 => 0
  | n + 1 => if (split? (n + 1) cs).isSome then n + 1 else floor cs n

variable {b a cs : List Char} {n : Nat}

theorem split?_byteLength (b a : List Char) : split? (byteLength b) (b ++ a) = some (b, a) := by
  induction b with
  | nil => rw [byteLength_nil, List.nil_append, split?]
  | cons c b ih =>
    obtain ⟨k, hk⟩ := Nat.exists_eq_add_one.2 c.utf8Size_pos
    have hlength : byteLength (c :: b) = (k + byteLength b) + 1 := by
      rw [byteLength_cons, hk]
      omega
    have hrest : k + byteLength b + 1 - c.utf8Size = byteLength b := by omega
    rw [hlength, List.cons_append, split?, if_pos (by omega), hrest, ih]
    rfl

theorem split?_eq_some (h : split? n cs = some (b, a)) : cs = b ++ a ∧ n = byteLength b := by
  induction cs generalizing n b with
  | nil =>
    cases n with
    | zero =>
      obtain ⟨rfl, rfl⟩ : b = [] ∧ a = [] := by simpa [split?, eq_comm] using h
      exact ⟨rfl, rfl⟩
    | succ n => simp [split?] at h
  | cons c cs ih =>
    cases n with
    | zero =>
      obtain ⟨rfl, rfl⟩ : b = [] ∧ a = c :: cs := by simpa [split?, eq_comm] using h
      exact ⟨rfl, rfl⟩
    | succ n =>
      rw [split?] at h
      split at h
      · rename_i hfits
        obtain ⟨⟨b', a'⟩, hcut, hparts⟩ := Option.map_eq_some_iff.1 h
        obtain ⟨rfl, rfl⟩ := Prod.mk.inj hparts
        obtain ⟨rfl, hn⟩ := ih hcut
        refine ⟨rfl, ?_⟩
        rw [byteLength_cons, ← hn]
        omega
      · simp at h

theorem sliceTo?_byteLength (b a : List Char) : sliceTo? (byteLength b) (b ++ a) = some b := by
  rw [sliceTo?, split?_byteLength, Option.map_some]

theorem sliceFrom?_byteLength (b a : List Char) : sliceFrom? (byteLength b) (b ++ a) = some a := by
  rw [sliceFrom?, split?_byteLength, Option.map_some]

theorem slice?_byteLength (b m a : List Char) :
    slice? (byteLength b) (byteLength (b ++ m)) (b ++ (m ++ a)) = some m := by
  rw [slice?, if_pos (by rw [byteLength_append]; exact Nat.le_add_right ..), ← List.append_assoc,
    sliceTo?_byteLength, Option.bind_some, sliceFrom?_byteLength]

theorem remove?_byteLength (b : List Char) (c : Char) (a : List Char) :
    remove? (byteLength b) (b ++ c :: a) = some (b ++ a) := by
  rw [remove?, split?_byteLength]

theorem find?_getD (cs : List Char) : (find? cs).getD (byteLength cs) = byteLength (cs.takeWhile inRow) := by
  induction cs with
  | nil => rfl
  | cons c cs ih =>
    by_cases hc : c = '\n'
    · simp [find?, hc, inRow]
    · rw [find?, if_neg hc, List.takeWhile_cons_of_pos (by simpa [inRow] using hc), byteLength_cons,
        byteLength_cons, ← ih]
      cases find? cs <;> rfl

theorem findLast?_append (cs : List Char) (c : Char) :
    findLast? (cs ++ [c]) = if c = '\n' then some (byteLength cs) else findLast? cs := by
  induction cs with
  | nil => simp [findLast?]
  | cons d cs ih =>
    rw [List.cons_append, findLast?, ih]
    by_cases hc : c = '\n'
    · simp [hc]
    · simp [hc, findLast?]

theorem findLast?_getD (cs : List Char) :
    ((findLast? cs).map (· + 1)).getD 0 = byteLength (cs.rdropWhile inRow) := by
  induction cs using List.reverseRecOn with
  | nil => rfl
  | append_singleton cs c ih =>
    rw [findLast?_append, List.rdropWhile_concat]
    by_cases hc : c = '\n'
    · simp [hc, inRow]
      rfl
    · simpa [hc, inRow] using ih

theorem pieces_eq_rows (cs : List Char) : pieces cs = rows cs ∨ pieces cs = rows cs ++ [[]] := by
  induction cs with
  | nil => exact .inr rfl
  | cons c cs ih =>
    obtain ⟨p, ps, hpieces⟩ := exists_pieces cs
    rw [pieces_cons hpieces, rows]
    rw [hpieces] at ih
    by_cases hc : c = '\n'
    · simpa [hc] using ih
    · cases hrows : rows cs with
      | nil =>
        obtain ⟨rfl, rfl⟩ : p = [] ∧ ps = [] := by simpa [hrows] using ih
        simp [hc]
      | cons q qs => simpa [hc, hrows] using ih

theorem byteLength_flatten (l : List (List Char)) : byteLength l.flatten = (l.map byteLength).sum := by
  induction l with
  | nil => rfl
  | cons cs l ih => rw [List.flatten_cons, byteLength_append, ih, List.map_cons, List.sum_cons]

theorem flatten_take_rows (cs : List Char) (k : Nat) :
    ((rows cs).take k).flatten = ((pieces cs).take k).flatten := by
  rcases pieces_eq_rows cs with h | h
  · rw [h]
  · rw [h, List.take_append, List.flatten_append]
    cases k - (rows cs).length <;> simp

/-- An offset taken back to the last place where the text can be cut. -/
theorem floor_eq (h : cs = b ++ a) (hb : byteLength b ≤ n)
    (hnone : ∀ m, byteLength b < m → m ≤ n → split? m cs = none) : floor cs n = byteLength b := by
  induction n with
  | zero => exact (Nat.le_zero.1 hb).symm
  | succ n ih =>
    rcases Nat.lt_or_ge n (byteLength b) with hlt | hle
    · have hlength : byteLength b = n + 1 := by omega
      have hcut : split? (n + 1) cs = some (b, a) := by
        rw [h, ← hlength, split?_byteLength]
      rw [floor, hcut, hlength]
      rfl
    · rw [floor, hnone (n + 1) (by omega) (Nat.le_refl _)]
      exact ih hle fun m hm hmn => hnone m hm (Nat.le_succ_of_le hmn)

theorem floor_min (cs : List Char) (n : Nat) :
    floor cs (min n (byteLength cs)) = byteLength (cutBytes n cs).1 := by
  obtain ⟨hparts, hlength, hnext⟩ := cutBytes_spec n cs
  have htotal := congrArg byteLength hparts
  rw [byteLength_append] at htotal
  refine floor_eq hparts.symm (by omega) fun m hm hmn => Option.eq_none_iff_forall_ne_some.2 ?_
  rintro ⟨b, a⟩ hcut
  obtain ⟨htext, rfl⟩ := split?_eq_some hcut
  -- A longer beginning has the next character, which is too much for the offset.
  rcases List.append_eq_append_iff.1 (hparts.trans htext) with ⟨more, rfl, hmore⟩ | ⟨more, hless, -⟩
  · cases more with
    | nil => simp at hm
    | cons c more =>
      have hover := hnext c _ hmore
      rw [byteLength_append, byteLength_cons] at hmn
      omega
  · rw [hless, byteLength_append] at hm
    omega

end Bytes

open Bytes

def rowStart? (e : Editor) (offset : Nat) : Option Nat := do
  let b ← sliceTo? offset e.buffer.toList
  return ((findLast? b).map (· + 1)).getD 0

def rowEnd? (e : Editor) (offset : Nat) : Option Nat := do
  let a ← sliceFrom? offset e.buffer.toList
  return ((find? a).map (offset + ·)).getD (byteLength e.buffer.toList)

def position? (e : Editor) : Option (Nat × Nat) := do
  let b ← sliceTo? e.cursor e.buffer.toList
  let start ← e.rowStart? e.cursor
  let line ← sliceFrom? start b
  return (b.count '\n', line.length)

def offsetOf? (e : Editor) (row column : Nat) : Option Nat := do
  let start := (((rows e.buffer.toList).take row).map byteLength).sum
  let stop ← e.rowEnd? start
  let line ← slice? start stop e.buffer.toList
  return if column < line.length then start + byteLength (line.take column) else stop

def enter? (c : Char) (e : Editor) : Option Editor :=
  if e.readOnly then some e
  else do
    let text ← insert? e.cursor c e.buffer.toList
    return { e with buffer := String.ofList text, cursor := e.cursor + c.utf8Size }

def goTo? (row column : Nat) (e : Editor) : Option Editor := do
  let offset ← e.offsetOf? row column
  return { e with cursor := offset }

def perform? (e : Editor) : Action → Option Editor
  | .insert c => e.enter? c
  | .newline => e.enter? '\n'
  | .backspace =>
    if e.readOnly then some e
    else do
      let b ← sliceTo? e.cursor e.buffer.toList
      match b.getLast? with
      | none => return e
      | some c =>
        let text ← remove? (e.cursor - c.utf8Size) e.buffer.toList
        return { e with buffer := String.ofList text, cursor := e.cursor - c.utf8Size }
  | .delete =>
    if e.readOnly || byteLength e.buffer.toList ≤ e.cursor then some e
    else do
      let text ← remove? e.cursor e.buffer.toList
      return { e with buffer := String.ofList text }
  | .left => do
    let b ← sliceTo? e.cursor e.buffer.toList
    match b.getLast? with
    | none => return e
    | some c => return { e with cursor := e.cursor - c.utf8Size }
  | .right => do
    let a ← sliceFrom? e.cursor e.buffer.toList
    match a.head? with
    | none => return e
    | some c => return { e with cursor := e.cursor + c.utf8Size }
  | .home => do
    let start ← e.rowStart? e.cursor
    return { e with cursor := start }
  | .stop => do
    let stop ← e.rowEnd? e.cursor
    return { e with cursor := stop }
  | .up => do
    let (row, column) ← e.position?
    if 0 < row then e.goTo? (row - 1) column else return e
  | .down => do
    let (row, column) ← e.position?
    if row < e.buffer.toList.count '\n' then e.goTo? (row + 1) column else return e
  | .setBuffer text =>
    if e.readOnly then some e
    else some { e with buffer := text, cursor := text.utf8ByteSize }
  | .revert =>
    let limit := min e.cursor e.file.body.utf8ByteSize
    some { e with buffer := e.file.body, cursor := floor e.file.body.toList limit }
  | .confirm => some e.confirm.2

variable {b a head rest : List Char} {e : Editor} {s : TwoLists}

namespace At

theorem sliceTo? (h : e.At b a) : sliceTo? e.cursor e.buffer.toList = some b := by
  rw [h.text, h.cursor, sliceTo?_byteLength]

theorem sliceFrom? (h : e.At b a) : sliceFrom? e.cursor e.buffer.toList = some a := by
  rw [h.text, h.cursor, sliceFrom?_byteLength]

theorem rowStart? (h : e.At b a) : e.rowStart? e.cursor = some (byteLength (b.rdropWhile inRow)) := by
  rw [Editor.rowStart?, h.sliceTo?, Option.bind_eq_bind, Option.bind_some, findLast?_getD]
  rfl

end At

theorem rowEnd?_byteLength (ht : e.buffer.toList = b ++ a) :
    e.rowEnd? (byteLength b) = some (byteLength (b ++ a.takeWhile inRow)) := by
  have hfind := find?_getD a
  rw [Editor.rowEnd?, ht, sliceFrom?_byteLength, Option.bind_eq_bind, Option.bind_some,
    byteLength_append, byteLength_append, ← hfind]
  cases find? a <;> rfl

theorem position?_eq (h : Represents e s) : e.position? = some e.position := by
  have hline : sliceFrom? (byteLength (s.before.rdropWhile inRow)) s.before =
      some (s.before.rtakeWhile inRow) := by
    have hslice := sliceFrom?_byteLength (s.before.rdropWhile inRow) (s.before.rtakeWhile inRow)
    rwa [List.rdropWhile_append_rtakeWhile] at hslice
  rw [Editor.position?, h.place.sliceTo?, h.place.rowStart?, h.position_eq]
  simp [hline]
  rfl

theorem offsetOf?_eq (ht : e.buffer.toList = head ++ rest) (hh : Ended head) (column : Nat) :
    e.offsetOf? (head.count '\n') column = some (e.offsetOf (head.count '\n') column) := by
  have hstart : (((rows e.buffer.toList).take (head.count '\n')).map byteLength).sum =
      byteLength head := by
    rw [← byteLength_flatten, flatten_take_rows, ht, (pieces_append hh rest).1]
  have hrow : slice? (byteLength head) (byteLength (head ++ rest.takeWhile inRow)) e.buffer.toList =
      some (rest.takeWhile inRow) := by
    have hslice := slice?_byteLength head (rest.takeWhile inRow) (rest.dropWhile inRow)
    rwa [List.takeWhile_append_dropWhile, ← ht] at hslice
  rw [Editor.offsetOf?, hstart, rowEnd?_byteLength ht, offsetOf_eq ht hh]
  simp only [Option.bind_eq_bind, Option.bind_some, hrow]
  split
  · rw [byteLength_append]
    rfl
  · rename_i hcolumn
    rw [List.take_of_length_le (Nat.le_of_not_lt hcolumn)]
    rfl

/-- Every row but the first begins behind as many line feeds as there are rows before it. -/
theorem exists_head (cs : List Char) {k : Nat} (hk : k ≤ cs.count '\n') :
    ∃ head rest, cs = head ++ rest ∧ Ended head ∧ head.count '\n' = k := by
  induction k with
  | zero => exact ⟨[], cs, rfl, by simp [Ended], rfl⟩
  | succ k ih =>
    obtain ⟨head, rest, rfl, hh, hcount⟩ := ih (Nat.le_of_succ_le hk)
    rw [List.count_append, hcount] at hk
    have hrow := List.takeWhile_append_dropWhile (p := inRow) (l := rest)
    cases hbelow : rest.dropWhile inRow with
    | nil =>
      rw [hbelow, List.append_nil] at hrow
      rw [← hrow, count_takeWhile] at hk
      omega
    | cons feed below =>
      obtain rfl := eq_feed_of_dropWhile hbelow
      refine ⟨head ++ rest.takeWhile inRow ++ ['\n'], below, ?_, ?_, ?_⟩
      · rw [List.append_assoc, List.append_assoc, List.singleton_append, ← hbelow, hrow]
      · intro c hc
        simpa [eq_comm] using hc
      · simp [hcount, count_takeWhile]

/-- Going to a row that the text has does not fail. -/
theorem goTo?_eq {row : Nat} (hrow : row ≤ e.buffer.toList.count '\n') (column : Nat) :
    e.goTo? row column = some { e with cursor := e.offsetOf row column } := by
  obtain ⟨head, rest, ht, hh, rfl⟩ := exists_head e.buffer.toList hrow
  rw [goTo?, offsetOf?_eq ht hh]
  rfl

theorem enter?_eq (h : e.At b a) (c : Char) : e.enter? c = some (e.insert c) := by
  unfold enter? Editor.insert
  split
  · rfl
  · rw [insert?, entered_eq, h.before_eq, h.after_eq, h.text, h.cursor, split?_byteLength]
    rfl

theorem perform?_backspace (h : e.At b a) : e.perform? .backspace = some e.backspace := by
  simp only [perform?, backspace, h.sliceTo?, h.before_eq, h.after_eq, Option.bind_eq_bind,
    Option.bind_some]
  split
  · rfl
  · cases hlast : b.getLast? with
    | none => rfl
    | some c =>
      obtain ⟨b, rfl⟩ := List.getLast?_eq_some_iff.1 hlast
      have hcursor : e.cursor - c.utf8Size = byteLength b := by simp [h.cursor]
      have hremove : remove? (byteLength b) e.buffer.toList = some (b ++ a) := by
        rw [h.text, List.append_assoc, List.singleton_append, remove?_byteLength]
      simp [hcursor, hremove]

theorem perform?_delete (h : e.At b a) : e.perform? .delete = some e.delete := by
  by_cases hr : e.readOnly = true
  · simp [perform?, delete, hr]
  · cases a with
    | nil =>
      have hend : byteLength e.buffer.toList ≤ e.cursor := by simp [h.text, h.cursor]
      have hbuffer : String.ofList b = e.buffer := by simpa using h.buffer_eq.symm
      rw [delete, if_neg hr, h.before_eq, h.after_eq, List.drop_nil, List.append_nil, hbuffer]
      simp [perform?, hend]
    | cons c a =>
      have hinside : ¬ byteLength e.buffer.toList ≤ e.cursor := by
        have hsize := c.utf8Size_pos
        rw [h.text, h.cursor, byteLength_append, byteLength_cons]
        omega
      have hremove : remove? e.cursor e.buffer.toList = some (b ++ a) := by
        rw [h.text, h.cursor, remove?_byteLength]
      simp [perform?, delete, hr, h.before_eq, h.after_eq, hinside, hremove]

/-- No action fails at a place between two characters, and each does what it does with the characters. -/
theorem perform?_eq (h : Represents e s) (a : Action) : e.perform? a = some (e.act a) := by
  have hplace := h.place
  cases a with
  | insert c => exact enter?_eq hplace c
  | newline => exact enter?_eq hplace '\n'
  | backspace => exact perform?_backspace hplace
  | delete => exact perform?_delete hplace
  | left =>
    simp only [perform?, act, left, hplace.sliceTo?, hplace.before_eq, Option.bind_eq_bind,
      Option.bind_some]
    cases s.before.getLast? <;> rfl
  | right =>
    simp only [perform?, act, right, hplace.sliceFrom?, hplace.after_eq, Option.bind_eq_bind,
      Option.bind_some]
    cases s.after.head? <;> rfl
  | home =>
    have hcursor : e.home.cursor = byteLength (s.before.rdropWhile inRow) := h.home.place.cursor
    rw [perform?, hplace.rowStart?, ← hcursor]
    rfl
  | stop =>
    have hcursor : e.stop.cursor = byteLength (s.before ++ s.after.takeWhile inRow) :=
      h.stop.place.cursor
    rw [perform?, hplace.cursor, rowEnd?_byteLength hplace.text, ← hcursor]
    rfl
  | up =>
    simp only [perform?, act, up, position?_eq h, Option.bind_eq_bind, Option.bind_some]
    split
    · refine goTo?_eq ?_ _
      rw [h.position_eq, hplace.text, List.count_append]
      omega
    · rfl
  | down =>
    simp only [perform?, act, down, position?_eq h, Option.bind_eq_bind, Option.bind_some]
    split
    · rename_i hrow
      exact goTo?_eq hrow _
    · rfl
  | setBuffer text =>
    have hlength : text.utf8ByteSize = byteLength text.toList := by
      rw [← byteLength_ofList, String.ofList_toList]
    simp only [perform?, act, setBuffer, hlength]
    split <;> rfl
  | revert =>
    have hlength : e.file.body.utf8ByteSize = byteLength e.file.body.toList := by
      rw [← byteLength_ofList, String.ofList_toList]
    rw [perform?, hlength, floor_min]
    rfl
  | confirm => rfl

theorem foldlM_perform? (h : Represents e s) (actions : List Action) :
    actions.foldlM perform? e = some (e.run actions) := by
  induction actions generalizing e s with
  | nil => rfl
  | cons a rest ih =>
    rw [List.foldlM_cons, perform?_eq h]
    exact ih (act_represents h a)

/-- From a file just opened, an editor goes through any actions like its two lists, with the cursor in the
text and between two characters, and no slice, insertion or removal on the way fails. -/
theorem run_represents (file : ChangedFile) (readOnly : Bool) (actions : List Action) :
    let e := (openFile file readOnly).run actions
    Represents e ((TwoLists.openFile file readOnly).run actions) ∧
      e.cursor ≤ e.buffer.utf8ByteSize ∧ String.Pos.Raw.IsValid e.buffer ⟨e.cursor⟩ ∧
      actions.foldlM perform? (openFile file readOnly) = some e := by
  have hopen := represents_openFile file readOnly
  have hrun := represents_run hopen actions
  obtain ⟨hcursor, hvalid⟩ := hrun.place.isValid
  exact ⟨hrun, hcursor, hvalid, foldlM_perform? hopen actions⟩

end ChangeDesk.Editor
