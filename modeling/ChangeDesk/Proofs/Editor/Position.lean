import ChangeDesk.Proofs.Editor.Offsets

/-!
Rows and columns. A text is a list of rows with a line feed between two of them, and a place between two of its
characters is a column of one row. The cursor that goes up or down takes its column along, as far as the other
row is long enough, and the ends of its row are the first and the last column.
-/
namespace ChangeDesk.Editor

variable {head row rest : List Char} {e : Editor} {s : TwoLists} {k : Nat}

/-- The number of characters of a row of the buffer. The rows are what the line feeds separate. -/
def rowLength (e : Editor) (row : Nat) : Nat := ((e.buffer.toList.splitOn '\n').getD row []).length

/-- The lines of a text are its rows. -/
theorem map_pieces (cs : List Char) : (pieces cs).map (fun p => p.filter (· ≠ '\n')) = cs.splitOn '\n' := by
  induction cs with
  | nil => simp [pieces]
  | cons c cs ih =>
    obtain ⟨p, ps, hpieces⟩ := exists_pieces cs
    rw [pieces_cons hpieces, List.splitOn_eq_splitOnP, List.splitOnP_cons_eq_if_modifyHead,
      ← List.splitOn_eq_splitOnP, ← ih, hpieces]
    by_cases hc : c = '\n'
    · simp [hc]
    · simp [hc]

theorem length_splitOn (cs : List Char) : (cs.splitOn '\n').length = cs.count '\n' + 1 := by
  induction cs with
  | nil => rfl
  | cons c cs ih =>
    rw [List.splitOn_eq_splitOnP, List.splitOnP_cons_eq_if_modifyHead, ← List.splitOn_eq_splitOnP]
    by_cases hc : c = '\n'
    · simp [hc, ih]
    · simp [hc, ih]

/-- The line that begins behind ended rows. -/
theorem getElem?_lines (ht : e.buffer.toList = head ++ rest) (h : Ended head) :
    e.lines[head.count '\n']? = some (rest.takeWhile inRow) := by
  obtain ⟨-, hdrop⟩ := pieces_append h rest
  obtain ⟨p, ps, hpieces⟩ := exists_pieces rest
  have hfirst := filter_head_pieces rest
  rw [hpieces, List.headD_cons] at hfirst
  have hrow : (pieces (head ++ rest))[head.count '\n']? = some p := by
    rw [← List.head?_drop, hdrop, hpieces, List.head?_cons]
  rw [lines, ht, List.getElem?_map, hrow, Option.map_some, hfirst]

/-- The row that begins behind ended rows. -/
theorem rowLength_eq (ht : e.buffer.toList = head ++ rest) (h : Ended head) :
    e.rowLength (head.count '\n') = (rest.takeWhile inRow).length := by
  have hline := getElem?_lines ht h
  rw [lines, map_pieces] at hline
  rw [rowLength, List.getD_eq_getElem?_getD, hline, Option.getD_some]

/-- Behind ended rows, the row that is open is all that follows. -/
theorem rtakeWhile_append (h : Ended head) (hrow : ∀ c ∈ row, inRow c = true) :
    (head ++ row).rtakeWhile inRow = row := by
  rw [List.rtakeWhile, List.reverse_append, List.takeWhile_append_of_pos (by simpa using hrow)]
  cases hlast : head.reverse with
  | nil => simp
  | cons c cs =>
    have hc : c = '\n' := by
      refine h c ?_
      rw [← List.head?_reverse, hlast, List.head?_cons]
    rw [List.takeWhile_cons_of_neg (by simp [hc, inRow])]
    simp

theorem takeWhile_dropWhile (cs : List Char) : (cs.dropWhile inRow).takeWhile inRow = [] := by
  cases hrest : cs.dropWhile inRow with
  | nil => rfl
  | cons feed below =>
    rw [eq_feed_of_dropWhile hrest]
    simp [inRow]

/-- Where the cursor is, and how long its row is, in a text that is cut at the two ends of this row. -/
theorem Represents.in_row (h : Represents e s) (hhead : Ended head) (hrow : ∀ c ∈ row, inRow c = true)
    (hrest : rest.takeWhile inRow = []) (hbefore : s.before = head ++ row.take k)
    (hafter : s.after = row.drop k ++ rest) :
    e.position = (head.count '\n', min k row.length) ∧ e.rowLength (head.count '\n') = row.length := by
  have hpart : ∀ c ∈ row.take k, inRow c = true := fun c hc => hrow c (List.mem_of_mem_take hc)
  have hfeeds : (row.take k).count '\n' = 0 := by
    refine List.count_eq_zero.2 fun hmem => ?_
    have := hpart _ hmem
    simp [inRow] at this
  have htext : e.buffer.toList = head ++ (row ++ rest) := by
    rw [h.place.text, hbefore, hafter, List.append_assoc, ← List.append_assoc (row.take k),
      List.take_append_drop]
  constructor
  · rw [h.position_eq, TwoLists.column, hbefore, rtakeWhile_append hhead hpart, List.count_append, hfeeds,
      List.length_take, Nat.add_zero]
  · rw [rowLength_eq htext hhead, List.takeWhile_append_of_pos hrow, hrest, List.append_nil]

/-- An action only moves the cursor, to this row and this column. It does the same in bytes, and the cursor is
between two characters again. -/
structure Goes (e : Editor) (a : Action) (row column : Nat) : Prop where
  performed : e.perform? a = some (e.act a)
  same : e.act a = { e with cursor := (e.act a).cursor }
  valid : String.Pos.Raw.IsValid e.buffer ⟨(e.act a).cursor⟩
  position : (e.act a).position = (row, column)
  position? : (e.act a).position? = some (row, column)

theorem Represents.goes {a : Action} {r c : Nat} (h : Represents e s)
    (hsame : e.act a = { e with cursor := (e.act a).cursor }) (hposition : (e.act a).position = (r, c)) :
    Goes e a r c := by
  have hact := act_represents h a
  have hvalid := hact.place.isValid.2
  have hbuffer : (e.act a).buffer = e.buffer := by rw [hsame]
  rw [hbuffer] at hvalid
  exact ⟨perform?_eq h a, hsame, hvalid, hposition, by rw [position?_eq hact, hposition]⟩

theorem count_rdropWhile (cs : List Char) : (cs.rdropWhile inRow).count '\n' = cs.count '\n' := by
  have hcount := congrArg (List.count '\n') (List.rdropWhile_append_rtakeWhile (p := inRow) (l := cs))
  rwa [List.count_append, count_rtakeWhile, Nat.add_zero] at hcount

/-- The line with the number of the cursor's row is the one that the cursor stands in. -/
theorem lines_position (e : Editor) : e.lines[e.position.1]? = some (e.lineBefore ++ e.lineAfter) := by
  have htext : e.buffer.toList = e.before.rdropWhile inRow ++ (e.before.rtakeWhile inRow ++ e.after) := by
    rw [← List.append_assoc, List.rdropWhile_append_rtakeWhile]
    exact (cutBytes_spec e.cursor e.buffer.toList).1.symm
  have hline := getElem?_lines htext (ended_rdropWhile e.before)
  rw [count_rdropWhile, List.takeWhile_append_of_pos fun c hc => List.mem_rtakeWhile_imp hc] at hline
  exact hline

/-- The row of the cursor, on both sides of it. -/
def openRow (s : TwoLists) : List Char := s.before.rtakeWhile inRow ++ s.after.takeWhile inRow

theorem inRow_of_mem_openRow : ∀ c ∈ openRow s, inRow c = true := by
  intro c hc
  rcases List.mem_append.1 hc with hc | hc
  · exact List.mem_rtakeWhile_imp hc
  · exact List.mem_takeWhile_imp hc

theorem inRow_of_mem_rtakeWhile {cs : List Char} : ∀ c ∈ cs.rtakeWhile inRow, inRow c = true :=
  fun _ hc => List.mem_rtakeWhile_imp hc

namespace Represents

/-- The column of the cursor is one of its row. -/
theorem here (h : Represents e s) : s.column ≤ e.rowLength (s.before.count '\n') := by
  obtain ⟨-, hlength⟩ := h.in_row (k := s.column) (ended_rdropWhile s.before) inRow_of_mem_openRow
    (takeWhile_dropWhile s.after)
    (by rw [TwoLists.column, openRow, List.take_left, List.rdropWhile_append_rtakeWhile])
    (by rw [TwoLists.column, openRow, List.drop_left, List.takeWhile_append_dropWhile])
  rw [count_rdropWhile] at hlength
  rw [hlength, TwoLists.column, openRow, List.length_append]
  exact Nat.le_add_right _ _

theorem home_goes (h : Represents e s) : Goes e .home (s.before.count '\n') 0 := by
  obtain ⟨hposition, -⟩ := h.home.in_row (k := 0) (ended_rdropWhile s.before) inRow_of_mem_openRow
    (takeWhile_dropWhile s.after)
    (by rw [List.take_zero, List.append_nil, TwoLists.home])
    (by rw [List.drop_zero, openRow, List.append_assoc, List.takeWhile_append_dropWhile, TwoLists.home])
  rw [count_rdropWhile, Nat.zero_min] at hposition
  exact h.goes rfl hposition

theorem stop_goes (h : Represents e s) :
    Goes e .stop (s.before.count '\n') (e.rowLength (s.before.count '\n')) := by
  obtain ⟨hposition, hlength⟩ := h.stop.in_row (k := (openRow s).length) (ended_rdropWhile s.before)
    inRow_of_mem_openRow (takeWhile_dropWhile s.after)
    (by rw [List.take_length, openRow, ← List.append_assoc, List.rdropWhile_append_rtakeWhile, TwoLists.stop])
    (by rw [List.drop_length, List.nil_append, TwoLists.stop])
  rw [count_rdropWhile] at hposition hlength
  rw [Nat.min_self, ← hlength] at hposition
  exact h.goes rfl hposition

theorem up_goes (h : Represents e s) (hrow : '\n' ∈ s.before) :
    Goes e .up (s.before.count '\n' - 1) (min s.column (e.rowLength (s.before.count '\n' - 1))) := by
  have hup : s.up = { s with
      before := (rowsBefore s.before).rdropWhile inRow ++ ((rowsBefore s.before).rtakeWhile inRow).take s.column
      after := ((rowsBefore s.before).rtakeWhile inRow).drop s.column ++
        '\n' :: s.before.rtakeWhile inRow ++ s.after } := if_pos hrow
  have hsame : e.up = { e with cursor := e.up.cursor } := by
    unfold Editor.up
    split
    split <;> rfl
  have hfeed : ('\n' :: s.before.rtakeWhile inRow ++ s.after).takeWhile inRow = [] := by simp [inRow]
  obtain ⟨hposition, hlength⟩ := h.up.in_row (k := s.column) (ended_rdropWhile (rowsBefore s.before))
    inRow_of_mem_rtakeWhile hfeed
    (by rw [hup]) (by rw [hup, List.append_assoc])
  rw [Nat.eq_sub_of_add_eq (count_of_mem hrow).symm] at hposition hlength
  rw [hsame] at hlength
  rw [← hlength] at hposition
  exact h.goes hsame hposition

theorem down_goes (h : Represents e s) (hrow : '\n' ∈ s.after) :
    Goes e .down (s.before.count '\n' + 1) (min s.column (e.rowLength (s.before.count '\n' + 1))) := by
  obtain ⟨feed, below, hbelow⟩ : ∃ feed below, s.after.dropWhile inRow = feed :: below := by
    refine List.exists_cons_of_ne_nil fun hnil => ?_
    have := List.dropWhile_eq_nil_iff.1 hnil _ hrow
    simp [inRow] at this
  obtain rfl := eq_feed_of_dropWhile hbelow
  have hdown : s.down = { s with
      before := s.before ++ s.after.takeWhile inRow ++ '\n' :: (below.takeWhile inRow).take s.column
      after := (below.takeWhile inRow).drop s.column ++ below.dropWhile inRow } := by
    rw [TwoLists.down, hbelow]
  have hsame : e.down = { e with cursor := e.down.cursor } := by
    unfold Editor.down
    split
    split <;> rfl
  have hhead : Ended (s.before ++ s.after.takeWhile inRow ++ ['\n']) := by
    intro c hc
    simpa [eq_comm] using hc
  have hcount : (s.before ++ s.after.takeWhile inRow ++ ['\n']).count '\n' = s.before.count '\n' + 1 := by
    simp [count_takeWhile]
  obtain ⟨hposition, hlength⟩ := h.down.in_row (k := s.column) hhead
    (fun c hc => List.mem_takeWhile_imp hc) (takeWhile_dropWhile below)
    (by rw [hdown, List.append_assoc _ ['\n'], List.singleton_append]) (by rw [hdown])
  rw [hcount] at hposition hlength
  rw [hsame] at hlength
  rw [← hlength] at hposition
  exact h.goes hsame hposition

end Represents

/-- A cursor between two characters has a row, which counts the line feeds before it, and a column within this row.
Up and down it goes to the row above or below and to the same column or the last one there; where there is no such
row it stays. Home and end are the two ends of its row. -/
theorem rows_and_columns (e : Editor) (hcursor : String.Pos.Raw.IsValid e.buffer ⟨e.cursor⟩) :
    ∃ b a r c, e.At b a ∧ r = b.count '\n' ∧ e.position = (r, c) ∧ e.position? = some (r, c) ∧
      c ≤ e.rowLength r ∧ (e.buffer.toList.splitOn '\n').length = e.buffer.toList.count '\n' + 1 ∧
      (if 0 < r then Goes e .up (r - 1) (min c (e.rowLength (r - 1)))
        else e.perform? .up = some e ∧ e.up = e) ∧
      (if r < e.buffer.toList.count '\n' then Goes e .down (r + 1) (min c (e.rowLength (r + 1)))
        else e.perform? .down = some e ∧ e.down = e) ∧
      Goes e .home r 0 ∧ Goes e .stop r (e.rowLength r) := by
  obtain ⟨front, back, htext, hoffset⟩ := String.Pos.Raw.isValid_iff_exists_append.1 hcursor
  have hplace : e.At front.toList back.toList := by
    refine ⟨by rw [htext, String.toList_append], ?_⟩
    rw [← byteLength_ofList, String.ofList_toList]
    simpa using congrArg String.Pos.Raw.byteIdx hoffset
  have h : Represents e ⟨front.toList, back.toList, e.file.body.toList, e.readOnly⟩ := ⟨hplace, rfl, rfl⟩
  have hup := perform?_eq h .up
  have hdown := perform?_eq h .down
  refine ⟨_, _, _, _, hplace, rfl, h.position_eq, by rw [position?_eq h, h.position_eq], h.here,
    length_splitOn _, ?_, ?_, h.home_goes, h.stop_goes⟩
  · split
    · rename_i hrow
      exact h.up_goes (List.count_pos_iff.1 hrow)
    · rename_i hrow
      have hstays : e.up = e := by
        simp only [Editor.up, h.position_eq]
        exact if_neg hrow
      exact ⟨hup.trans (congrArg some hstays), hstays⟩
  · split
    · rename_i hrow
      rw [hplace.text, List.count_append] at hrow
      exact h.down_goes (List.count_pos_iff.1 (Nat.pos_of_lt_add_right hrow))
    · rename_i hrow
      have hstays : e.down = e := by
        simp only [Editor.down, h.position_eq]
        exact if_neg hrow
      exact ⟨hdown.trans (congrArg some hstays), hstays⟩

/-- In the second of three rows, whose characters have several widths and the last of which is empty. -/
theorem rows_and_columns_middle :
    let e : Editor := ⟨⟨"a.yaml", none, "", "", 0⟩, false, "é€𝄞\naé€b\n", 13⟩
    String.Pos.Raw.IsValid e.buffer ⟨e.cursor⟩ ∧ e.position = (1, 2) ∧ Goes e .up 0 2 ∧ Goes e .down 2 0 ∧
      Goes e .home 1 0 ∧ Goes e .stop 1 4 := by
  intro e
  have hcursor : String.Pos.Raw.IsValid e.buffer ⟨e.cursor⟩ :=
    String.Pos.Raw.isValid_iff_exists_append.2 ⟨"é€𝄞\naé", "€b\n", by decide, by decide⟩
  have hposition : e.position = (1, 2) := by decide
  have habove : e.rowLength 0 = 3 := by decide
  have hrow : e.rowLength 1 = 4 := by decide
  have hbelow : e.rowLength 2 = 0 := by decide
  have hfeeds : e.buffer.toList.count '\n' = 2 := by decide
  obtain ⟨b, a, r, c, -, -, hplace, -, -, -, hup, hdown, hhome, hstop⟩ := rows_and_columns e hcursor
  obtain ⟨rfl, rfl⟩ := Prod.mk.inj (hposition.symm.trans hplace)
  rw [hfeeds] at hdown
  simp only [Nat.reduceLT, ↓reduceIte, Nat.reduceSub, Nat.reduceAdd, habove, hbelow] at hup hdown
  rw [hrow] at hstop
  exact ⟨hcursor, hposition, hup, hdown, hhome, hstop⟩

end ChangeDesk.Editor
