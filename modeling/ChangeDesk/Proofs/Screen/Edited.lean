import ChangeDesk.Screen.View
import ChangeDesk.Proofs.Desk.Editing
import ChangeDesk.Proofs.Editor.Position
import ChangeDesk.Proofs.Screen.Canvas

/-!
The line being edited. The buffer of an open editor is in the lower half of the body, between the diff and the
foot, and only a notice is painted over it. The cursor is always inside of this pane, and the line in its row is
the one it stands in, as long as the first line shown has a number that a scroll position can have.
-/
namespace ChangeDesk

open Screen

namespace Screen.Area

theorem frameHeights_total (n : Nat) :
    (frameHeights n).1 + (frameHeights n).2.1 + (frameHeights n).2.2 = n := by
  match n with
  | 0 | 1 | 2 | 3 | 4 | 5 | 6 => rfl
  | n + 7 =>
    change 3 + (n + 7 - 6) + 3 = n + 7
    omega

theorem share_half_le (n : Nat) : share 50 n ≤ n := by
  unfold share
  omega

end Screen.Area

namespace View

variable {v : View} {p : Pane} {before after : List Pane} {lines : List Line} {scroll j width height : Nat}

/-- On a screen, a pane of text shows its lines in the rows in which no other pane has a cell. -/
theorem showsLine_paint (hpanes : v.panes = before ++ p :: after) (hstyle : p.style = .unset)
    (hclears : p.clears = false) (hcontent : p.content = .cut lines scroll)
    (hj : j < p.area.inner.height) (hright : p.area.right ≤ width) (hbottom : p.area.bottom ≤ height)
    (hbefore : ∀ q ∈ before, q.Misses (p.area.inner.y + j))
    (hafter : ∀ q ∈ after, q.Misses (p.area.inner.y + j)) :
    (v.paint width height).ShowsLine p.area.inner j (lines[scroll + j]?.getD []) := by
  have hunder := Canvas.keeps_paintPanes hbefore (.blank width height)
  have hshown := Canvas.showsLine_paintPane (c := before.foldl Canvas.paintPane (.blank width height)) hstyle
    hclears hcontent hj fun i hi => by
      rw [hunder _ _ rfl]
      simp only [Area.inner, Area.right, Area.bottom] at hi hj hright hbottom ⊢
      exact Canvas.get?_blank _ _ (by omega) (by omega)
  intro i hi
  rw [paint, hpanes, List.foldl_append, List.foldl_cons, Canvas.keeps_paintPanes hafter _ _ _ rfl]
  exact hshown i hi

end View

namespace Desk

variable {d : Desk} {e : Editor} {screen a : Area} {j : Nat}

def bufferArea (screen : Area) : Area := (screen.frame.2.1.splitRows 50).2

/-- The head and the diff are above the buffer, and the foot is below it. -/
theorem bufferArea_rows (screen : Area) :
    screen.frame.1.bottom ≤ (bufferArea screen).y ∧
      (screen.frame.2.1.splitRows 50).1.bottom ≤ (bufferArea screen).y ∧
      (bufferArea screen).bottom ≤ screen.frame.2.2.y ∧ (bufferArea screen).bottom ≤ screen.bottom := by
  have htotal := Area.frameHeights_total screen.height
  have hshare := Area.share_half_le (Area.frameHeights screen.height).2.1
  have harea : bufferArea screen = ⟨screen.x,
      screen.y + (Area.frameHeights screen.height).1 + Area.share 50 (Area.frameHeights screen.height).2.1,
      screen.width,
      (Area.frameHeights screen.height).2.1 - Area.share 50 (Area.frameHeights screen.height).2.1⟩ := rfl
  have hhead : screen.frame.1.bottom = screen.y + (Area.frameHeights screen.height).1 := rfl
  have hupper : (screen.frame.2.1.splitRows 50).1.bottom = (bufferArea screen).y := rfl
  have hfoot : screen.frame.2.2.y =
      screen.y + (Area.frameHeights screen.height).1 + (Area.frameHeights screen.height).2.1 := rfl
  rw [hhead, hupper, hfoot, harea]
  simp only [Area.bottom]
  omega

def firstShown (e : Editor) (a : Area) : Nat := scrollTo (editorTop (editorRows a) e.position.1)

/-- The line of a buffer with this number as it is shown, nothing behind the last line. -/
def shownLine (e : Editor) (n : Nat) : Line :=
  ((e.lines[n]?).map fun l => Highlight.fileLine e.file.fileExtension (String.ofList l)).getD []

/-- The panes over and under that of the buffer. Those of the desk leave it its rows. -/
theorem view_of_editor (he : d.editor = some e) (hh : d.helpOpen = false) (screen : Area) :
    ∃ above below, (d.view screen).panes = above ++ bufferPane e (bufferArea screen) ::
        (below ++ d.notice.toList.map fun n => noticePane n screen) ∧
      (d.view screen).cursor = bufferCursor e (bufferArea screen) ∧
      ∀ p ∈ above ++ below, ∀ y, (bufferArea screen).y ≤ y → y < (bufferArea screen).bottom → p.Misses y := by
  obtain ⟨diff, hdiff, hbody⟩ : ∃ diff, diff.area = (screen.frame.2.1.splitRows 50).1 ∧
      d.bodyView screen.frame.2.1 =
        ⟨[diff, bufferPane e (bufferArea screen)], bufferCursor e (bufferArea screen)⟩ := by
    rw [bodyView, he]
    exact ⟨_, rfl, rfl⟩
  have hview : d.view screen = ⟨[d.headPane screen.frame.1, diff] ++ bufferPane e (bufferArea screen) ::
      ([d.footPane screen.frame.2.2] ++ d.notice.toList.map fun n => noticePane n screen),
      bufferCursor e (bufferArea screen)⟩ := by
    simp only [view, hh, hbody]
    rfl
  refine ⟨_, _, congrArg View.panes hview, congrArg View.cursor hview, fun p hp y htop hbottom => ?_⟩
  obtain ⟨hhead, hupper, hfoot, -⟩ := bufferArea_rows screen
  simp only [List.cons_append, List.nil_append, List.mem_cons, List.not_mem_nil, or_false] at hp
  -- The head, the diff and the foot, from the top to the bottom of the screen.
  obtain rfl | rfl | rfl := hp
  · exact .inr (hhead.trans htop)
  · exact .inr ((hdiff ▸ hupper).trans htop)
  · exact .inl (hbottom.trans_le hfoot)

/-- What the rows of the buffer show where no notice is painted over them. -/
theorem showsLine_of_editor (he : d.editor = some e) (hh : d.helpOpen = false)
    (hj : j < (bufferArea screen).inner.height)
    (hnotice : ∀ n, d.notice = some n → (noticePane n screen).Misses ((bufferArea screen).inner.y + j)) :
    ((d.view screen).paint screen.right screen.bottom).ShowsLine (bufferArea screen).inner j
      (shownLine e (firstShown e (bufferArea screen) + j)) := by
  obtain ⟨above, below, hpanes, -, hothers⟩ := view_of_editor he hh screen
  obtain ⟨-, -, -, hbottom⟩ := bufferArea_rows screen
  -- An inner row is one of the area, so that no pane of the desk but this one has a cell in it.
  have hrow : (bufferArea screen).y ≤ (bufferArea screen).inner.y + j ∧
      (bufferArea screen).inner.y + j < (bufferArea screen).bottom := by
    simp only [Area.inner, Area.bottom] at hj ⊢
    omega
  have hline : shownLine e (firstShown e (bufferArea screen) + j) =
      (e.lines.map fun l => Highlight.fileLine e.file.fileExtension (String.ofList l))[
        firstShown e (bufferArea screen) + j]?.getD [] := by
    rw [List.getElem?_map]
    rfl
  rw [hline]
  refine View.showsLine_paint hpanes rfl rfl rfl hj le_rfl hbottom
    (fun p hp => hothers p (List.mem_append_left _ hp) _ hrow.1 hrow.2) (fun p hp => ?_)
  rcases List.mem_append.1 hp with hp | hp
  · exact hothers p (List.mem_append_right _ hp) _ hrow.1 hrow.2
  · obtain ⟨n, hn, rfl⟩ := List.mem_map.1 hp
    exact hnotice n (Option.mem_toList.1 hn)

/-- The line of the cursor as it is shown. -/
theorem shownLine_position (e : Editor) : shownLine e e.position.1 =
    Highlight.fileLine e.file.fileExtension (String.ofList (e.lineBefore ++ e.lineAfter)) := by
  rw [shownLine, e.lines_position, Option.map_some, Option.getD_some]

/-- The column of the cursor among those of its pane, the last one if its own is too far. -/
def cursorColumn (e : Editor) (a : Area) : Nat := min e.position.2 (a.inner.width - 1)

def cursorRow (e : Editor) (a : Area) : Nat := e.position.1 - editorTop (editorRows a) e.position.1

theorem cursorRow_lt (hheight : 3 ≤ a.height) : cursorRow e a < a.inner.height := by
  simp only [cursorRow, editorTop, editorRows, Area.inner]
  omega

theorem bufferCursor_eq (hw : e.readOnly = false) (hwidth : 3 ≤ a.width) (hheight : 3 ≤ a.height)
    (hright : a.right ≤ Area.coordinateLimit) (hbottom : a.bottom ≤ Area.coordinateLimit) :
    bufferCursor e a = some (a.inner.x + cursorColumn e a, a.inner.y + cursorRow e a) := by
  have hcursor : bufferCursor e a = some (a.cursorIn e.position.2 (cursorRow e a)) := by
    simp [bufferCursor, hw, cursorRow]
  have hrow := cursorRow_lt (e := e) hheight
  rw [hcursor, Area.cursorIn_eq hwidth hheight hright hbottom, Option.some.injEq, Prod.mk.injEq]
  simp only [Area.inner, Area.right, Area.bottom, cursorColumn] at hrow ⊢
  omega

/-- The line in the row of the cursor is its line, unless the first line shown is too far for a scroll position. -/
theorem firstShown_add_cursorRow (hheight : 3 ≤ a.height) :
    firstShown e a + cursorRow e a = e.position.1 ↔ e.position.1 ≤ scrollLimit + (a.height - 3) := by
  unfold firstShown cursorRow scrollTo editorTop editorRows scrollLimit
  omega

end Desk

namespace Office

open Desk

variable {session : Session} {delay : Nat} {past : Past} {o : Office} {e : Editor} {screen a : Area}

/-- On a screen with room for a line of the buffer, the cursor of an editor that is not for reading only is inside
of the border of its pane. The rows of this pane show the lines of the buffer from the scroll position on, also when
a notice is painted over others. The line in the row of the cursor is the one in which it stands if and only if the
number of this line exceeds the largest scroll position by less than the pane has rows. -/
theorem edited_line_shown (h : Run session delay past o) (he : o.desk.editor = some e)
    (hw : e.readOnly = false) (hright : screen.right ≤ Area.coordinateLimit)
    (hbottom : screen.bottom ≤ Area.coordinateLimit) (ha : bufferArea screen = a) (hwidth : 3 ≤ a.width)
    (hheight : 3 ≤ a.height) :
    (o.desk.view screen).cursor = some (a.inner.x + cursorColumn e a, a.inner.y + cursorRow e a) ∧
      cursorColumn e a < a.inner.width ∧ cursorRow e a < a.inner.height ∧
      bufferPane e a ∈ (o.desk.view screen).panes ∧
      (∀ j < a.inner.height,
        (∀ n, o.desk.notice = some n → (noticePane n screen).Misses (a.inner.y + j)) →
        ((o.desk.view screen).paint screen.right screen.bottom).ShowsLine a.inner j
          (shownLine e (firstShown e a + j))) ∧
      shownLine e e.position.1 =
        Highlight.fileLine e.file.fileExtension (String.ofList (e.lineBefore ++ e.lineAfter)) ∧
      (firstShown e a + cursorRow e a = e.position.1 ↔ e.position.1 ≤ scrollLimit + (a.height - 3)) := by
  subst ha
  have hh := (h.shows he hw).bare
  obtain ⟨-, -, -, hlow⟩ := bufferArea_rows screen
  obtain ⟨above, below, hpanes, hcursor, -⟩ := view_of_editor he hh screen
  refine ⟨?_, ?_, cursorRow_lt hheight, ?_, fun j hj hnotice => showsLine_of_editor he hh hj hnotice,
    shownLine_position e, firstShown_add_cursorRow hheight⟩
  · exact hcursor.trans (bufferCursor_eq hw hwidth hheight hright (hlow.trans hbottom))
  · simp only [cursorColumn, Area.inner]
    omega
  · rw [hpanes]
    exact List.mem_append_right _ List.mem_cons_self

/-- The only line of a buffer, in which a character was entered. -/
theorem edited_line_shown_sample :
    let screen : Area := ⟨0, 0, 60, 20⟩
    let v := Sample.typed.desk.view screen
    (∃ past, Run .empty 0 past Sample.typed) ∧ Sample.typed.desk.editor = some Sample.editor ∧
      Sample.editor.readOnly = false ∧ screen.right ≤ Area.coordinateLimit ∧
      screen.bottom ≤ Area.coordinateLimit ∧ bufferArea screen = ⟨0, 10, 60, 7⟩ ∧ v.cursor = some (2, 11) ∧
      (v.paint 60 20).ShowsLine ⟨1, 11, 58, 5⟩ 0 (Highlight.fileLine Sample.file.fileExtension "zb") := by
  intro screen v
  obtain ⟨past, h, -⟩ := Sample.distinct_typed
  have heditor : Sample.typed.desk.editor = some Sample.editor := by rw [Sample.typed_eq]
  have hnotice : Sample.typed.desk.notice = none := by
    rw [Sample.typed_eq]
    rfl
  have hright : screen.right ≤ Area.coordinateLimit := by decide
  have hbottom : screen.bottom ≤ Area.coordinateLimit := by decide
  have ha : bufferArea screen = ⟨0, 10, 60, 7⟩ := by decide
  obtain ⟨hcursor, -, -, -, hshown, -⟩ :=
    edited_line_shown h heditor rfl hright hbottom ha (by decide) (by decide)
  have hline : shownLine Sample.editor (firstShown Sample.editor ⟨0, 10, 60, 7⟩ + 0) =
      Highlight.fileLine Sample.file.fileExtension "zb" := rfl
  refine ⟨⟨past, h⟩, heditor, rfl, hright, hbottom, ha, hcursor.trans (by decide), hline ▸ ?_⟩
  exact hshown 0 (by decide) fun n hn => by simp [hnotice] at hn

end Office

/-! An editor in which Enter was pressed many times before a character was entered. -/

namespace Sample

open Editor (At Ended Represents inRow)
open Office

def editing (e : Editor) : Office :=
  { previewed with desk := { previewed.desk with editor := some e, scroll := 0 } }

def feeds (k : Nat) : List Char := 'b' :: List.replicate k '\n'

/-- The editor when line feeds were entered behind the text. -/
def lengthened (k : Nat) : Editor := ⟨file, false, String.ofList (feeds k), k + 1⟩

def lastLine (k : Nat) : Editor := (lengthened k).insert 'x'

theorem feeds_succ (k : Nat) : feeds (k + 1) = feeds k ++ ['\n'] := by
  rw [feeds, feeds, List.replicate_succ', List.cons_append]

theorem count_feeds (k : Nat) : (feeds k).count '\n' = k := by
  simp [feeds]

theorem ended_feeds (k : Nat) : Ended (feeds (k + 1)) := by
  intro c hc
  simpa [feeds_succ, eq_comm] using hc

theorem byteLength_feeds (k : Nat) : Editor.byteLength (feeds k) = k + 1 := by
  induction k with
  | zero => rfl
  | succ k ih =>
    rw [feeds_succ, Editor.byteLength_append, ih]
    rfl

theorem represents_lengthened (k : Nat) : Represents (lengthened k) ⟨feeds k, [], ['b'], false⟩ :=
  ⟨⟨by simp [lengthened], (byteLength_feeds k).symm⟩, show file.body.toList = ['b'] by decide, rfl⟩

theorem newline_lengthened (k : Nat) : (lengthened k).newline = lengthened (k + 1) := by
  have hplace := (represents_lengthened k).place
  have hentered : (lengthened k).entered '\n' = String.ofList (feeds (k + 1)) := by
    rw [Editor.entered_eq, hplace.before_eq, hplace.after_eq, feeds_succ]
  change { lengthened k with buffer := (lengthened k).entered '\n', cursor := k + 1 + 1 } = _
  rw [hentered]
  rfl

theorem reached_lengthened (k : Nat) : Reached (editing (lengthened k)) := by
  induction k with
  | zero =>
    obtain ⟨past, h, -⟩ := distinct_previewed.press .enter
    have hopened : press previewed .enter = editing (.openFile file false) := opened_eq
    have hstop : press (editing (.openFile file false)) .stop = editing (Editor.openFile file false).stop := rfl
    have hend : (Editor.openFile file false).stop = lengthened 0 := by decide
    rw [hopened] at h
    rw [← hend, ← hstop]
    exact Reached.press ⟨past, h⟩ .stop
  | succ k ih =>
    have hnewline : press (editing (lengthened k)) .enter = editing (lengthened k).newline := rfl
    rw [← newline_lengthened, ← hnewline]
    exact ih.press .enter

theorem reached_lastLine (k : Nat) : Reached (editing (lastLine k)) :=
  (reached_lengthened k).press (.char 'x')

theorem represents_lastLine (k : Nat) : Represents (lastLine k) ⟨feeds k ++ ['x'], [], ['b'], false⟩ :=
  (represents_lengthened k).insert 'x'

theorem rtakeWhile_feeds (k : Nat) : (feeds (k + 1) ++ ['x']).rtakeWhile inRow = ['x'] :=
  Editor.rtakeWhile_append (ended_feeds k) (by simp [inRow])

theorem position_lastLine (k : Nat) : (lastLine (k + 1)).position = (k + 1, 1) := by
  rw [(represents_lastLine (k + 1)).position_eq, TwoLists.column, rtakeWhile_feeds, List.count_append,
    count_feeds]
  rfl

theorem line_lastLine (k : Nat) : (lastLine (k + 1)).lineBefore ++ (lastLine (k + 1)).lineAfter = ['x'] := by
  have h := represents_lastLine (k + 1)
  rw [h.lineBefore_eq, h.lineAfter_eq, rtakeWhile_feeds]
  rfl

/-- Between the first and the last line there are empty ones. -/
theorem lines_lastLine (k n : Nat) : (lastLine (k + 1 + (n + 1))).lines[k + 1]? = some [] := by
  have htext : (lastLine (k + 1 + (n + 1))).buffer.toList =
      feeds (k + 1) ++ (List.replicate (n + 1) '\n' ++ ['x']) := by
    rw [(represents_lastLine _).place.text, feeds, feeds, List.replicate_add]
    simp only [List.cons_append, List.append_nil, List.append_assoc]
  have hline := Editor.getElem?_lines htext (ended_feeds k)
  rw [count_feeds] at hline
  rw [hline, List.replicate_succ]
  rfl

/-- Whatever the type of a file, an empty line and one with a character look different. -/
theorem cover_fileLine_ne (fileType : String) :
    Cell.cover (glyphAt? (cutRow 58 (Highlight.fileLine fileType "")) 0) .blank ≠
      Cell.cover (glyphAt? (cutRow 58 (Highlight.fileLine fileType "x")) 0) .blank := by
  have hempty : Highlight.fileLine fileType "" = [⟨"", .unset⟩] := rfl
  have hfilled : Highlight.fileLine fileType "x" = [⟨"x", .ofColour .theme⟩] ∨
      Highlight.fileLine fileType "x" = [⟨"x", .ofColour .plain⟩] := by
    unfold Highlight.fileLine Highlight.spans
    rw [if_neg (by decide)]
    split
    · exact .inl rfl
    · exact .inr rfl
  rcases hfilled with hstyled | hstyled
  · rw [hempty, hstyled]
    decide +kernel
  · rw [hempty, hstyled]
    decide +kernel

end Sample

namespace Office

open Desk

/-- With 65540 lines before its own, the cursor is in a row that shows the empty line number 4. -/
theorem edited_line_scrolled_away :
    let screen : Area := ⟨0, 0, 60, 20⟩
    let e := Sample.lastLine 65540
    let o := Sample.editing e
    let v := o.desk.view screen
    (∃ past, Run .empty 0 past o) ∧ o.desk.editor = some e ∧ e.readOnly = false ∧ o.desk.notice = none ∧
      bufferArea screen = ⟨0, 10, 60, 7⟩ ∧ e.position = (65540, 1) ∧ v.cursor = some (2, 15) ∧
      (v.paint 60 20).ShowsLine ⟨1, 11, 58, 5⟩ 4 (shownLine e 4) ∧
      ¬ (v.paint 60 20).ShowsLine ⟨1, 11, 58, 5⟩ 4 (shownLine e e.position.1) := by
  intro screen e o v
  have ha : bufferArea screen = ⟨0, 10, 60, 7⟩ := by decide
  have hposition : e.position = (65540, 1) := Sample.position_lastLine 65539
  have hcursor : v.cursor = some (2, 15) := by
    obtain ⟨-, -, -, hcursor, -⟩ := view_of_editor (d := o.desk) (e := e) rfl rfl screen
    rw [hcursor, ha, bufferCursor_eq rfl (by decide) (by decide) (by decide) (by decide), cursorColumn,
      cursorRow, hposition]
    decide
  have hshown : (v.paint 60 20).ShowsLine ⟨1, 11, 58, 5⟩ 4 (shownLine e 4) := by
    have hfirst : firstShown e ⟨0, 10, 60, 7⟩ = 0 := by
      rw [firstShown, hposition]
      decide
    have hrow : (v.paint 60 20).ShowsLine (bufferArea screen).inner 4
        (shownLine e (firstShown e (bufferArea screen) + 4)) := showsLine_of_editor rfl rfl (by decide) nofun
    rw [ha, hfirst] at hrow
    exact hrow
  refine ⟨Sample.reached_lastLine 65540, rfl, rfl, rfl, ha, hposition, hcursor, hshown, fun hown => ?_⟩
  have hcell := (hshown 0 (by decide)).symm.trans (hown 0 (by decide))
  rw [shownLine_position, Sample.line_lastLine 65539, shownLine, Sample.lines_lastLine 3 65535, Option.map_some,
    Option.getD_some] at hcell
  exact Sample.cover_fileLine_ne Sample.file.fileExtension (Option.some.inj hcell)

end Office

end ChangeDesk
