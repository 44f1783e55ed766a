import ChangeDesk.Editor
import Mathlib.Data.List.DropRight

/-!
Byte offsets in the text of an editor, and the rows that they are in. An offset that is the length of a
beginning of the text cuts it there; any other offset is taken back to the end of the longest beginning that
it covers.
-/
namespace ChangeDesk.Editor

variable {b a cs : List Char} {n : Nat} {e : Editor}

@[simp] theorem byteLength_nil : byteLength [] = 0 := rfl

@[simp] theorem byteLength_cons (c : Char) (cs : List Char) :
    byteLength (c :: cs) = c.utf8Size + byteLength cs := rfl

@[simp] theorem byteLength_append (b a : List Char) :
    byteLength (b ++ a) = byteLength b + byteLength a := by
  induction b with
  | nil => simp
  | cons c b ih => simp [ih, Nat.add_assoc]

theorem byteLength_ofList (cs : List Char) : (String.ofList cs).utf8ByteSize = byteLength cs := by
  induction cs with
  | nil => rfl
  | cons c cs ih =>
    have hsplit : String.ofList (c :: cs) = String.singleton c ++ String.ofList cs := by
      rw [String.singleton_eq_ofList, ← String.ofList_append]
      rfl
    rw [hsplit, String.utf8ByteSize_append, String.utf8ByteSize_singleton, ih, byteLength_cons]

theorem cutBytes_byteLength (b a : List Char) : cutBytes (byteLength b) (b ++ a) = (b, a) := by
  induction b with
  | nil =>
    cases a with
    | nil => rfl
    | cons c rest => simp [cutBytes, Nat.ne_of_gt c.utf8Size_pos]
  | cons c b ih => simp [cutBytes, ih]

/-- A cut is in two parts, and the first is the longest beginning within the offset: what it needs is there,
and the next character would be too much. -/
theorem cutBytes_spec (n : Nat) (cs : List Char) :
    (cutBytes n cs).1 ++ (cutBytes n cs).2 = cs ∧ byteLength (cutBytes n cs).1 ≤ n ∧
      ∀ c rest, (cutBytes n cs).2 = c :: rest → n < byteLength (cutBytes n cs).1 + c.utf8Size := by
  induction cs generalizing n with
  | nil => simp [cutBytes]
  | cons c cs ih =>
    by_cases hfit : c.utf8Size ≤ n
    · obtain ⟨hparts, hlength, hnext⟩ := ih (n - c.utf8Size)
      simp only [cutBytes, hfit, ↓reduceIte, List.cons_append, hparts, byteLength_cons, true_and]
      refine ⟨by omega, fun c' rest hrest => ?_⟩
      have := hnext c' rest hrest
      omega
    · simp only [cutBytes, hfit, ↓reduceIte, List.nil_append, byteLength_nil, true_and]
      refine ⟨Nat.zero_le n, fun c' rest hrest => ?_⟩
      obtain ⟨rfl, -⟩ := List.cons.inj hrest
      omega

/-- The buffer that a character is entered into has it between the two sides of the cursor. -/
theorem entered_eq (c : Char) (e : Editor) : e.entered c = String.ofList (e.before ++ c :: e.after) := by
  unfold entered
  split
  · rename_i hend
    have hcut : cutBytes e.cursor e.buffer.toList = (e.buffer.toList, []) := by
      rw [hend, ← String.ofList_toList (s := e.buffer), byteLength_ofList, String.toList_ofList]
      simpa using cutBytes_byteLength e.buffer.toList []
    rw [before, after, hcut, String.ofList_append, String.ofList_toList, ← String.singleton_eq_ofList,
      String.append_singleton]
  · rfl

/-- The text of an editor is `b ++ a`, and the cursor stands between the two. -/
structure At (e : Editor) (b a : List Char) : Prop where
  text : e.buffer.toList = b ++ a
  cursor : e.cursor = byteLength b

namespace At

theorem before_eq (h : e.At b a) : e.before = b := by
  rw [before, h.text, h.cursor, cutBytes_byteLength]

theorem after_eq (h : e.At b a) : e.after = a := by
  rw [after, h.text, h.cursor, cutBytes_byteLength]

theorem buffer_eq (h : e.At b a) : e.buffer = String.ofList (b ++ a) := by
  rw [← h.text, String.ofList_toList]

/-- The cursor stands in the text and between two of its characters. -/
theorem isValid (h : e.At b a) :
    e.cursor ≤ e.buffer.utf8ByteSize ∧ String.Pos.Raw.IsValid e.buffer ⟨e.cursor⟩ := by
  have hbuffer : e.buffer = String.ofList b ++ String.ofList a := by
    rw [h.buffer_eq, String.ofList_append]
  refine ⟨?_, String.Pos.Raw.isValid_iff_exists_append.2 ⟨_, _, hbuffer, ?_⟩⟩
  · rw [hbuffer, String.utf8ByteSize_append, byteLength_ofList, h.cursor]
    exact Nat.le_add_right ..
  · rw [h.cursor, ← byteLength_ofList]
    rfl

end At

end ChangeDesk.Editor

/-!
## Rows

The rows of a text. The pieces that end with a line feed tell where a row begins, so that the offset of a row
and a column can be read off a text that is cut at the beginning of that row.
-/

namespace ChangeDesk.Editor

variable {cs head rest : List Char} {e : Editor}

def inRow (c : Char) : Bool := c ≠ '\n'

/-- No row is open at the end of these characters. -/
def Ended (cs : List Char) : Prop := ∀ c, cs.getLast? = some c → c = '\n'

theorem Ended.of_cons {c : Char} (h : Ended (c :: cs)) : Ended cs := by
  intro d hd
  refine h d ?_
  rw [List.getLast?_cons, hd]
  rfl

theorem Ended.mem (h : Ended cs) (hne : cs ≠ []) : '\n' ∈ cs := by
  have hlast := h _ (List.getLast?_eq_some_getLast hne)
  rw [← hlast]
  exact List.getLast_mem hne

theorem ended_rdropWhile (cs : List Char) : Ended (cs.rdropWhile inRow) := by
  intro c hc
  have hne : cs.rdropWhile inRow ≠ [] := by
    rintro hnil
    simp [hnil] at hc
  have hlast := List.rdropWhile_last_not inRow cs hne
  rw [List.getLast?_eq_some_getLast hne, Option.some.injEq] at hc
  rw [hc] at hlast
  simpa [inRow] using hlast

theorem count_rtakeWhile (cs : List Char) : (cs.rtakeWhile inRow).count '\n' = 0 :=
  List.count_eq_zero.2 fun h => by simpa [inRow] using List.mem_rtakeWhile_imp h

theorem count_takeWhile (cs : List Char) : (cs.takeWhile inRow).count '\n' = 0 :=
  List.count_eq_zero.2 fun h => by simpa [inRow] using List.mem_takeWhile_imp h

/-- The rows before the one that is open at the end of a text, without the line feed behind them. -/
def rowsBefore (cs : List Char) : List Char := (cs.rdropWhile inRow).dropLast

/-- Where a row is open behind a line feed, there is a row before it. -/
theorem rowsBefore_append (h : '\n' ∈ cs) :
    rowsBefore cs ++ '\n' :: cs.rtakeWhile inRow = cs := by
  have hne : cs.rdropWhile inRow ≠ [] := by
    intro hnil
    have hrow := List.rdropWhile_eq_nil_iff.1 hnil '\n' h
    simp [inRow] at hrow
  have hlast := ended_rdropWhile cs _ (List.getLast?_eq_some_getLast hne)
  have hends : rowsBefore cs ++ ['\n'] = cs.rdropWhile inRow := by
    rw [← hlast, rowsBefore, List.dropLast_append_getLast hne]
  calc rowsBefore cs ++ '\n' :: cs.rtakeWhile inRow
      = (rowsBefore cs ++ ['\n']) ++ cs.rtakeWhile inRow := by simp
    _ = cs := by rw [hends, List.rdropWhile_append_rtakeWhile]

/-- The line feeds of a text are that behind the row before the open one and those of the rows before that. -/
theorem count_of_mem (h : '\n' ∈ cs) :
    cs.count '\n' = ((rowsBefore cs).rdropWhile inRow).count '\n' + 1 := by
  have hrows := congrArg (List.count '\n') (rowsBefore_append h)
  have hbefore := congrArg (List.count '\n') (List.rdropWhile_append_rtakeWhile (p := inRow) (l := rowsBefore cs))
  rw [List.count_append, List.count_cons_self, count_rtakeWhile] at hrows
  rw [List.count_append, count_rtakeWhile] at hbefore
  omega

/-- What stands up to a line feed, in a text that begins with a row. -/
theorem takeWhile_row (cs rest : List Char) :
    (cs.rtakeWhile inRow ++ '\n' :: rest).takeWhile inRow = cs.rtakeWhile inRow := by
  rw [List.takeWhile_append_of_pos fun c hc => List.mem_rtakeWhile_imp hc]
  simp [inRow]

/-- The rest of a text behind its first row is empty or begins with a line feed. -/
theorem eq_feed_of_dropWhile {feed : Char} {below : List Char}
    (h : cs.dropWhile inRow = feed :: below) : feed = '\n' := by
  have hfeed := List.head?_dropWhile_not inRow cs
  rw [h] at hfeed
  simpa [inRow] using hfeed

theorem exists_pieces (cs : List Char) : ∃ p ps, pieces cs = p :: ps := by
  cases cs with
  | nil => exact ⟨_, _, rfl⟩
  | cons c cs =>
    unfold pieces
    split
    · exact ⟨_, _, rfl⟩
    · split <;> exact ⟨_, _, rfl⟩

theorem pieces_cons {p : List Char} {ps : List (List Char)} (h : pieces cs = p :: ps) (c : Char) :
    pieces (c :: cs) = if c = '\n' then [c] :: p :: ps else (c :: p) :: ps := by
  rw [pieces, h]

/-- Ended rows are as many pieces as they have line feeds, and what follows is cut on its own. -/
theorem pieces_append (h : Ended head) (rest : List Char) :
    ((pieces (head ++ rest)).take (head.count '\n')).flatten = head ∧
      (pieces (head ++ rest)).drop (head.count '\n') = pieces rest := by
  induction head with
  | nil => simp
  | cons c head ih =>
    obtain ⟨htake, hdrop⟩ := ih h.of_cons
    obtain ⟨p, ps, hpieces⟩ := exists_pieces (head ++ rest)
    rw [hpieces] at htake hdrop
    rw [List.cons_append, pieces_cons hpieces]
    by_cases hc : c = '\n'
    · subst hc
      simp [htake, hdrop]
    · -- The row that `c` begins is not ended yet, so it goes on in `head`.
      have hne : head ≠ [] := by
        rintro rfl
        exact hc (h c rfl)
      obtain ⟨k, hk⟩ := Nat.exists_eq_add_one.2 (List.count_pos_iff.2 (h.of_cons.mem hne))
      simp only [List.count_cons_of_ne hc, hc, ↓reduceIte]
      rw [hk, List.take_succ_cons, List.flatten_cons] at htake ⊢
      rw [hk, List.drop_succ_cons] at hdrop
      rw [List.cons_append, htake, List.drop_succ_cons]
      exact ⟨rfl, hdrop⟩

/-- The first piece without its line feed is the first row. -/
theorem filter_head_pieces (cs : List Char) :
    ((pieces cs).headD []).filter (· ≠ '\n') = cs.takeWhile inRow := by
  induction cs with
  | nil => rfl
  | cons c cs ih =>
    obtain ⟨p, ps, hpieces⟩ := exists_pieces cs
    rw [hpieces, List.headD_cons] at ih
    rw [pieces_cons hpieces]
    by_cases hc : c = '\n'
    · simp [hc, inRow]
    · rw [if_neg hc, List.headD_cons, List.filter_cons_of_pos (by simpa using hc), ih,
        List.takeWhile_cons_of_pos (by simpa [inRow] using hc)]

/-- The offset in a row that begins behind `head`. -/
theorem offsetOf_eq (ht : e.buffer.toList = head ++ rest) (h : Ended head) (column : Nat) :
    e.offsetOf (head.count '\n') column =
      byteLength (head ++ (rest.takeWhile inRow).take column) := by
  obtain ⟨htake, hdrop⟩ := pieces_append h rest
  rw [offsetOf, ht, htake, hdrop, filter_head_pieces, byteLength_append]

end ChangeDesk.Editor
