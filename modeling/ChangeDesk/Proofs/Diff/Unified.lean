import ChangeDesk.Diff
import ChangeDesk.Proofs.Diff.Compaction
import ChangeDesk.Proofs.Diff.Lines

/-!
The line diff is a unified script of its two texts. Read by their old numbers its entries are the lines of
the old text in order, read by their new numbers those of the new one; what is kept is the same line on both
sides, and between two kept lines nothing is added before the last removed line.
-/
namespace ChangeDesk

def DiffLine.oldEntry? (e : DiffLine) : Option (Nat × String) := e.oldLine?.map (·, e.text)

def DiffLine.newEntry? (e : DiffLine) : Option (Nat × String) := e.newLine?.map (·, e.text)

namespace Diff

def numbered (i : Nat) (ls : List String) : List (Nat × String) :=
  ls.zipIdx.map (fun (l, n) => (i + n + 1, lineText l))

theorem numbered_append (i : Nat) (ls ms : List String) :
    numbered i (ls ++ ms) = numbered i ls ++ numbered (i + ls.length) ms := by
  simp only [numbered, List.zipIdx_append, List.map_append]
  congr 1
  rw [Nat.zero_add, List.zipIdx_eq_map_add]
  simp [Function.comp_def, Nat.add_assoc]

theorem oldEntries_changedLines (i j : Nat) (removed added : List String) :
    (changedLines i j removed added).filterMap DiffLine.oldEntry? = numbered i removed := by
  simp [changedLines, numbered, List.filterMap_append, List.filterMap_map, Function.comp_def,
    DiffLine.oldEntry?, DiffLine.oldLine?, DiffLine.text]

theorem newEntries_changedLines (i j : Nat) (removed added : List String) :
    (changedLines i j removed added).filterMap DiffLine.newEntry? = numbered j added := by
  simp [changedLines, numbered, List.filterMap_append, List.filterMap_map, Function.comp_def,
    DiffLine.newEntry?, DiffLine.newLine?, DiffLine.text]

theorem oldEntries_keptLines (i j : Nat) (kept : List String) :
    (keptLines i j kept).filterMap DiffLine.oldEntry? = numbered i kept := by
  simp [keptLines, numbered, List.filterMap_map, Function.comp_def, DiffLine.oldEntry?,
    DiffLine.oldLine?, DiffLine.text]

theorem newEntries_keptLines (i j : Nat) (kept : List String) :
    (keptLines i j kept).filterMap DiffLine.newEntry? = numbered j kept := by
  simp [keptLines, numbered, List.filterMap_map, Function.comp_def, DiffLine.newEntry?,
    DiffLine.newLine?, DiffLine.text]

theorem oldEntries_listLines (i j : Nat) (removed added : List String) (s : Script String) :
    (listLines i j removed added s).filterMap DiffLine.oldEntry? =
      numbered i (removed ++ s.old) := by
  fun_induction listLines i j removed added s with
  | case1 => simp [oldEntries_changedLines]
  | case2 i j removed added l rest i' j' ih =>
    simp only [List.filterMap_append, oldEntries_changedLines, oldEntries_keptLines, ih,
      Script.old_cons, Run.old, numbered_append, List.nil_append, List.append_assoc]
    rfl
  | case3 i j removed added l rest ih => simpa [Run.old] using ih
  | case4 i j removed added l rest ih => simpa [Run.old] using ih

theorem newEntries_listLines (i j : Nat) (removed added : List String) (s : Script String) :
    (listLines i j removed added s).filterMap DiffLine.newEntry? =
      numbered j (added ++ s.new) := by
  fun_induction listLines i j removed added s with
  | case1 => simp [newEntries_changedLines]
  | case2 i j removed added l rest i' j' ih =>
    simp only [List.filterMap_append, newEntries_changedLines, newEntries_keptLines, ih,
      Script.new_cons, Run.new, numbered_append, List.nil_append, List.append_assoc]
    rfl
  | case3 i j removed added l rest ih => simpa [Run.new] using ih
  | case4 i j removed added l rest ih => simpa [Run.new] using ih

theorem context_not_mem_changedLines (i j : Nat) (removed added : List String) (a b : Nat)
    (t : String) : .context a b t ∉ changedLines i j removed added := by
  simp [changedLines]

theorem mem_keptLines {i j a b : Nat} {kept : List String} {t : String}
    (h : .context a b t ∈ keptLines i j kept) :
    ∃ n l, kept[n]? = some l ∧ a = i + n + 1 ∧ b = j + n + 1 := by
  obtain ⟨⟨l, n⟩, hmem, he⟩ := List.mem_map.mp h
  simp only [DiffLine.context.injEq] at he
  exact ⟨n, l, List.mk_mem_zipIdx_iff_getElem?.mp hmem, he.1.symm, he.2.1.symm⟩

theorem getElem?_behind (xs ys : List String) (n : Nat) : (xs ++ ys)[xs.length + n]? = ys[n]? := by
  rw [List.getElem?_append_right (Nat.le_add_right _ _), Nat.add_sub_cancel_left]

/-- A kept entry points to the same line on both sides. -/
theorem context_of_mem_listLines {i j a b : Nat} {removed added : List String} {s : Script String}
    {t : String} (h : .context a b t ∈ listLines i j removed added s) :
    ∃ m n l, (removed ++ s.old)[m]? = some l ∧ (added ++ s.new)[n]? = some l ∧
      a = i + m + 1 ∧ b = j + n + 1 := by
  fun_induction listLines i j removed added s with
  | case1 i j removed added => exact absurd h (context_not_mem_changedLines _ _ _ _ _ _ _)
  | case2 i j removed added l rest i' j' ih =>
    rcases List.mem_append.mp h with h | h
    · rcases List.mem_append.mp h with h | h
      · exact absurd h (context_not_mem_changedLines _ _ _ _ _ _ _)
      · obtain ⟨n, x, hx, ha, hb⟩ := mem_keptLines h
        have hn := (List.getElem?_eq_some_iff.mp hx).1
        refine ⟨removed.length + n, added.length + n, x, ?_, ?_, by omega, by omega⟩
        · rw [Script.old_cons, getElem?_behind, Run.old, List.getElem?_append_left hn, hx]
        · rw [Script.new_cons, getElem?_behind, Run.new, List.getElem?_append_left hn, hx]
    · obtain ⟨m, n, x, hm, hn, ha, hb⟩ := ih h
      refine ⟨removed.length + (l.length + m), added.length + (l.length + n), x, ?_, ?_, by omega,
        by omega⟩
      · rwa [Script.old_cons, getElem?_behind, Run.old, getElem?_behind]
      · rwa [Script.new_cons, getElem?_behind, Run.new, getElem?_behind]
  | case3 i j removed added l rest ih => simpa [Run.old, Run.new] using ih h
  | case4 i j removed added l rest ih => simpa [Run.old, Run.new] using ih h

/-- No removed entry stands behind an added one without a kept one between them; `seen` tells whether an
added entry stands in front. -/
def RemovedFirst : Bool → List DiffLine → Prop
  | _, [] => True
  | _, .context _ _ _ :: rest => RemovedFirst false rest
  | seen, .removed _ _ :: rest => seen = false ∧ RemovedFirst seen rest
  | _, .added _ _ :: rest => RemovedFirst true rest

theorem removedFirst_of_append {seen : Bool} {ls ms : List DiffLine}
    (h : RemovedFirst seen (ls ++ ms)) : ∃ seen, RemovedFirst seen ms := by
  induction ls generalizing seen with
  | nil => exact ⟨seen, h⟩
  | cons e ls ih =>
    cases e with
    | context => exact ih h
    | removed => exact ih h.2
    | added => exact ih h

theorem exists_context_between {i : Nat} {t : String} {between after : List DiffLine}
    (h : RemovedFirst true (between ++ .removed i t :: after)) :
    ∃ a b u, .context a b u ∈ between := by
  induction between with
  | nil => exact absurd h.1 (by simp)
  | cons e between ih =>
    cases e with
    | context a b u => exact ⟨a, b, u, List.mem_cons_self⟩
    | removed => exact absurd h.1 (by simp)
    | added =>
      obtain ⟨a, b, u, hu⟩ := ih h
      exact ⟨a, b, u, List.mem_cons_of_mem _ hu⟩

theorem removedFirst_added {ls : List DiffLine} (h : ∀ seen, RemovedFirst seen ls) (seen : Bool)
    (es : List (String × Nat)) (f : String × Nat → Nat × String) :
    RemovedFirst seen (es.map (fun e => .added (f e).1 (f e).2) ++ ls) := by
  induction es generalizing seen with
  | nil => exact h seen
  | cons e es ih => exact ih true

theorem removedFirst_removed {ls : List DiffLine} (h : RemovedFirst false ls)
    (es : List (String × Nat)) (f : String × Nat → Nat × String) :
    RemovedFirst false (es.map (fun e => .removed (f e).1 (f e).2) ++ ls) := by
  induction es with
  | nil => exact h
  | cons e es ih => exact ⟨rfl, ih⟩

theorem removedFirst_changedLines {ls : List DiffLine} (h : ∀ seen, RemovedFirst seen ls)
    (i j : Nat) (removed added : List String) :
    RemovedFirst false (changedLines i j removed added ++ ls) := by
  rw [changedLines, List.append_assoc]
  exact removedFirst_removed (removedFirst_added h false _ (fun e => (j + e.2 + 1, lineText e.1)))
    _ (fun e => (i + e.2 + 1, lineText e.1))

theorem removedFirst_keptLines {ls : List DiffLine} (h : RemovedFirst false ls) (i j : Nat)
    {kept : List String} (hne : kept ≠ []) (seen : Bool) :
    RemovedFirst seen (keptLines i j kept ++ ls) := by
  have more : ∀ es : List (String × Nat), RemovedFirst false
      (es.map (fun e => .context (i + e.2 + 1) (j + e.2 + 1) (lineText e.1)) ++ ls) := by
    intro es
    induction es with
    | nil => exact h
    | cons e es ih => exact ih
  cases kept with
  | nil => exact absurd rfl hne
  | cons l kept => exact more _

theorem removedFirst_listLines (i j : Nat) (removed added : List String) (s : Script String)
    (h : s.Solid) : RemovedFirst false (listLines i j removed added s) := by
  fun_induction listLines i j removed added s with
  | case1 i j removed added =>
    have hnil : ∀ seen, RemovedFirst seen [] := fun _ => trivial
    simpa using removedFirst_changedLines hnil i j removed added
  | case2 i j removed added l rest i' j' ih =>
    simp only [Script.solid_cons, ne_eq, Run.keep.injEq] at h
    rw [List.append_assoc]
    exact removedFirst_changedLines (removedFirst_keptLines (ih h.2) i' j' h.1) i j removed added
  | case3 i j removed added l rest ih => exact ih (Script.solid_cons _ _ |>.mp h).2
  | case4 i j removed added l rest ih => exact ih (Script.solid_cons _ _ |>.mp h).2

structure Unified (old new : List TextLine) (entries : List DiffLine) : Prop where
  old_side : entries.filterMap DiffLine.oldEntry? =
    old.zipIdx.map (fun (l, n) => (n + 1, String.ofList l.body))
  new_side : entries.filterMap DiffLine.newEntry? =
    new.zipIdx.map (fun (l, n) => (n + 1, String.ofList l.body))
  old_number : ∀ e ∈ entries, e.oldLine? = none ↔ e.isAdded = true
  new_number : ∀ e ∈ entries, e.newLine? = none ↔ e.isRemoved = true
  same_line : ∀ a b t, .context a b t ∈ entries →
    ∃ m n l, old[m]? = some l ∧ new[n]? = some l ∧ a = m + 1 ∧ b = n + 1
  removed_first : ∀ before between after j t i u,
    entries = before ++ .added j t :: (between ++ .removed i u :: after) →
      ∃ a b v, .context a b v ∈ between

theorem numbered_textLines {ls : List TextLine} (h : ∀ l ∈ ls, l.Proper) :
    numbered 0 (ls.map (fun l => String.ofList l.chars)) =
      ls.zipIdx.map (fun (l, n) => (n + 1, String.ofList l.body)) := by
  rw [numbered, List.zipIdx_map, List.map_map]
  apply List.map_congr_left
  rintro ⟨l, n⟩ hl
  have hp := h l (List.fst_mem_of_mem_zipIdx hl)
  simp [lineText_chars hp]

/-- A solid script from the one list of lines to the other is listed as a unified script. -/
theorem unified_listLines {old new : List TextLine} {olds news : List String} {s : Script String}
    (h : Leads s olds news) (hold : ∀ l ∈ old, l.Proper) (hnew : ∀ l ∈ new, l.Proper)
    (holds : olds = old.map (fun l => String.ofList l.chars))
    (hnews : news = new.map (fun l => String.ofList l.chars)) :
    Unified old new (listLines 0 0 [] [] s) where
  old_side := by
    rw [oldEntries_listLines, h.old_eq, List.nil_append, holds, numbered_textLines hold]
  new_side := by
    rw [newEntries_listLines, h.new_eq, List.nil_append, hnews, numbered_textLines hnew]
  old_number := by
    intro e _
    cases e <;> simp [DiffLine.oldLine?, DiffLine.isAdded]
  new_number := by
    intro e _
    cases e <;> simp [DiffLine.newLine?, DiffLine.isRemoved]
  same_line := by
    intro a b t hmem
    obtain ⟨m, n, x, hm, hn, ha, hb⟩ := context_of_mem_listLines hmem
    rw [h.old_eq, List.nil_append, holds, List.getElem?_map, Option.map_eq_some_iff] at hm
    rw [h.new_eq, List.nil_append, hnews, List.getElem?_map, Option.map_eq_some_iff] at hn
    obtain ⟨l, hl, hx⟩ := hm
    obtain ⟨l', hl', hx'⟩ := hn
    have he : l = l' := by
      apply eq_of_chars_eq (hold l (List.mem_of_getElem? hl)) (hnew l' (List.mem_of_getElem? hl'))
      exact String.ofList_injective (hx.trans hx'.symm)
    exact ⟨m, n, l, hl, he ▸ hl', by omega, by omega⟩
  removed_first := by
    intro before between after j t i u he
    have hfirst := removedFirst_listLines 0 0 [] [] s h.solid
    rw [he] at hfirst
    obtain ⟨seen, hrest⟩ := removedFirst_of_append hfirst
    exact exists_context_between hrest

/-- The line diff of two texts is a unified script of their lines. -/
theorem lines_unified (previous current : String) :
    ∃ old new : List TextLine,
      HasLines previous.toList old ∧ old.flatMap TextLine.chars = previous.toList ∧
      HasLines current.toList new ∧ new.flatMap TextLine.chars = current.toList ∧
      Unified old new (lines previous current) := by
  obtain ⟨old, hold, hsplit⟩ := hasLines_splitLines previous
  obtain ⟨new, hnew, hsplit'⟩ := hasLines_splitLines current
  have hs := leads_compact_script (splitLines previous) (splitLines current)
  have hunified := unified_listLines hs (proper_of_hasLines hold) (proper_of_hasLines hnew) hsplit
    hsplit'
  exact ⟨old, new, hold, flatMap_chars_of_hasLines hold, hnew, flatMap_chars_of_hasLines hnew,
    hunified⟩

end Diff

end ChangeDesk
