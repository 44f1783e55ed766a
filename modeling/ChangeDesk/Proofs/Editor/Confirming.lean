import ChangeDesk.Editor
import ChangeDesk.Proofs.Diff.Unified
import Mathlib.Algebra.GroupWithZero.Nat

/-!
The file of an editor over a run of actions. It is the one that was confirmed last and differs from the file
that was opened in nothing but its body and its number of added lines; what is open for reading only stays as
it is.
-/
namespace ChangeDesk

namespace Diff

/-- What is added are lines of the new text. -/
theorem addedCount_le (previous current : String) :
    addedCount (lines previous current) ≤ (splitLines current).length := by
  have hnew : ∀ l : DiffLine, l.isAdded = true → l.newEntry?.isSome = true := by
    intro l h
    cases l with
    | added => rfl
    | context | removed => exact absurd h Bool.false_ne_true
  have hentries : (lines previous current).filterMap DiffLine.newEntry? =
      numbered 0 (splitLines current) := by
    rw [lines, newEntries_listLines, List.nil_append, (leads_compact_script _ _).new_eq]
  calc addedCount (lines previous current)
      ≤ (lines previous current).countP fun l => l.newEntry?.isSome :=
        List.countP_mono_left fun l _ => hnew l
    _ = (numbered 0 (splitLines current)).length := by
        rw [← hentries, List.length_filterMap_eq_countP]
    _ = (splitLines current).length := by simp [numbered]

end Diff

namespace Editor

/-- Nothing but confirming changes more of an editor than its buffer and its cursor. -/
theorem act_eq (e : Editor) {a : Action} (ha : a ≠ .confirm) :
    ∃ buffer cursor, e.act a = { e with buffer := buffer, cursor := cursor } := by
  cases a with
  | confirm => exact absurd rfl ha
  | home | stop | revert => exact ⟨_, _, rfl⟩
  | insert c => simp only [act, insert]; split <;> exact ⟨_, _, rfl⟩
  | newline => simp only [act, newline, insert]; split <;> exact ⟨_, _, rfl⟩
  | delete => simp only [act, delete]; split <;> exact ⟨_, _, rfl⟩
  | setBuffer text => simp only [act, setBuffer]; split <;> exact ⟨_, _, rfl⟩
  | backspace => simp only [act, backspace]; split <;> [exact ⟨_, _, rfl⟩; split <;> exact ⟨_, _, rfl⟩]
  | left => simp only [act, left]; split <;> exact ⟨_, _, rfl⟩
  | right => simp only [act, right]; split <;> exact ⟨_, _, rfl⟩
  | up => simp only [act, up]; split <;> exact ⟨_, _, rfl⟩
  | down => simp only [act, down]; split <;> exact ⟨_, _, rfl⟩

theorem act_readOnly (e : Editor) (a : Action) : (e.act a).readOnly = e.readOnly := by
  by_cases ha : a = .confirm
  · subst ha
    simp only [act, confirm]
    split <;> rfl
  · obtain ⟨buffer, cursor, he⟩ := e.act_eq ha
    rw [he]

def handedOver? (e : Editor) : Action → Option ChangedFile
  | .confirm => e.confirm.1
  | _ => none

def handedOver (e : Editor) : List Action → List ChangedFile
  | [] => []
  | a :: rest => (e.handedOver? a).toList ++ (e.act a).handedOver rest

variable {file : ChangedFile} {readOnly : Bool} {e : Editor} {a : Action}

theorem handedOver?_eq_none (ha : a ≠ .confirm) : e.handedOver? a = none := by
  cases a <;> first | rfl | exact absurd rfl ha

theorem act_file (e : Editor) (a : Action) : (e.act a).file = (e.handedOver? a).getD e.file := by
  by_cases ha : a = .confirm
  · subst ha
    simp only [act, handedOver?, confirm]
    split <;> rfl
  · obtain ⟨buffer, cursor, he⟩ := e.act_eq ha
    rw [he, handedOver?_eq_none ha]
    rfl

theorem run_file (e : Editor) (actions : List Action) :
    (e.run actions).file = (e.handedOver actions).getLast?.getD e.file := by
  induction actions generalizing e with
  | nil => rfl
  | cons a rest ih =>
    have hrest := ih (e.act a)
    rw [act_file] at hrest
    rw [handedOver, List.getLast?_append, Option.getD_or]
    refine hrest.trans ?_
    cases e.handedOver? a <;> rfl

structure OpenedWith (file : ChangedFile) (readOnly : Bool) (e : Editor) : Prop where
  mode : e.readOnly = readOnly
  file_eq : e.file = { file with body := e.file.body, additions := e.file.additions }
  reading : readOnly = true → e.file = file ∧ e.buffer = file.body

theorem openedWith_openFile (file : ChangedFile) (readOnly : Bool) :
    OpenedWith file readOnly (openFile file readOnly) :=
  ⟨rfl, rfl, fun _ => ⟨rfl, rfl⟩⟩

/-- Confirmation takes everything but the body and the number of added lines from the file. -/
theorem confirmed_eq (h : OpenedWith file readOnly e) :
    e.confirmed = { file with body := e.buffer, additions := e.confirmed.additions } := by
  rw [confirmed, h.file_eq]

/-- An editor for reading only keeps its buffer, or takes it from its file. -/
theorem act_buffer (hr : e.readOnly = true) (hb : e.buffer = e.file.body) (a : Action) :
    (e.act a).buffer = e.buffer := by
  cases a with
  | revert => exact hb.symm
  | home | stop => rfl
  | insert c => simp [act, insert, hr]
  | newline => simp [act, newline, insert, hr]
  | backspace => simp [act, backspace, hr]
  | delete => simp [act, delete, hr]
  | setBuffer text => simp [act, setBuffer, hr]
  | confirm => simp [act, confirm, hr]
  | left => simp only [act, left]; split <;> rfl
  | right => simp only [act, right]; split <;> rfl
  | up => simp only [act, up]; split <;> rfl
  | down => simp only [act, down]; split <;> rfl

theorem confirm_of_readOnly (hr : e.readOnly = true) : e.confirm = (none, e) := by
  rw [confirm, if_pos hr]

theorem confirm_of_editable (hr : e.readOnly = false) :
    e.confirm = (some e.confirmed, { e with file := e.confirmed }) := by
  rw [confirm, hr]
  rfl

theorem handedOver?_of_readOnly (hr : e.readOnly = true) (a : Action) : e.handedOver? a = none := by
  by_cases ha : a = .confirm
  · rw [ha, handedOver?, confirm_of_readOnly hr]
  · exact handedOver?_eq_none ha

theorem OpenedWith.act (h : OpenedWith file readOnly e) (a : Action) :
    OpenedWith file readOnly (e.act a) where
  mode := (act_readOnly e a).trans h.mode
  file_eq := by
    by_cases ha : a = .confirm
    · subst ha
      cases hr : e.readOnly with
      | true => simpa only [Editor.act, confirm_of_readOnly hr] using h.file_eq
      | false =>
        simp only [Editor.act, confirm_of_editable hr]
        exact confirmed_eq h
    · obtain ⟨buffer, cursor, he⟩ := e.act_eq ha
      rw [he]
      exact h.file_eq
  reading := by
    intro hro
    have hr := h.mode.trans hro
    obtain ⟨hfile, hbuffer⟩ := h.reading hro
    refine ⟨?_, (act_buffer hr (by rw [hfile, hbuffer]) a).trans hbuffer⟩
    rw [act_file, handedOver?_of_readOnly hr]
    exact hfile

theorem OpenedWith.run (h : OpenedWith file readOnly e) (actions : List Action) :
    OpenedWith file readOnly (e.run actions) := by
  induction actions generalizing e with
  | nil => exact h
  | cons a rest ih => exact ih (h.act a)

theorem OpenedWith.hasChanged (h : OpenedWith file readOnly e) (hro : readOnly = true) :
    e.hasChanged = false := by
  obtain ⟨hfile, hbuffer⟩ := h.reading hro
  simp [Editor.hasChanged, hfile, hbuffer]

theorem hasChanged_revert (e : Editor) : e.revert.hasChanged = false := by
  simp [Editor.hasChanged, revert]

theorem OpenedWith.hasChanged_confirm (h : OpenedWith file readOnly e) :
    (e.act .confirm).hasChanged = false := by
  cases hr : e.readOnly with
  | true => exact (h.act .confirm).hasChanged (h.mode.symm.trans hr)
  | false => simp [Editor.act, confirm_of_editable hr, Editor.hasChanged, confirmed]

/-- The number of added lines in a confirmed file is counted up to what its type holds. -/
theorem additions_confirmed (e : Editor) :
    e.confirmed.additions.toNat =
      Diff.addedCount (Diff.lines e.confirmed.previousBody e.confirmed.body) % 2 ^ 32 := rfl

/-- Through any actions an editor's file is the one handed over last, and the one opened as long as none was;
only the body and the number of added lines are not those of the file opened. Nothing is unconfirmed behind a
confirmation or a reversion. An editable file is handed over with the buffer and the number of lines that it
adds; one for reading only stays as it is and is never handed over. -/
theorem file_of_run (file : ChangedFile) (readOnly : Bool) (actions : List Action) :
    let e := (openFile file readOnly).run actions
    e.file = ((openFile file readOnly).handedOver actions).getLast?.getD file ∧
    e.file = { file with body := e.file.body, additions := e.file.additions } ∧
    (e.act .confirm).hasChanged = false ∧ (e.act .revert).hasChanged = false ∧
    (readOnly = false → ∃ g, e.confirm.1 = some g ∧
      g = { file with body := e.buffer, additions := g.additions } ∧
      g.additions.toNat = Diff.addedCount (Diff.lines g.previousBody g.body) % 2 ^ 32 ∧
      ((Diff.splitLines g.body).length < 2 ^ 32 →
        g.additions.toNat = Diff.addedCount (Diff.lines g.previousBody g.body))) ∧
    (readOnly = true →
      e.buffer = file.body ∧ e.hasChanged = false ∧ e.file = file ∧ e.confirm.1 = none) := by
  intro e
  have hrun : OpenedWith file readOnly e := (openedWith_openFile file readOnly).run actions
  refine ⟨run_file _ actions, hrun.file_eq, hrun.hasChanged_confirm, hasChanged_revert e, ?_, ?_⟩
  · intro hro
    refine ⟨e.confirmed, ?_, confirmed_eq hrun, additions_confirmed e, fun hlines => ?_⟩
    · rw [confirm_of_editable (hrun.mode.trans hro)]
    · rw [additions_confirmed, Nat.mod_eq_of_lt]
      exact (Diff.addedCount_le _ _).trans_lt hlines
  · intro hro
    obtain ⟨hfile, hbuffer⟩ := hrun.reading hro
    refine ⟨hbuffer, hrun.hasChanged hro, hfile, ?_⟩
    rw [confirm_of_readOnly (hrun.mode.trans hro)]

/-- Two confirmations of one file: the second is the one that stays, and a line entered after it is taken
back. The same actions leave the file as it is where it is open for reading only. -/
theorem file_of_run_sample :
    let file : ChangedFile := ⟨"roles.yaml", none, "a\nb\n", "a\nb\n", 0⟩
    let actions : List Action :=
      [.insert 'x', .confirm, .setBuffer "a\nc\nd", .up, .confirm, .newline, .revert]
    let e := (openFile file false).run actions
    (e.file = ⟨"roles.yaml", none, "a\nb\n", "a\nc\nd", 2⟩ ∧ e.confirm.1 = some e.file ∧
      e.file.additions.toNat = Diff.addedCount (Diff.lines e.file.previousBody e.file.body)) ∧
    ((openFile file true).run actions).file = file := by
  intro file actions e
  have hfile : e.file = ⟨"roles.yaml", none, "a\nb\n", "a\nc\nd", 2⟩ :=
    (file_of_run file false actions).1.trans (by decide +kernel)
  obtain ⟨g, hg, -, -, hcount⟩ := (file_of_run file false actions).2.2.2.2.1 rfl
  obtain rfl : g = e.file := by
    rw [hfile]
    exact Option.some.inj (hg.symm.trans (by decide +kernel))
  exact ⟨⟨hfile, hg, hcount (by decide +kernel)⟩,
    ((file_of_run file true actions).2.2.2.2.2 rfl).2.2.1⟩

end Editor

end ChangeDesk
