import ChangeDesk.Proofs.Desk.Effect
import ChangeDesk.Proofs.Inflight

/-!
What the steps of a reaction leave alone: a change of the view concerns the view, choosing a card only the
draft, entering a stage everything but the draft, and issuing a job only the tokens.
-/
namespace ChangeDesk

namespace Draft

variable {d d' : Draft}

@[simp] theorem setText_submitting (name text : String) :
    (d.setText name text).submitting = d.submitting := setField_submitting _

theorem choose_stage (d : Draft) (s : Integration) : (d.choose s).stage = d.stage := by
  simp [choose, setText]

@[simp] theorem choose_submitting (s : Integration) : (d.choose s).submitting = d.submitting := by
  simp [choose]

theorem Moves.submitting (h : d.Moves d') : d'.submitting = d.submitting := by rw [h.eq]

end Draft

namespace Desk

variable {d d' : Desk} {r : Reaction}

@[simp] theorem quiet_fst : d.quiet.1 = d := rfl

@[simp] theorem quiet_snd : d.quiet.2 = none := rfl

@[simp] theorem issue_draft (job : Job) : (d.issue job).1.draft = d.draft := rfl

@[simp] theorem issue_exit (job : Job) : (d.issue job).1.exit = d.exit := rfl

@[simp] theorem issue_inflight (job : Job) :
    (d.issue job).1.inflight = (d.inflight.issue job.kind).2 := rfl

@[simp] theorem issue_snd (job : Job) :
    (d.issue job).2 = some ⟨(d.inflight.issue job.kind).1, job⟩ := rfl

@[simp] theorem resetTyping_draft : d.resetTyping.draft = d.draft := rfl

theorem Glance.draft (h : Glance d d') : d'.draft = d.draft := by cases h <;> rfl

theorem Glance.inflight (h : Glance d d') : d'.inflight = d.inflight := by cases h <;> rfl

theorem Glance.exit (h : Glance d d') : d'.exit = d.exit := by cases h <;> rfl

theorem Picked.inflight (h : Picked d d') : d'.inflight = d.inflight := by cases h <;> rfl

theorem Picked.exit (h : Picked d d') : d'.exit = d.exit := by cases h <;> rfl

theorem Picked.submitting (h : Picked d d') : d'.draft.submitting = d.draft.submitting := by
  cases h with
  | none => rfl
  | card s hs hc => exact Draft.choose_submitting s

theorem Entry.draft (h : Entry d r) : r.1.draft = d.draft := by cases h <;> rfl

theorem submit_of_beginSubmit {clock : Clock} {request : ChangeRequest} {draft : Draft}
    (h : d.draft.beginSubmit = .ok (request, draft)) :
    ∃ session, d.submit clock = issue (.submit request)
      { d with
        draft := draft, session := session, lastAttempt := some clock.wall, refusal := none } := by
  simp only [submit, h]
  exact ⟨_, rfl⟩

/-- A submission is begun on review, and marks the draft. -/
theorem submit_of_begun {clock : Clock} {request : ChangeRequest} {draft : Draft}
    (h : d.draft.beginSubmit = .ok (request, draft)) :
    d.draft.stage = .review ∧ ∃ session, d.submit clock = issue (.submit request)
      { d with
        draft := { d.draft with submitting := true }
        session := session, lastAttempt := some clock.wall, refusal := none } := by
  obtain ⟨session, hsubmit⟩ := submit_of_beginSubmit h
  obtain ⟨hs, -, -, -, -, rfl⟩ := Draft.beginSubmit_eq_ok.1 h
  exact ⟨hs, session, hsubmit⟩

theorem confirmEdit_inflight (e : Editor) : (d.confirmEdit e).inflight = d.inflight := by
  unfold confirmEdit
  split <;> rfl

theorem confirmEdit_exit (e : Editor) : (d.confirmEdit e).exit = d.exit := by
  unfold confirmEdit
  split <;> rfl

/-- Confirming an edit puts it in the place of the first file of its path. -/
theorem confirmEdit_draft {e : Editor} (hw : e.readOnly = false) :
    (d.confirmEdit e).draft = { d.draft with files := Draft.replaceFirst e.confirmed d.draft.files } := by
  simp only [confirmEdit, Editor.confirm, hw, Bool.false_eq_true, ↓reduceIte]
  exact Draft.replaceFile_snd e.confirmed

/-- A completion that does not count changes nothing. -/
theorem react_stale {c : Completion} (hc : d.inflight.isCurrent c.token = false) :
    d.react (.completion c) = quiet d := by
  simp [react, deliver, Inflight.settle, hc]

/-- A preview of the current values that counts brings its files. -/
theorem react_preview {c : Completion} {files : List ChangedFile}
    (hc : d.inflight.isCurrent c.token = true)
    (ha : c.answer = .preview d.draft.fingerprint (.ok files)) :
    d.react (.completion c) = quiet { d with
      inflight := d.inflight.cancel c.token.kind
      draft := { d.draft with files := files, previewed := some d.draft.fingerprint }
      editor := none, selectedFile := 0, scroll := 0 } := by
  simp [react, deliver, Inflight.settle, hc, ha, takeAnswer, takePreview, Draft.applyPreview]

theorem exit_react_preview {c : Completion} {files : List ChangedFile}
    (hc : d.inflight.isCurrent c.token = true)
    (ha : c.answer = .preview d.draft.fingerprint (.ok files)) :
    (d.react (.completion c)).1.exit = d.exit := by
  rw [react_preview hc ha, quiet_fst]

theorem files_react_preview {c : Completion} {files : List ChangedFile}
    (hc : d.inflight.isCurrent c.token = true)
    (ha : c.answer = .preview d.draft.fingerprint (.ok files)) :
    (d.react (.completion c)).1.draft.files = files := by
  rw [react_preview hc ha, quiet_fst]

/-- The key of the current or an earlier stage enters it. -/
theorem react_stageOfKey {k : Key} {stage : Stage} (hk : stageOfKey? k.code = some stage) (clock : Clock)
    (hh : d.helpOpen = false) (hle : stage.index ≤ d.draft.stage.index) : d.react (.key k clock) =
      enterStage { d with draft := { d.draft with stage := stage }, refusal := none } := by
  have hinterrupt : k ≠ ⟨.char 'c', true⟩ := by
    rintro rfl
    cases hk
  have hnotice : ¬ (d.notice.isSome = true ∧ k.code = .escape) := by
    rintro ⟨-, hescape⟩
    rw [hescape] at hk
    cases hk
  simp [react, press, hinterrupt, hh, hnotice, hk, jumpTo, Draft.goTo_of_le hle, moved]

/-- The keys that submit do so. -/
theorem react_submits {k : Key} (h : d.Submits k) (clock : Clock) :
    d.react (.key k clock) = d.submit clock := by
  obtain ⟨code, ctrl⟩ := k
  cases h with
  | files hk hs hf he hh =>
    obtain rfl : code = .char 'S' := hk
    simp [react, press, hh, he, stageOfKey?, stageKey, hs, hf, filesKey]
  | justification hk hs hf he hh =>
    obtain rfl : code = .enter := hk
    simp [react, press, hh, he, stageOfKey?, stageKey, hs, hf, justificationKey]

/-- The key that asks for the files anew. -/
theorem react_regenerate {clock : Clock} (hh : d.helpOpen = false) (he : d.editor = none)
    (hs : d.draft.stage = .review) (hf : d.reviewFocus = .files) :
    d.react (.key ⟨.char 'R', false⟩ clock) = d.requestPreview := by
  simp [react, press, hh, he, stageOfKey?, stageKey, hs, hf, filesKey]

end Desk

end ChangeDesk
