import ChangeDesk.Proofs.Desk.UnderWay
import ChangeDesk.Proofs.Draft.Slots

/-!
The open editor and the files of the draft. Whatever comes in while an editor is open, the editor shows the
selected file of a previewed draft on review, or it is closed; so a confirmed edit always finds its file.
-/
namespace ChangeDesk

namespace Desk

variable {d d' : Desk} {r : Reaction} {e : Editor}

inductive Accepts (d : Desk) : Event → Prop where
  | receipt {c : Completion} {receipt : Receipt} (hc : d.inflight.isCurrent c.token = true)
      (ha : c.answer = .submit (.ok receipt)) : Accepts d (.completion c)

theorem Accepts.exit {ev : Event} (h : d.Accepts ev) : (d.react ev).1.exit ≠ none := by
  cases h with
  | receipt hc ha => simp [react, deliver, Inflight.settle, hc, ha, takeAnswer, takeReceipt, quit]

theorem confirmEdit_eq (hw : e.readOnly = false) : d.confirmEdit e = { d with
    draft := { d.draft with files := Draft.replaceFirst e.confirmed d.draft.files }
    editor := some { e with file := e.confirmed }
    notice := some (if (d.draft.replaceFile e.confirmed).1 then .updated e.file.path
      else .detached e.file.path) } := by
  rw [← Draft.replaceFile_snd, confirmEdit, Editor.confirm, hw]
  rfl

/-- An editor shows the selected file of a previewed draft on review. A file that has its path in common
with others need only have the right path, since an edit is stored at the first of them. -/
structure Shows (d : Desk) (e : Editor) : Prop where
  stage : d.draft.stage = .review
  fresh : d.draft.needsPreview = false
  bare : d.helpOpen = false
  file : ∃ f, d.draft.files[d.selectedFile]? = some f ∧ f.path = e.file.path ∧
    ((d.draft.files.map ChangedFile.path).Nodup → f = e.file)

/-- The path that an editor shows is among those of the draft. -/
theorem Shows.mem_paths (h : d.Shows e) : e.file.path ∈ d.draft.files.map ChangedFile.path := by
  obtain ⟨f, hf, hpath, -⟩ := h.file
  exact List.mem_map.2 ⟨f, List.mem_of_getElem? hf, hpath⟩

/-- When the paths differ, the selected file is the one that an edit of its path goes to. -/
theorem Shows.slot?_eq (h : d.Shows e) (hn : (d.draft.files.map ChangedFile.path).Nodup) :
    Draft.slot? e.file.path d.draft.files = some d.selectedFile := by
  obtain ⟨f, hf, hpath, -⟩ := h.file
  rw [← hpath]
  exact Draft.slot?_eq_of_getElem? hn hf

def Attached (d : Desk) : Prop := ∀ e, d.editor = some e → d.Shows e

namespace Attached

theorem of_closed (he : d.editor = none) : d.Attached := by
  intro e hopen
  simp [he] at hopen

theorem of_stage_ne (h : d.Attached) (hs : d.draft.stage ≠ .review) (he : d'.editor = d.editor) :
    d'.Attached := by
  intro e hopen
  exact absurd (h e (he ▸ hopen)).stage hs

theorem of_eq (h : d.Attached) (he : d'.editor = d.editor) (hs : d'.draft.stage = d.draft.stage)
    (hn : d'.draft.needsPreview = d.draft.needsPreview) (hf : d'.draft.files = d.draft.files)
    (hi : d'.selectedFile = d.selectedFile) (hh : d'.helpOpen = d.helpOpen) : d'.Attached := by
  intro e hopen
  obtain ⟨hstage, hfresh, hbare, hfile⟩ := h e (he ▸ hopen)
  refine ⟨hs.trans hstage, hn.trans hfresh, hh.trans hbare, ?_⟩
  rw [hf, hi]
  exact hfile

theorem of_glance (h : d.Attached) (hg : Glance d d') : d'.Attached := by
  cases hg with
  | nothing | notice | refusal | focus | scroll | highlight | card => exact h.of_eq rfl rfl rfl rfl rfl rfl
  | help b hb =>
    cases b with
    | true => exact .of_closed (hb rfl)
    | false =>
      intro e hopen
      obtain ⟨hstage, hfresh, -, hfile⟩ := h e hopen
      exact ⟨hstage, hfresh, rfl, hfile⟩
  | file n hn he => exact .of_closed he

theorem of_picked (h : d.Attached) (hp : Picked d d') : d'.Attached := by
  cases hp with
  | none => exact h
  | card s hs hc => exact h.of_stage_ne (by simp [hs]) rfl

/-- A confirmed edit goes to the place of the selected file, or of an earlier one of the same path. -/
theorem of_confirmEdit (h : d.Attached) (he : d.editor = some e) (hw : e.readOnly = false) :
    (d.confirmEdit e).Attached := by
  have hshows := h e he
  obtain ⟨f, hf, hpath, -⟩ := hshows.file
  rw [confirmEdit_eq hw]
  rintro _ ⟨⟩
  refine ⟨hshows.stage, ?_, hshows.bare, ?_⟩
  · rw [← hshows.fresh]
    exact Draft.needsPreview_congr rfl rfl rfl Draft.replaceFirst_eq_nil
  · simp only [Draft.getElem?_replaceFirst, Draft.map_path_replaceFirst]
    split
    · exact ⟨e.confirmed, rfl, rfl, fun _ => rfl⟩
    · rename_i hslot
      exact ⟨f, hf, hpath, fun hn => absurd (hshows.slot?_eq hn) hslot⟩

theorem of_arrival (h : d.Attached) {a : Answer} {k : RequestKind}
    (ha : Arrival { d with inflight := d.inflight.cancel k } a r)
    (hr : ∀ receipt, a ≠ .submit (.ok receipt)) : r.1.Attached := by
  cases ha with
  | offer | noOffer | template | otherTemplate | suggestions | otherField | otherFiles | again =>
    exact h.of_eq rfl rfl rfl rfl rfl rfl
  | refused | failure | expired | expiredSubmit => exact h.of_eq rfl rfl rfl rfl rfl rfl
  | files => exact .of_closed rfl
  | receipt receipt => exact absurd rfl (hr receipt)

end Attached

/-- Every effect but the acceptance of a request keeps the open editor with its file. -/
theorem attached_effect {ev : Event} (h : d.Attached) (he : Effect d ev r) (ha : ¬ d.Accepts ev) :
    r.1.Attached := by
  cases he with
  | glance hg => exact h.of_glance hg
  | leave | preview | pause | silence | stale => exact h.of_eq rfl rfl rfl rfl rfl rfl
  -- These keys belong to the other stages, where no editor is open.
  | reload hs | edit _ _ hs | field _ hs | accept hs | acceptNone hs | lookup hs =>
    exact h.of_stage_ne (by simp [hs]) rfl
  | enter hd hm hr => exact .of_closed hr.editor
  | refuse hd =>
    have hpicked := h.of_picked hd
    exact hpicked.of_eq rfl rfl rfl rfl rfl rfl
  | @openFile k clock f readOnly hs hp hf ho hh =>
    rintro _ ⟨⟩
    exact ⟨hs, hp, hh, f, hf, rfl, fun _ => rfl⟩
  | act a ho hne =>
    rintro _ ⟨⟩
    obtain ⟨hstage, hfresh, hbare, hfile⟩ := h _ ho
    obtain ⟨buffer, cursor, hact⟩ := Editor.act_eq _ hne
    refine ⟨hstage, hfresh, hbare, ?_⟩
    rw [hact]
    exact hfile
  | confirm ho hw => exact h.of_confirmEdit ho hw
  | close => exact .of_closed rfl
  | submit hb ho =>
    obtain ⟨session, he⟩ := submit_of_beginSubmit hb
    rw [he]
    exact .of_closed ho
  | justify text =>
    have hkeeps := Draft.keeps_setText_justification d.draft text
    have hneeds := Draft.needsPreview_congr hkeeps.choice
      (Draft.configured_setText_justification d.draft text) hkeeps.previewed (by rw [hkeeps.files])
    exact h.of_eq rfl (Draft.setField_stage _) hneeds hkeeps.files rfl rfl
  | deliver hc hd =>
    refine h.of_arrival hd fun receipt he => ha ?_
    exact .receipt hc he

/-- The file that an event confirms in the open editor, if any. -/
def confirmed? (d : Desk) : Event → Option ChangedFile
  | .key k _ =>
    if k = ⟨.char 's', true⟩ ∧ d.helpOpen = false then d.editor.bind (fun e => e.confirm.1) else none
  | _ => none

theorem confirmed?_eq_some {ev : Event} {file : ChangedFile} :
    d.confirmed? ev = some file ↔ ∃ clock e, ev = .key ⟨.char 's', true⟩ clock ∧
      d.helpOpen = false ∧ d.editor = some e ∧ e.readOnly = false ∧ e.confirmed = file := by
  cases ev with
  | tick | completion => simp [confirmed?]
  | key k clock =>
    rw [confirmed?]
    constructor
    · intro h
      split at h
      · rename_i hk
        obtain ⟨e, he, hfile⟩ := Option.bind_eq_some_iff.1 h
        cases hw : e.readOnly with
        | true => simp [Editor.confirm, hw] at hfile
        | false =>
          have hconfirmed : e.confirmed = file := by simpa [Editor.confirm, hw] using hfile
          exact ⟨clock, e, by rw [hk.1], hk.2, he, hw, hconfirmed⟩
      · simp at h
    · rintro ⟨_, e, ⟨⟩, hh, he, hw, rfl⟩
      simp [hh, he, Editor.confirm, hw]

theorem react_confirm {clock : Clock} (hh : d.helpOpen = false) (he : d.editor = some e) :
    d.react (.key ⟨.char 's', true⟩ clock) = quiet (d.confirmEdit e) := by
  simp [react, press, hh, stageOfKey?, he, editorKey, editorChar]

/-- In an open editor that is not for reading only, the key that confirms the edit does so. -/
theorem Attached.confirmed? (h : d.Attached) (clock : Clock) (he : d.editor = some e)
    (hw : e.readOnly = false) : d.confirmed? (.key ⟨.char 's', true⟩ clock) = some e.confirmed :=
  confirmed?_eq_some.2 ⟨clock, e, rfl, (h e he).bare, he, hw, rfl⟩

theorem Arrival.editor {a : Answer} (h : Arrival d a r) :
    r.1.editor = d.editor ∨ r.1.editor = none := by
  cases h with
  | files => exact .inr rfl
  | offer | noOffer | template | otherTemplate | suggestions | otherField => exact .inl rfl
  | otherFiles | again | receipt | refused | failure | expired | expiredSubmit => exact .inl rfl

/-- What becomes of an editor that stays open: its file changes only when the edit is confirmed. -/
structure Stays (ev : Event) (e e' : Editor) : Prop where
  readOnly : e'.readOnly = e.readOnly
  file : e'.file = e.file ∨
    (∃ clock, ev = .key ⟨.char 's', true⟩ clock) ∧ e.readOnly = false ∧ e'.file = e.confirmed

namespace Stays

variable {ev : Event} {e' : Editor}

theorem of_eq (he : d.editor = some e) (he' : d'.editor = some e') (hsame : d'.editor = d.editor) :
    Stays ev e e' := by
  obtain rfl : e' = e := by simpa [hsame, he, eq_comm] using he'
  exact ⟨rfl, .inl rfl⟩

theorem of_effect (h : Effect d ev r) (he : d.editor = some e) (he' : r.1.editor = some e') :
    Stays ev e e' := by
  cases h with
  | glance hg => exact of_eq he he' hg.editor
  | leave | reload | edit | field | accept | acceptNone => exact of_eq he he' rfl
  | preview | justify | pause | lookup | silence | stale => exact of_eq he he' rfl
  | enter hd hm hr => simp [hr.editor] at he'
  | refuse hd => exact of_eq he he' hd.editor
  | openFile _ _ _ _ ho => simp [ho] at he
  | act a ho hne =>
    obtain rfl := Option.some.inj (ho.symm.trans he)
    obtain rfl := Option.some.inj he'
    obtain ⟨buffer, cursor, hact⟩ := Editor.act_eq _ hne
    exact ⟨Editor.act_readOnly _ a, .inl (by rw [hact])⟩
  | @confirm clock _ ho hw =>
    obtain rfl := Option.some.inj (ho.symm.trans he)
    rw [confirmEdit_eq hw] at he'
    obtain rfl := Option.some.inj he'
    exact ⟨rfl, .inr ⟨⟨clock, rfl⟩, hw, rfl⟩⟩
  | close => simp at he'
  | submit hb ho => simp [ho] at he
  | deliver hcur hd =>
    rcases hd.editor with hsame | hclosed
    · exact of_eq he he' hsame
    · simp [hclosed] at he'

end Stays

/-- The file of an editor that stays open changes only when the edit is confirmed. -/
theorem file_of_effect {ev : Event} (h : Effect d ev r) (ha : d.Attached) (hc : d.confirmed? ev = none)
    {e' : Editor} (he : d.editor = some e) (he' : r.1.editor = some e') : e'.file = e.file := by
  rcases (Stays.of_effect h he he').file with hsame | ⟨⟨clock, rfl⟩, hw, -⟩
  · exact hsame
  · have hsome := ha.confirmed? clock he hw
    simp [hc] at hsome

/-- The keys that open the selected file; v opens it for reading only. -/
theorem react_open {k : Key} {clock : Clock} {f : ChangedFile}
    (hk : k.code = .enter ∨ k.code = .char 'e' ∨ k.code = .char 'v')
    (hh : d.helpOpen = false) (he : d.editor = none)
    (hs : d.draft.stage = .review) (hr : d.reviewFocus = .files) (hp : d.draft.needsPreview = false)
    (hf : d.draft.files[d.selectedFile]? = some f) :
    d.react (.key k clock) = quiet { d with
      editor := some (.openFile f (k.code == .char 'v' || d.draft.submitting)), scroll := 0 } := by
  obtain ⟨code, ctrl⟩ := k
  have hkey : d.react (.key ⟨code, ctrl⟩ clock) = d.filesKey ⟨code, ctrl⟩ clock := by
    rcases hk with rfl | rfl | rfl <;> simp [react, press, hh, he, stageOfKey?, stageKey, hs, hr]
  have hfile : d.filesKey ⟨code, ctrl⟩ clock = quiet (d.openEditor (code == .char 'v')) := by
    rcases hk with rfl | rfl | rfl <;> rfl
  rw [hkey, hfile, openEditor, hp, hf]
  rfl

/-- A confirmed edit takes the place of the selected file, if no other file has its path. -/
theorem Shows.confirmEdit (h : d.Shows e) (hn : (d.draft.files.map ChangedFile.path).Nodup)
    (hw : e.readOnly = false) : (d.draft.replaceFile e.confirmed).1 = true ∧
      (d.confirmEdit e).draft.files = d.draft.files.set d.selectedFile e.confirmed ∧
      (d.confirmEdit e).notice = some (.updated e.file.path) := by
  have hfound : (d.draft.replaceFile e.confirmed).1 = true :=
    Draft.replaceFile_fst.2 h.mem_paths
  rw [confirmEdit_eq hw, if_pos hfound]
  exact ⟨hfound, Draft.replaceFirst_eq_set (h.slot?_eq hn), rfl⟩

end Desk

namespace Office

variable {session : Session} {delay : Nat} {past : Past} {o : Office}

/-- Every preview that came in lists a path at most once. -/
def PathsDiffer (past : Past) : Prop :=
  ∀ p ∈ past, ∀ c fingerprint files, p.2 = .completion c → c.answer = .preview fingerprint (.ok files) →
    (files.map ChangedFile.path).Nodup

theorem Run.attached (h : Run session delay past o) (hq : o.desk.exit = none) : o.desk.Attached := by
  induction h with
  | start => exact .of_closed rfl
  | step h e he ih =>
    have hattached := ih (Desk.exit_bearing (h.bearing he) hq)
    exact Desk.attached_effect hattached (Desk.effect_react _ e) fun ha => ha.exit hq

/-- A request that is accepted is one whose result was waited for. -/
theorem Run.latest_of_accepts (h : Run session delay past o) {ev : Event} (he : o.Allows ev)
    (ha : o.desk.Accepts ev) : o.desk.inflight.latest .submit ≠ none := by
  cases ha with
  | receipt hc hanswer =>
    refine Inflight.latest_ne_of_isCurrent hc ?_
    rw [h.kind_eq he _ rfl, hanswer]
    rfl

theorem Run.nodup_paths (h : Run session delay past o) (hd : PathsDiffer past) :
    (o.desk.draft.files.map ChangedFile.path).Nodup := by
  induction h with
  | start => exact List.nodup_nil
  | step h e he ih =>
    have hbefore := ih fun p hp => hd p (List.mem_cons_of_mem _ hp)
    rw [step_desk]
    cases Desk.Refiles.of_effect (Desk.effect_react _ e) with
    | kept hc hf => rwa [hf]
    | dropped hdrops => simp [hdrops.files]
    | previewed hc ha hdraft =>
      rw [hdraft]
      exact hd _ List.mem_cons_self _ _ _ rfl ha
    | edited ho hw hdraft =>
      rw [hdraft]
      simpa [Draft.map_path_replaceFirst] using hbefore
    | accepted hc ha hdraft => simp [hdraft, Draft.new]

/-- Until the desk is left, an open editor shows the selected file of a previewed draft on review, and only
for reading while a request is under way. In an editor that is not for reading only, Ctrl and s confirm the
edit; whenever an edit is confirmed, no request is under way, and the edit takes the place of its file; and
an event that confirms nothing leaves the file of an editor that stays open. -/
theorem editor_attached (h : Run session delay past o) (hq : o.desk.exit = none)
    (hd : PathsDiffer past) :
    (∀ e, o.desk.editor = some e → o.desk.draft.stage = .review ∧ o.desk.draft.needsPreview = false ∧
      o.desk.draft.files[o.desk.selectedFile]? = some e.file ∧
      (o.desk.draft.submitting = true → e.readOnly = true)) ∧
    (∀ e clock, o.desk.editor = some e → e.readOnly = false →
      o.desk.confirmed? (.key ⟨.char 's', true⟩ clock) = some e.confirmed) ∧
    (∀ ev file, o.desk.confirmed? ev = some file →
      o.desk.draft.submitting = false ∧ (o.desk.draft.replaceFile file).1 = true ∧
      (o.step ev).desk.draft.files = o.desk.draft.files.set o.desk.selectedFile file ∧
      (o.step ev).desk.notice = some (.updated file.path)) ∧
    ∀ ev e e', o.desk.confirmed? ev = none → o.desk.editor = some e →
      (o.step ev).desk.editor = some e' → e'.file = e.file := by
  have hattached := h.attached hq
  have hnodup := h.nodup_paths hd
  refine ⟨fun e he => ?_, fun e clock he hw => ?_, fun ev file hfile => ?_, fun ev e e' hc he he' => ?_⟩
  · obtain ⟨hstage, hfresh, -, f, hf, -, hsame⟩ := hattached e he
    rw [hsame hnodup] at hf
    exact ⟨hstage, hfresh, hf, fun hs => h.locked hs e he⟩
  · exact hattached.confirmed? clock he hw
  · obtain ⟨clock, e, rfl, hh, he, hw, rfl⟩ := Desk.confirmed?_eq_some.1 hfile
    have hidle : o.desk.draft.submitting = false := by
      cases hs : o.desk.draft.submitting with
      | false => rfl
      | true => simp [h.locked hs e he] at hw
    have hconfirm := (hattached e he).confirmEdit hnodup hw
    rw [step_desk, Desk.react_confirm hh he]
    exact ⟨hidle, hconfirm⟩
  · exact Desk.file_of_effect (Desk.effect_react o.desk ev) hattached hc he he'

end Office

/-! The editor of the previewed file, with a character entered. -/

namespace Sample

open Office

def Distinct (o : Office) : Prop := ∃ past, Run .empty 0 past o ∧ PathsDiffer past

theorem Distinct.press {o : Office} (h : Distinct o) (c : KeyCode) : Distinct (press o c) := by
  obtain ⟨past, h, hd⟩ := h
  refine ⟨_, h.step _ trivial, List.forall_mem_cons.2 ⟨?_, hd⟩⟩
  intro completion fingerprint files he
  simp at he

theorem Distinct.answer {o : Office} (h : Distinct o) : Distinct (o.step (answer backend o)) := by
  obtain ⟨past, h, hd⟩ := h
  refine ⟨_, h.step _ (allows_answer backend o), List.forall_mem_cons.2 ⟨?_, hd⟩⟩
  intro c fingerprint files he ha
  unfold Sample.answer at he
  split at he
  · rename_i i rest hawaited
    obtain rfl : backend.complete i = c := by simpa using he
    obtain ⟨request, hj⟩ := Backend.answer_eq_preview ha
    have hfiles : files = [file] := by
      simpa [Backend.complete, Backend.answer, hj, backend, eq_comm] using ha
    simp [hfiles]
  · simp at he

theorem distinct_previewed : Distinct previewed := by
  have hchoosing : Distinct choosing := Distinct.answer ⟨[], .start, by simp [PathsDiffer]⟩
  have hconfiguring := ((hchoosing.press .enter).answer).press (.char 'x')
  exact step_reviewing ▸ (hconfiguring.press .enter).answer

def opened : Office := press previewed .enter

def typed : Office := press opened (.char 'z')

def editor : Editor := ⟨file, false, "zb", 1⟩

theorem distinct_typed : Distinct typed := (distinct_previewed.press .enter).press (.char 'z')

theorem needsPreview_previewed : previewed.desk.draft.needsPreview = false :=
  Draft.needsPreview_eq_false.2 ⟨by simp [previewed], rfl⟩

theorem opened_eq : opened = { previewed with
    desk := { previewed.desk with editor := some (.openFile file false), scroll := 0 } } := by
  have hreact : previewed.desk.react (.key ⟨.enter, false⟩ clock) = Desk.quiet { previewed.desk with
      editor := some (.openFile file false), scroll := 0 } :=
    Desk.react_open (.inl rfl) rfl rfl rfl rfl needsPreview_previewed rfl
  rw [opened, press, step, hreact]
  rfl

theorem typed_eq : typed = { previewed with
    desk := { previewed.desk with editor := some editor, scroll := 0 } } := by
  rw [typed, opened_eq]
  rfl

end Sample

namespace Office

theorem editor_attached_sample : ∃ past, Run .empty 0 past Sample.typed ∧
    Sample.typed.desk.exit = none ∧ PathsDiffer past ∧
    Sample.typed.desk.editor = some Sample.editor ∧
    (Sample.typed.step (.key ⟨.char 's', true⟩ Sample.clock)).desk.draft.files =
      [Sample.editor.confirmed] := by
  obtain ⟨past, h, hd⟩ := Sample.distinct_typed
  have hexit : Sample.typed.desk.exit = none := by
    rw [Sample.typed_eq]
    rfl
  have heditor : Sample.typed.desk.editor = some Sample.editor := by rw [Sample.typed_eq]
  obtain ⟨-, hconfirms, hstored, -⟩ := editor_attached h hexit hd
  obtain ⟨-, -, hfiles, -⟩ := hstored _ _ (hconfirms _ Sample.clock heditor rfl)
  refine ⟨past, h, hexit, hd, heditor, ?_⟩
  rw [hfiles, Sample.typed_eq]
  rfl

end Office

end ChangeDesk
