import ChangeDesk.Proofs.Desk.Files
import ChangeDesk.Proofs.Desk.Submission
import ChangeDesk.Proofs.Editor.Confirming

/-!
The files of a draft while a request is under way. An open editor is then for reading only, but a preview of
the current values that comes in with other files, or another choice, still takes the submitted files away.
-/
namespace ChangeDesk

namespace Desk

variable {d d' : Desk} {r : Reaction}

/-- While a request is under way, an open editor is for reading only. -/
def Locked (d : Desk) : Prop :=
  d.draft.submitting = true → ∀ e, d.editor = some e → e.readOnly = true

theorem Locked.of_eq (h : d.Locked) (hs : d'.draft.submitting = d.draft.submitting)
    (he : d'.editor = d.editor) : d'.Locked := by
  intro hsub e hopen
  exact h (hs ▸ hsub) e (he ▸ hopen)

theorem Locked.of_closed (he : d.editor = none) : d.Locked := by
  intro _ e hopen
  simp [he] at hopen

theorem Locked.of_idle (hs : d.draft.submitting = false) : d.Locked := by
  intro hsub
  simp [hs] at hsub

theorem Glance.editor (h : Glance d d') : d'.editor = d.editor := by cases h <;> rfl

theorem Picked.editor (h : Picked d d') : d'.editor = d.editor := by cases h <;> rfl

theorem Entry.editor (h : Entry d r) : r.1.editor = none := by cases h <;> rfl

theorem Locked.of_arrival (h : d.Locked) {a : Answer} {k : RequestKind}
    (ha : Arrival { d with inflight := d.inflight.cancel k } a r) : r.1.Locked := by
  cases ha with
  | offer | noOffer | template | otherTemplate | suggestions | otherField => exact h.of_eq rfl rfl
  | otherFiles | again | failure | expired => exact h.of_eq rfl rfl
  | files => exact .of_closed rfl
  | receipt | refused | expiredSubmit => exact .of_idle rfl

theorem locked_effect {e : Event} (h : d.Locked) (he : Effect d e r) : r.1.Locked := by
  cases he with
  | glance hg => exact h.of_eq (by rw [quiet_fst, hg.draft]) hg.editor
  | leave | reload | field | acceptNone | preview | lookup | pause | silence | stale =>
    exact h.of_eq rfl rfl
  | enter hd hm hr => exact .of_closed hr.editor
  | refuse hd =>
    have hs := hd.submitting
    have heditor := hd.editor
    exact h.of_eq hs heditor
  | edit | accept | justify => exact h.of_eq (Draft.setText_submitting ..) rfl
  | openFile readOnly hs hp hf =>
    intro hsub e hopen
    obtain rfl := Option.some.inj hopen
    have hsub : d.draft.submitting = true := hsub
    simp [Editor.openFile, hsub]
  | act a ho ha =>
    intro hsub e hopen
    obtain rfl := Option.some.inj hopen
    rw [Editor.act_readOnly]
    exact h hsub _ ho
  | confirm ho hw =>
    refine .of_idle ?_
    rw [quiet_fst, confirmEdit_draft hw]
    cases hs : d.draft.submitting with
    | false => rfl
    | true => simp [h hs _ ho] at hw
  | close => exact .of_closed rfl
  | submit hb ho =>
    obtain ⟨session, he⟩ := submit_of_beginSubmit hb
    rw [he]
    exact .of_closed ho
  | deliver hc ha => exact h.of_arrival ha

/-- An event brings other files for the current values, or takes the files away with the choice. -/
inductive Disturbs (d : Desk) : Event → Prop where
  | preview {c : Completion} {files : List ChangedFile} (hc : d.inflight.isCurrent c.token = true)
      (ha : c.answer = .preview d.draft.fingerprint (.ok files)) (hf : files ≠ d.draft.files) :
      Disturbs d (.completion c)
  | choice {e : Event} (hc : (d.react e).1.draft.choice ≠ d.draft.choice)
      (hf : d.draft.files ≠ []) : Disturbs d e

/-- Nothing else changes the files while a request is under way and the desk is not left. -/
theorem files_ne_iff_disturbs {e : Event} (hl : d.Locked) (hs : d.draft.submitting = true)
    (hq : (d.react e).1.exit = none) :
    (d.react e).1.draft.files ≠ d.draft.files ↔ d.Disturbs e := by
  have hrefiles := Refiles.of_effect (effect_react d e)
  constructor
  · intro hne
    cases hrefiles with
    | kept hc hf hp => exact absurd hf hne
    | dropped h =>
      refine .choice h.choice fun hnil => hne ?_
      rw [h.files, hnil]
    | previewed hc ha hd =>
      rw [hd] at hne
      exact .preview hc ha hne
    | edited ho hw hd => simp [hl hs _ ho] at hw
    | accepted hc ha hd hx => simp [hx] at hq
  · intro hdisturbs
    cases hdisturbs with
    | preview hc ha hf =>
      rw [files_react_preview hc ha]
      exact hf
    | choice hc hf =>
      cases hrefiles with
      | kept hsame => exact absurd hsame hc
      | dropped h =>
        rw [h.files]
        exact hf.symm
      | previewed hcur ha hd =>
        rw [hd] at hc
        exact absurd rfl hc
      | edited ho hw hd =>
        rw [hd] at hc
        exact absurd rfl hc
      | accepted hcur ha hd hx => simp [hx] at hq

theorem files_react_refusal {c : Completion} {e : ApiError} (ha : c.answer = .submit (.error e)) :
    (d.react (.completion c)).1.draft.files = d.draft.files := by
  cases Refiles.of_effect (effect_react d (.completion c)) with
  | kept hc hf hp => exact hf
  | previewed hc ha' hd => simp [ha] at ha'
  | accepted hc ha' hd hx => simp [ha] at ha'

theorem submitting_bearing {e : Event} (hs : d.draft.submitting = true) (h : Bearing d e r)
    (ha : d.applies .submit e = false) (hq : r.1.exit = none) : Apart d r := by
  cases h with
  | apart h => exact h
  | begun h =>
    have hidle := (Draft.beginSubmit_eq_ok.1 h).2.1
    simp [hs] at hidle
  | refused hc hk he => simp [applies, hc, he, Answer.kind] at ha
  | left hl => exact absurd hq hl

end Desk

namespace Office

variable {session : Session} {delay : Nat} {past : Past} {o : Office}

/-- A request has been submitted, and since then neither has its result counted nor was the desk left;
`since` is what has happened from then on. -/
inductive UnderWay (token : Token) (payload : ChangeRequest) : Past → Past → Office → Prop where
  | begun {past : Past} {o : Office} {e : Event}
      (h : (o.desk.react e).2 = some ⟨token, .submit payload⟩) (hq : (o.step e).desk.exit = none) :
      UnderWay token payload [] ((o, e) :: past) (o.step e)
  | later {since past : Past} {o : Office} {e : Event} (h : UnderWay token payload since past o)
      (ha : o.desk.applies .submit e = false) (hq : (o.step e).desk.exit = none) :
      UnderWay token payload ((o, e) :: since) ((o, e) :: past) (o.step e)

theorem Run.locked (h : Run session delay past o) : o.desk.Locked :=
  h.invariant (P := fun o => o.desk.Locked) (.of_closed rfl)
    (fun o e hl _ => Desk.locked_effect hl (Desk.effect_react o.desk e))

/-- A request that is under way is marked in the draft, and the token of its job is the current one. -/
theorem UnderWay.current {token : Token} {payload : ChangeRequest} {since : Past}
    (hu : UnderWay token payload since past o) (h : Run session delay past o) :
    o.desk.draft.submitting = true ∧ token.kind = .submit ∧
      o.desk.inflight.isCurrent token = true := by
  induction hu with
  | begun hi hq =>
    obtain ⟨hr, he, -⟩ := h.of_cons
    obtain ⟨-, -, session, last, hreact⟩ := (hr.bearing he).eq_issue hi
    rw [hreact, Desk.issue_snd, Option.some.injEq, Issued.mk.injEq] at hi
    rw [step_desk, hreact, ← hi.1]
    exact ⟨rfl, rfl, Inflight.isCurrent_issue .submit⟩
  | later hu ha hq ih =>
    obtain ⟨hr, he, -⟩ := h.of_cons
    obtain ⟨hs, hkind, hc⟩ := ih hr
    have hapart := Desk.submitting_bearing hs (hr.bearing he) ha hq
    refine ⟨hapart.submitting.trans hs, hkind, ?_⟩
    rw [Inflight.isCurrent_iff, hkind] at hc ⊢
    exact hapart.awaits.trans hc

/-- While a request is under way, exactly the events that disturb its files change them. -/
theorem Run.disturbs_of_underWay (h : Run session delay past o) {token : Token}
    {payload : ChangeRequest} {since : Past} (hu : UnderWay token payload since past o) :
    ∀ p ∈ since, (p.1.step p.2).desk.draft.files ≠ p.1.desk.draft.files ↔ p.1.desk.Disturbs p.2 := by
  induction hu with
  | begun hi hq => simp
  | later hu ha hq ih =>
    obtain ⟨hr, he, -⟩ := h.of_cons
    intro p hp
    rcases List.mem_cons.1 hp with rfl | hp
    · exact Desk.files_ne_iff_disturbs hr.locked (hu.current hr).1 hq
    · exact ih hr p hp

theorem Run.files_of_undisturbed (h : Run session delay past o) {token : Token}
    {payload : ChangeRequest} {since : Past} (hu : UnderWay token payload since past o)
    (hnone : ∀ p ∈ since, ¬ p.1.desk.Disturbs p.2) : o.desk.draft.files = payload.files := by
  induction hu with
  | begun hi hq =>
    obtain ⟨hr, he, -⟩ := h.of_cons
    obtain ⟨-, rfl, session, last, hreact⟩ := (hr.bearing he).eq_issue hi
    rw [step_desk, hreact]
    rfl
  | @later since past o e hu ha hq ih =>
    obtain ⟨hr, he, -⟩ := h.of_cons
    have hstep := Desk.files_ne_iff_disturbs hr.locked (hu.current hr).1 hq
    have hlast : (o.step e).desk.draft.files = o.desk.draft.files := by
      by_contra hne
      exact hnone (o, e) List.mem_cons_self (hstep.1 hne)
    rw [hlast]
    exact ih hr fun p hp => hnone p (List.mem_cons_of_mem _ hp)

/-- While a request is under way, exactly the events that disturb its files change them. Without any such
event the draft holds the files as they were sent, also when the request is refused. -/
theorem files_of_underWay (h : Run session delay past o) {token : Token} {payload : ChangeRequest}
    {since : Past} (hu : UnderWay token payload since past o) :
    (∀ p ∈ since, (p.1.step p.2).desk.draft.files ≠ p.1.desk.draft.files ↔ p.1.desk.Disturbs p.2) ∧
    ((∀ p ∈ since, ¬ p.1.desk.Disturbs p.2) → o.desk.draft.files = payload.files ∧
      ∀ c e, c.answer = .submit (.error e) →
        (o.step (.completion c)).desk.draft.files = payload.files) := by
  have hsent := h.files_of_undisturbed hu
  refine ⟨h.disturbs_of_underWay hu, fun hnone => ⟨hsent hnone, fun c e ha => ?_⟩⟩
  rw [step_desk, Desk.files_react_refusal ha]
  exact hsent hnone

end Office

namespace Sample

open Office

def submitted : Office := ready.step submit

def regenerate : Event := .key ⟨.char 'R', false⟩ clock

/-- The new preview is awaited, beside the result of the submission. -/
def regenerating : Office := submitted.step regenerate

def laterFile : ChangedFile := ⟨"main.tf", none, "", "c", 1⟩

def laterBackend : Backend := { backend with preview := fun _ => .ok [laterFile] }

def replaced : Office := regenerating.step (answer laterBackend regenerating)

theorem react_regenerate : submitted.desk.exit = none ∧
    submitted.desk.react regenerate = submitted.desk.requestPreview := by
  obtain ⟨session, hreact⟩ := react_submit
  rw [submitted, step_desk, hreact]
  exact ⟨rfl, Desk.react_regenerate rfl rfl rfl rfl⟩

def token : Token := (submitted.desk.inflight.issue .preview).1

theorem answer_regenerating : answer laterBackend regenerating =
    .completion ⟨token, .preview regenerating.desk.draft.fingerprint (.ok [laterFile])⟩ := by
  have hawaited : regenerating.awaited = ⟨token, .preview submitted.desk.draft.fingerprint
      submitted.desk.draft.previewRequest⟩ :: submitted.awaited :=
    awaited_step_of_issue react_regenerate.2
  have hdraft : regenerating.desk.draft = submitted.desk.draft := by
    rw [regenerating, step_desk, react_regenerate.2, Desk.requestPreview, Desk.issue_draft]
  rw [answer_of_awaited hawaited, hdraft]
  rfl

theorem exit_and_files_replaced : regenerating.desk.exit = none ∧ replaced.desk.exit = none ∧
    replaced.desk.draft.files = [laterFile] := by
  have hdesk : regenerating.desk = submitted.desk.requestPreview.1 := by
    rw [regenerating, step_desk, react_regenerate.2]
  have hcurrent : regenerating.desk.inflight.isCurrent token = true := by
    rw [hdesk, Desk.requestPreview, Desk.issue_inflight]
    exact Inflight.isCurrent_issue .preview
  have hexit : regenerating.desk.exit = none := by
    rw [hdesk, Desk.requestPreview, Desk.issue_exit]
    exact react_regenerate.1
  refine ⟨hexit, ?_, ?_⟩
  · rw [replaced, step_desk, answer_regenerating, Desk.exit_react_preview hcurrent rfl]
    exact hexit
  · rw [replaced, step_desk, answer_regenerating, Desk.files_react_preview hcurrent rfl]

/-- The request is still under way when its file has been replaced. -/
theorem underWay_replaced : ∃ since past, Run .empty 0 past replaced ∧
    UnderWay ⟨.submit, 4, 0⟩ request since past replaced ∧
    replaced.desk.draft.files = [laterFile] := by
  obtain ⟨past, h⟩ := reached_ready
  have hsubmitted := h.step submit trivial
  have hregenerating := hsubmitted.step regenerate trivial
  have hreplaced := hregenerating.step _ (allows_answer laterBackend regenerating)
  have happlies : regenerating.desk.applies .submit (answer laterBackend regenerating) = false := by
    rw [answer_regenerating]
    simp [Desk.applies, Answer.kind]
  obtain ⟨hopen, hexit, hfiles⟩ := exit_and_files_replaced
  have hbegun : UnderWay ⟨.submit, 4, 0⟩ request [] ((ready, submit) :: past) submitted :=
    .begun issued_submit react_regenerate.1
  exact ⟨_, _, hreplaced, (hbegun.later rfl hopen).later happlies hexit, hfiles⟩

end Sample

namespace Office

theorem files_of_underWay_sample : ∃ since past, Run .empty 0 past Sample.replaced ∧
    UnderWay ⟨.submit, 4, 0⟩ Sample.request since past Sample.replaced ∧
    ∃ p ∈ since, p.1.desk.Disturbs p.2 := by
  obtain ⟨since, past, h, hu, hfiles⟩ := Sample.underWay_replaced
  obtain ⟨-, hsame⟩ := files_of_underWay h hu
  refine ⟨since, past, h, hu, ?_⟩
  by_contra hnone
  have hsent := (hsame fun p hp hd => hnone ⟨p, hp, hd⟩).1
  rw [hfiles] at hsent
  exact absurd hsent (by decide +kernel)

/-- A preview that comes in while a request is under way can replace the files that were sent. -/
theorem files_replaced_under_way : ¬ ∀ past o token payload since, Run .empty 0 past o →
    UnderWay token payload since past o → o.desk.draft.files = payload.files := by
  intro hall
  obtain ⟨since, past, h, hu, hfiles⟩ := Sample.underWay_replaced
  have hsent := hall _ _ _ _ _ h hu
  rw [hfiles] at hsent
  exact absurd hsent (by decide +kernel)

end Office

end ChangeDesk
