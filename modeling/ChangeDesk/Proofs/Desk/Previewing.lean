import ChangeDesk.Proofs.Desk.Onward
import ChangeDesk.Proofs.Desk.Waiting

/-!
The preview that the review waits for. Whoever is on review and has no files for the current values sees one
on its way, and for these very values, unless the last one brought no files. So a preview is never out of date
when it comes in where it is needed, and no completion makes the desk ask for anything.
-/
namespace ChangeDesk

namespace Desk

variable {d d' : Desk} {r : Reaction} {ev : Event}

/-- A completion that counts brings files for other values than the current ones, on review, where files are
needed. Then the preview is asked for again. -/
structure AsksAgain (d : Desk) (c : Completion) : Prop where
  current : d.inflight.isCurrent c.token = true
  answer : ∃ fingerprint files, c.answer = .preview fingerprint (.ok files) ∧
    fingerprint ≠ d.draft.fingerprint
  stage : d.draft.stage = .review
  needed : d.draft.needsPreview = true

/-- Nothing else makes a completion issue a job. -/
theorem issued_of_not_asksAgain {c : Completion} (he : Effect d (.completion c) r)
    (h : ¬ d.AsksAgain c) : r.2 = none := by
  cases he with
  | stale => rfl
  | deliver hc ha =>
    obtain ⟨token, answer⟩ := c
    cases ha with
    | again fs hf hs hn => exact absurd ⟨hc, ⟨_, fs, rfl, hf⟩, hs, hn⟩ h
    | offer | noOffer | template | otherTemplate | suggestions | otherField => rfl
    | files | otherFiles | receipt | refused | failure | expired | expiredSubmit => rfl

/-- The stage stays, with the values of the request, and with whether there are files for them. -/
structure Retains (d d' : Desk) : Prop where
  stage : d'.draft.stage = d.draft.stage
  fingerprint : d'.draft.fingerprint = d.draft.fingerprint
  needed : d'.draft.needsPreview = d.draft.needsPreview

theorem Retains.of_draft (h : d'.draft = d.draft) : Retains d d' := by
  refine ⟨?_, ?_, ?_⟩ <;> rw [h]

theorem Retains.of_values (hs : d'.draft.stage = d.draft.stage) (hc : d'.draft.choice = d.draft.choice)
    (hv : d'.draft.configured = d.draft.configured) (hp : d'.draft.previewed = d.draft.previewed)
    (hf : d'.draft.files = [] ↔ d.draft.files = []) : Retains d d' :=
  ⟨hs, Draft.fingerprint_congr hc hv, Draft.needsPreview_congr hc hv hp hf⟩

inductive Previews (d : Desk) : Event → Reaction → Prop where
  | away {ev : Event} {r : Reaction}
      (h : r.1.draft.stage = .review → r.1.draft.needsPreview = false) : Previews d ev r
  | kept {ev : Event} {r : Reaction} (h : Retains d r.1) (ha : d.applies .preview ev = false)
      (hi : issues .preview r = false) : Previews d ev r
  | asked {ev : Event} {d' : Desk} : Previews d ev d'.requestPreview
  | failed {c : Completion} {r : Reaction} {fingerprint : String}
      {outcome : Outcome (List ChangedFile)} (hc : d.inflight.isCurrent c.token = true)
      (ha : c.answer = .preview fingerprint outcome) (hl : r.1.inflight.latest .preview = none)
      (hf : outcome = .ok [] ∨ ∃ e, outcome = .error e ∧ r.1.notice = some (.failure e)) :
      Previews d (.completion c) r
  | left {ev : Event} {r : Reaction} (hq : r.1.exit ≠ none)
      (hl : r.1.inflight.latest .preview = none) : Previews d ev r

namespace Previews

theorem of_stage {s : Stage} (hs : r.1.draft.stage = s) (hne : s ≠ .review) : Previews d ev r :=
  .away fun h => absurd (hs.symm.trans h) hne

theorem of_key {k : Key} {clock : Clock} (h : Retains d d') : Previews d (.key k clock) (quiet d') :=
  .kept h rfl rfl

theorem of_entry (h : Entry d' r) : Previews d ev r := by
  cases h with
  | choose hs => exact .of_stage hs (by decide)
  | configure hs | load s hs => exact .of_stage hs (by decide)
  | review hs hp => exact .away fun _ => hp
  | preview => exact .asked

theorem of_arrival {c : Completion} (hc : d.inflight.isCurrent c.token = true)
    (hk : c.token.kind = c.answer.kind)
    (h : Arrival { d with inflight := d.inflight.cancel c.token.kind } c.answer r) :
    Previews d (.completion c) r := by
  obtain ⟨token, answer⟩ := c
  have hother (hne : answer.kind ≠ .preview) :
      d.applies .preview (.completion ⟨token, answer⟩) = false := by
    simp [applies, hne]
  have hsettled (hp : answer.kind = .preview) :
      (d.inflight.cancel token.kind).latest .preview = none := by
    rw [Inflight.latest_cancel, if_pos (hk.trans hp).symm]
  cases h with
  | offer | noOffer | template | otherTemplate | suggestions | otherField | refused =>
    exact .kept (.of_values rfl rfl rfl rfl Iff.rfl) (hother (by simp [Answer.kind])) rfl
  | @files fingerprint fs hf =>
    cases fs with
    | nil => exact .failed hc rfl (hsettled rfl) (.inl rfl)
    | cons f rest =>
      obtain rfl : fingerprint = d.draft.fingerprint := hf
      exact .away fun _ => Draft.needsPreview_eq_false.2 ⟨List.cons_ne_nil _ _, rfl⟩
  | otherFiles fs hf hn => exact .away fun hs => by simpa using fun hp => hn ⟨hs, hp⟩
  | again => exact .asked
  | @failure _ e ha =>
    cases answer with
    | preview fingerprint outcome =>
      cases outcome with
      | ok fs => cases ha
      | error e' =>
        obtain rfl : e' = e := Option.some.inj ha
        exact .failed hc rfl (hsettled rfl) (.inr ⟨e', rfl, rfl⟩)
    | providers | definition | typeahead | submit =>
      exact .kept (.of_draft rfl) (hother (by simp [Answer.kind])) rfl
  | receipt | expired | expiredSubmit => exact .left (by simp [takeReceipt, quit]) rfl

theorem of_effect (hk : ∀ c, ev = .completion c → c.token.kind = c.answer.kind) (h : Effect d ev r) :
    Previews d ev r := by
  cases h with
  | glance hg => exact .of_key (.of_draft hg.draft)
  | leave => exact .left (by simp [quit]) rfl
  | reload hs | lookup hs | field _ hs | acceptNone hs => exact .of_stage hs (by decide)
  | edit _ _ hs | accept hs => exact .of_stage ((Draft.setField_stage _).trans hs) (by decide)
  | enter hd hm hr => exact .of_entry hr
  | refuse hd =>
    cases hd with
    | none => exact .of_key (.of_draft rfl)
    | card s hs hc => exact .of_stage ((Draft.choose_stage d.draft s).trans hs) (by decide)
  | openFile | act | close => exact .of_key (.of_draft rfl)
  | confirm he hw =>
    refine .of_key ?_
    rw [confirmEdit_eq hw]
    exact .of_values rfl rfl rfl rfl Draft.replaceFirst_eq_nil
  | submit hb =>
    obtain ⟨-, session, he⟩ := submit_of_begun hb
    rw [he]
    exact .kept (.of_values rfl rfl rfl rfl Iff.rfl) rfl rfl
  | preview => exact .asked
  | justify text =>
    have hkeeps := Draft.keeps_setText_justification d.draft text
    exact .of_key (.of_values (Draft.setField_stage _) hkeeps.choice
      (Draft.configured_setText_justification d.draft text) hkeeps.previewed (by rw [hkeeps.files]))
  | pause | silence => exact .kept (.of_draft rfl) rfl rfl
  | deliver hc ha => exact .of_arrival hc (hk _ rfl) ha
  | stale hc => exact .kept (.of_draft rfl) (by simp [applies, hc]) rfl

end Previews

end Desk

namespace Office

variable {session : Session} {delay : Nat} {past : Past} {o : Office}

/-- The answer to a preview that counted last brought no files: it was an error, which was shown as a notice,
or an empty list. -/
inductive LastFailed : Past → Office → Prop where
  | answered {past : Past} {o : Office} {c : Completion} {fingerprint : String}
      {outcome : Outcome (List ChangedFile)} (hc : o.desk.inflight.isCurrent c.token = true)
      (ha : c.answer = .preview fingerprint outcome)
      (hf : outcome = .ok [] ∨
        ∃ e, outcome = .error e ∧ (o.step (.completion c)).desk.notice = some (.failure e)) :
      LastFailed ((o, .completion c) :: past) (o.step (.completion c))
  | later {past : Past} {o : Office} {ev : Event} (h : LastFailed past o)
      (ha : o.desk.applies .preview ev = false) : LastFailed ((o, ev) :: past) (o.step ev)

/-- A preview that is awaited and counts is for the current values; and if none is, the last one failed. -/
structure Expects (past : Past) (o : Office) : Prop where
  current : ∀ i ∈ o.awaited, o.desk.inflight.isCurrent i.token = true →
    ∀ fingerprint request, i.job = .preview fingerprint request → fingerprint = o.desk.draft.fingerprint
  failed : o.desk.exit = none → o.desk.inflight.latest .preview = none → LastFailed past o

/-- Where no preview is waited for, the last one must have failed. -/
theorem Run.expects_of_latest (h : Run session delay past o)
    (hl : o.desk.inflight.latest .preview = none) (hf : o.desk.exit = none → LastFailed past o) :
    Expects past o where
  current := by
    intro i hi hc fingerprint request hj
    have hlatest := h.registered.latest_of_isCurrent hi hc
    rw [hj] at hlatest
    cases hl.symm.trans hlatest
  failed hq _ := hf hq

/-- A preview that is asked for now is the only one whose answer counts. -/
theorem Run.expects_of_asked {ev : Event} {d : Desk} (h : Run session delay past (o.step ev))
    (hr : o.desk.react ev = d.requestPreview) : Expects past (o.step ev) := by
  have hdesk : (o.step ev).desk = d.requestPreview.1 := by rw [step_desk, hr]
  have hnew : (⟨(d.inflight.issue .preview).1,
      .preview d.draft.fingerprint d.draft.previewRequest⟩ : Issued) ∈ (o.step ev).awaited := by
    rw [Office.step, hr]
    exact List.mem_cons_self
  have hcurrent : (o.step ev).desk.inflight.isCurrent (d.inflight.issue .preview).1 = true := by
    rw [hdesk]
    exact Inflight.isCurrent_issue .preview
  constructor
  · intro i hi hc fingerprint request hj
    obtain rfl := h.registered.eq_of_isCurrent hi hnew hc hcurrent (by rw [hj]; rfl)
    obtain ⟨rfl, -⟩ := Job.preview.inj hj
    rw [hdesk]
    rfl
  · intro _ hl
    have hlatest := Inflight.latest_of_isCurrent hcurrent
    cases hl.symm.trans hlatest

theorem Expects.step {ev : Event} (h : Expects past o) (hr : Run session delay past o)
    (he : o.Allows ev) (hk : Desk.Retains o.desk (o.step ev).desk)
    (ha : o.desk.applies .preview ev = false)
    (hi : Desk.issues .preview (o.desk.react ev) = false) : Expects ((o, ev) :: past) (o.step ev) where
  current := by
    intro i hmem hc fingerprint request hj
    rcases mem_awaited_step hmem with hissued | hmem
    · simp [Desk.issues, hissued, hj, Job.kind] at hi
    · have hbefore := Desk.isCurrent_of_effect (Desk.effect_react o.desk ev)
        (hr.registered.seq_le i hmem) hc
      exact (h.current i hmem hbefore fingerprint request hj).trans hk.fingerprint.symm
  failed := by
    intro hq hl
    have hlatest : (o.step ev).desk.inflight.latest .preview = o.desk.inflight.latest .preview :=
      Desk.latest_effect (Desk.effect_react o.desk ev) (hr.kind_eq he) (by decide) hi ha hq
    exact .later (h.failed (Desk.exit_bearing (hr.bearing he) hq) (hlatest ▸ hl)) ha

theorem Run.expects (h : Run session delay past o) (hs : o.desk.draft.stage = .review)
    (hp : o.desk.draft.needsPreview = true) : Expects past o := by
  induction h with
  | start => cases hs
  | @step past o h ev he ih =>
    have hrun := h.step ev he
    have hpreviews := Desk.Previews.of_effect (h.kind_eq he) (Desk.effect_react o.desk ev)
    generalize hr : o.desk.react ev = r at hpreviews
    have hdesk : (o.step ev).desk = r.1 := by rw [step_desk, hr]
    cases hpreviews with
    | away hnone =>
      have hfresh := hnone (hdesk ▸ hs)
      rw [hdesk, hfresh] at hp
      cases hp
    | kept hkept ha hi =>
      rw [← hdesk] at hkept
      exact (ih (hkept.stage ▸ hs) (hkept.needed ▸ hp)).step h he hkept ha (hr ▸ hi)
    | asked => exact hrun.expects_of_asked hr
    | failed hc ha hl hf =>
      rw [← hdesk] at hl hf
      exact hrun.expects_of_latest hl fun _ => .answered hc ha hf
    | left hq hl =>
      rw [← hdesk] at hl hq
      exact hrun.expects_of_latest hl fun hnone => absurd hnone hq

/-- A preview that comes in where files are needed is for the current values. -/
theorem Run.not_asksAgain (h : Run session delay past o) {c : Completion}
    (he : o.Allows (.completion c)) : ¬ o.desk.AsksAgain c := by
  rintro ⟨hc, ⟨fingerprint, files, ha, hne⟩, hs, hp⟩
  obtain ⟨i, hi, b, rfl⟩ := he
  obtain ⟨request, hj⟩ := Backend.answer_eq_preview ha
  exact hne ((h.expects hs hp).current i hi hc fingerprint request hj)

/-- No completion makes the desk ask for anything. -/
theorem Run.issued_completion (h : Run session delay past o) {c : Completion}
    (he : o.Allows (.completion c)) : (o.desk.react (.completion c)).2 = none :=
  Desk.issued_of_not_asksAgain (Desk.effect_react _ _) (h.not_asksAgain he)

theorem Run.awaited_completion (h : Run session delay past o) {c : Completion}
    (he : o.Allows (.completion c)) :
    (o.step (.completion c)).awaited = o.awaited.eraseP fun i => i.token == c.token := by
  rw [Office.step, after, h.issued_completion he]
  rfl

/-- Until the desk is left, whenever the review has no files for the current values, a preview for these is
waited for, or the one that came in last failed or was empty. No preview is out of date when it comes in where
files are needed, so that none is asked for again. -/
theorem preview_on_its_way (h : Run session delay past o) :
    (o.desk.exit = none → o.desk.draft.stage = .review → o.desk.draft.needsPreview = true →
      (o.desk.inflight.isPending .preview = true ∧ ∃ i ∈ o.awaited,
        o.desk.inflight.isCurrent i.token = true ∧
        ∃ request, i.job = .preview o.desk.draft.fingerprint request) ∨ LastFailed past o) ∧
    ∀ c, o.Allows (.completion c) → ¬ o.desk.AsksAgain c ∧ (o.desk.react (.completion c)).2 = none := by
  refine ⟨fun hq hs hp => ?_, fun c he => ⟨h.not_asksAgain he, h.issued_completion he⟩⟩
  obtain ⟨hcurrent, hfailed⟩ := h.expects hs hp
  cases hl : o.desk.inflight.latest .preview with
  | none => exact .inr (hfailed hq hl)
  | some s =>
    obtain ⟨i, hi, ht⟩ := h.registered.latest .preview s hl
    have hc : o.desk.inflight.isCurrent i.token = true := by simp [ht, Inflight.isCurrent, hl]
    have hkind : i.job.kind = .preview := by rw [← h.registered.kind_eq i hi, ht]
    obtain ⟨fingerprint, request, hj⟩ := Job.eq_preview hkind
    obtain rfl := hcurrent i hi hc fingerprint request hj
    exact .inl ⟨by simp [Inflight.isPending, hl], i, hi, hc, request, hj⟩

end Office

/-! A review whose only preview has failed. -/

namespace Sample

open Office

def silentBackend : Backend := { backend with preview := fun _ => .error (.timeout 30) }

def unpreviewed : Office := reviewing.step (answer silentBackend reviewing)

theorem unpreviewed_eq : unpreviewed = ⟨{ reviewing.desk with
    inflight := reviewing.desk.inflight.cancel .preview
    notice := some (.failure (.timeout 30)) }, []⟩ := rfl

end Sample

namespace Office

theorem preview_on_its_way_sample : ∃ past, Run .empty 0 past Sample.unpreviewed ∧
    Sample.unpreviewed.desk.exit = none ∧ Sample.unpreviewed.desk.draft.stage = .review ∧
    Sample.unpreviewed.desk.draft.needsPreview = true ∧ LastFailed past Sample.unpreviewed := by
  obtain ⟨past, h⟩ := Sample.reached_reviewing.answer Sample.silentBackend
  have hrun : Run .empty 0 past Sample.unpreviewed := h
  have hneeds : Sample.unpreviewed.desk.draft.needsPreview = true := rfl
  obtain ⟨hexpects, -⟩ := preview_on_its_way hrun
  rcases hexpects rfl rfl hneeds with ⟨-, i, hi, -⟩ | hfailed
  · rw [Sample.unpreviewed_eq] at hi
    exact absurd hi List.not_mem_nil
  · exact ⟨past, hrun, rfl, rfl, hneeds, hfailed⟩

end Office

end ChangeDesk
