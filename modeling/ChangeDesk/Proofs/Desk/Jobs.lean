import ChangeDesk.Proofs.Desk.Frame
import ChangeDesk.Proofs.Desk.Office
import ChangeDesk.Proofs.Draft.Sound

/-!
What the issued jobs ask for: each speaks of the draft as it stands when the job is issued. The draft itself
stays sound, because a template is asked for only while there is none.
-/
namespace ChangeDesk

def Job.Suits (d : Draft) : Job → Prop
  | .providers => True
  | .definition s => d.selection = some s
  | .typeahead q => d.selection = some ⟨q.provider, q.templateId⟩ ∧ Text.isBlank q.start = false
  | .preview fingerprint request => fingerprint = d.fingerprint ∧ request = d.previewRequest
  | .submit request => d.stage = .review ∧ d.validate .review = .ok () ∧ d.needsPreview = false ∧
    request = d.requestWith d.files

namespace Desk

variable {d d' : Desk} {r : Reaction}

/-- The job that a reaction issues, if any, suits the draft. -/
def Suited (r : Reaction) : Prop := ∀ i, r.2 = some i → i.job.Suits r.1.draft

theorem suited_quiet (d : Desk) : Suited (quiet d) := by
  intro i hi
  simp at hi

theorem suited_issue {job : Job} (h : job.Suits d.draft) : Suited (d.issue job) := by
  intro i hi
  rw [issue_snd, Option.some.injEq] at hi
  subst hi
  exact h

theorem suited_requestPreview (d : Desk) : Suited d.requestPreview := suited_issue ⟨rfl, rfl⟩

theorem suited_entry (h : Entry d r) : Suited r := by
  cases h with
  | choose | configure | review => exact suited_quiet _
  | load s hs ht hc => exact suited_issue (d := { d with editor := none, scroll := 0 }) hc
  | preview => exact suited_requestPreview _

theorem suited_arrival {a : Answer} (h : Arrival d a r) : Suited r := by
  cases h with
  | again => exact suited_requestPreview _
  | offer | noOffer | template | otherTemplate | suggestions | otherField => exact suited_quiet _
  | files | otherFiles | receipt | refused | failure => exact suited_quiet _
  | expired | expiredSubmit => exact suited_quiet _

theorem suited_effect {e : Event} (h : Effect d e r) : Suited r := by
  cases h with
  | glance | leave | refuse | edit | field | accept | acceptNone | openFile => exact suited_quiet _
  | act | confirm | close | justify | pause | silence | stale => exact suited_quiet _
  | reload => exact suited_issue trivial
  | enter hd hm hr => exact suited_entry hr
  | submit hb =>
    obtain ⟨session, he⟩ := submit_of_beginSubmit hb
    obtain ⟨hs, -, hv, hp, rfl, rfl⟩ := Draft.beginSubmit_eq_ok.1 hb
    rw [he]
    exact suited_issue ⟨hs, hv, hp, rfl⟩
  | preview => exact suited_requestPreview d
  | lookup hs hp hc hf hb => exact suited_issue ⟨hc, hb⟩
  | deliver hc ha => exact suited_arrival ha

structure Sound (d : Desk) : Prop where
  draft : d.draft.Sound
  settled : d.draft.template.isSome → d.inflight.latest .definition = none

namespace Sound

theorem of_eq (h : d.Sound) (hd : d'.draft = d.draft)
    (hl : d'.inflight.latest .definition = d.inflight.latest .definition) : d'.Sound :=
  ⟨hd ▸ h.draft, fun ht => hl.trans (h.settled (hd ▸ ht))⟩

theorem of_glance (h : d.Sound) (hg : Glance d d') : d'.Sound :=
  h.of_eq hg.draft (by rw [hg.inflight])

theorem of_setText (h : d.Sound) (hd : d'.draft.Sound)
    (hk : d.draft.Keeps d'.draft ∨ d.draft.Drops d'.draft)
    (hl : d'.inflight.latest .definition = d.inflight.latest .definition) : d'.Sound := by
  refine ⟨hd, fun ht => ?_⟩
  rcases hk with hk | hk
  · exact hl.trans (h.settled (hk.template ▸ ht))
  · simp [hk.template] at ht

theorem of_picked (h : d.Sound) (hp : Picked d d') : d'.Sound := by
  cases hp with
  | none => exact h
  | card s hs hc => exact h.of_setText (h.draft.choose s hs) (Draft.keeps_or_drops_choose _ s) rfl

theorem of_moves (h : d.Sound) {draft : Draft} (hm : d.draft.Moves draft) :
    Sound { d with draft := draft, refusal := none } :=
  h.of_setText (h.draft.moves hm) (.inl hm.keeps) rfl

theorem of_issue (h : d.Sound) (job : Job) (hj : job.kind ≠ .definition)
    (hd : d'.draft = d.draft)
    (hl : d'.inflight.latest .definition = d.inflight.latest .definition) :
    (d'.issue job).1.Sound := by
  refine h.of_eq hd ?_
  rw [issue_inflight, Inflight.latest_issue, if_neg hj.symm, hl]

theorem of_requestPreview (h : d.Sound) (hd : d'.draft = d.draft)
    (hl : d'.inflight.latest .definition = d.inflight.latest .definition) :
    d'.requestPreview.1.Sound :=
  h.of_issue (.preview _ _) (by simp [Job.kind]) hd hl

theorem of_entry (h : d.Sound) (he : Entry d r) : r.1.Sound := by
  cases he with
  | choose | configure | review => exact h.of_eq rfl rfl
  | load s hs ht hc => exact ⟨h.draft, fun hsome => by simp [ht] at hsome⟩
  | preview => exact h.of_requestPreview rfl rfl

/-- There is no template yet while one is waited for. -/
theorem template_eq_none (h : d.Sound) (hl : d.inflight.latest .definition ≠ none) :
    d.draft.template = none := by
  rw [← Option.not_isSome_iff_eq_none]
  exact fun hsome => hl (h.settled hsome)

theorem of_arrival (h : d.Sound) {a : Answer} (hl : d.inflight.latest a.kind ≠ none)
    (ha : Arrival { d with inflight := d.inflight.cancel a.kind } a r) : r.1.Sound := by
  have hd : Sound { d with inflight := d.inflight.cancel a.kind } :=
    ⟨h.draft, fun ht => Inflight.latest_cancel_eq_none _ (h.settled ht)⟩
  cases ha with
  | offer | noOffer | otherTemplate | suggestions | otherField | otherFiles | failure =>
    exact hd.of_eq rfl rfl
  | @template t ht =>
    -- A template that counts was waited for, so there was none before it.
    exact ⟨h.draft.template ht (h.template_eq_none hl), fun _ => rfl⟩
  | files => exact ⟨h.draft.withFiles _ _ d.draft.submitting, hd.settled⟩
  | again => exact hd.of_requestPreview rfl rfl
  | receipt => exact ⟨.new, fun _ => rfl⟩
  | refused => exact ⟨h.draft.withFiles d.draft.files d.draft.previewed _, hd.settled⟩
  | expired => exact ⟨h.draft, fun _ => rfl⟩
  | expiredSubmit => exact ⟨h.draft.withFiles d.draft.files d.draft.previewed _, fun _ => rfl⟩

end Sound

theorem sound_effect {e : Event} (hk : ∀ c, e = .completion c → c.token.kind = c.answer.kind)
    (h : d.Sound) (he : Effect d e r) : r.1.Sound := by
  cases he with
  | glance hg => exact h.of_glance hg
  | leave => exact ⟨h.draft, fun _ => rfl⟩
  | reload => exact h.of_issue .providers (by simp [Job.kind]) rfl rfl
  | enter hd hm hr => exact ((h.of_picked hd).of_moves hm).of_entry hr
  | refuse hd => exact (h.of_picked hd).of_eq rfl rfl
  | edit value t hs hf =>
    exact h.of_setText (h.draft.setText _ _ (by simp [hs])) (Draft.keeps_or_drops_setText ..) rfl
  | accept hs hh hf =>
    exact h.of_setText (h.draft.setText _ _ (by simp [hs])) (Draft.keeps_or_drops_setText ..) rfl
  | justify text =>
    exact h.of_setText (h.draft.justify text) (.inl (Draft.keeps_setText_justification _ text)) rfl
  | field | acceptNone | openFile | act | close | pause | silence | stale => exact h.of_eq rfl rfl
  | confirm he hw =>
    constructor
    · rw [quiet_fst, confirmEdit_draft hw]
      exact h.draft.withFiles _ d.draft.previewed d.draft.submitting
    · rw [quiet_fst, confirmEdit_draft hw, confirmEdit_inflight]
      exact h.settled
  | submit hb =>
    obtain ⟨-, session, he⟩ := submit_of_begun hb
    rw [he]
    exact ⟨h.draft.withFiles d.draft.files d.draft.previewed true, h.settled⟩
  | preview => exact h.of_requestPreview rfl rfl
  | lookup => exact h.of_issue (.typeahead _) (by simp [Job.kind]) rfl rfl
  | @deliver c _ hc ha =>
    rw [hk c rfl] at ha
    exact h.of_arrival (Inflight.latest_ne_of_isCurrent hc (hk c rfl)) ha

end Desk

end ChangeDesk
