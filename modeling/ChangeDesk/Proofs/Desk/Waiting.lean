import ChangeDesk.Proofs.Desk.Files
import ChangeDesk.Proofs.Desk.Submission

/-!
What a desk waits for, kind by kind. Whether an answer of some kind is waited for changes only when a job of
that kind is issued, when its answer comes in, when completions are not wanted any more, or when the desk is
left. Of each kind at most one awaited job has an answer that counts.
-/
namespace ChangeDesk

theorem Job.eq_preview {j : Job} (h : j.kind = .preview) :
    ∃ fingerprint request, j = .preview fingerprint request := by
  cases j with
  | preview fingerprint request => exact ⟨fingerprint, request, rfl⟩
  | providers | definition | typeahead | submit => simp [Job.kind] at h

/-- Of two awaited jobs of one kind only one has an answer that counts. -/
theorem Registered.eq_of_isCurrent {t : Inflight} {awaited : List Issued} (h : Registered t awaited)
    {i j : Issued} (hi : i ∈ awaited) (hj : j ∈ awaited) (hci : t.isCurrent i.token = true)
    (hcj : t.isCurrent j.token = true) (hk : i.job.kind = j.job.kind) : i = j := by
  rw [← h.kind_eq i hi, ← h.kind_eq j hj] at hk
  exact h.eq_of_token_eq hi hj (Inflight.eq_of_isCurrent hcj hci hk)

namespace Desk

variable {d d' : Desk} {r : Reaction} {ev : Event} {kind : RequestKind}

theorem latest_issue_of_issues {job : Job} (hi : issues kind (d.issue job) = false) :
    (d.issue job).1.inflight.latest kind = d.inflight.latest kind := by
  have hne : kind ≠ job.kind := by
    rintro rfl
    simp [issues] at hi
  rw [issue_inflight, Inflight.latest_issue, if_neg hne]

theorem latest_entry (h : Entry d r) (ht : kind ≠ .typeahead) (hi : issues kind r = false) :
    r.1.inflight.latest kind = d.inflight.latest kind := by
  cases h with
  | choose | review => rfl
  | configure => exact if_neg ht
  | load s =>
    have hissued := latest_issue_of_issues (d := { d with editor := none, scroll := 0 }) hi
    exact (if_neg ht).trans hissued
  | preview => exact latest_issue_of_issues hi

theorem latest_arrival {a : Answer} (h : Arrival d a r) (hi : issues kind r = false)
    (hq : r.1.exit = none) : r.1.inflight.latest kind = d.inflight.latest kind := by
  cases h with
  | offer | noOffer | template | otherTemplate | suggestions | otherField => rfl
  | files | otherFiles | refused | failure => rfl
  | again => exact latest_issue_of_issues hi
  | receipt | expired | expiredSubmit => simp [takeReceipt, quit] at hq

/-- Unless the desk is left, an event that neither issues a job of this kind nor brings an answer of it that
counts makes no difference to what is waited for. Completions are an exception, as they can be cancelled. -/
theorem latest_effect (h : Effect d ev r) (hk : ∀ c, ev = .completion c → c.token.kind = c.answer.kind)
    (ht : kind ≠ .typeahead) (hi : issues kind r = false) (ha : d.applies kind ev = false)
    (hq : r.1.exit = none) : r.1.inflight.latest kind = d.inflight.latest kind := by
  cases h with
  | glance hg => rw [quiet_fst, hg.inflight]
  | leave => simp [quit] at hq
  | reload | preview | lookup => exact latest_issue_of_issues hi
  | enter hd hm hr =>
    have hentry := latest_entry hr ht hi
    rw [← hd.inflight]
    exact hentry
  | refuse hd => exact congrArg (·.latest kind) hd.inflight
  | edit | openFile | act | close | justify | pause | stale => rfl
  | field | accept | acceptNone | silence => exact if_neg ht
  | confirm => rw [quiet_fst, confirmEdit_inflight]
  | submit hb =>
    obtain ⟨session, he⟩ := submit_of_beginSubmit hb
    rw [he] at hi ⊢
    exact latest_issue_of_issues hi
  | @deliver c _ hc hd =>
    have hne : kind ≠ c.token.kind := by
      rintro rfl
      simp [applies, hc, hk c rfl] at ha
    exact (latest_arrival hd hi hq).trans (if_neg hne)

/-- An answer that counts ends the waiting for its kind, unless it makes the desk ask again. -/
theorem latest_applied {c : Completion} (h : Effect d (.completion c) r)
    (hk : c.token.kind = c.answer.kind) (ha : d.applies kind (.completion c) = true)
    (hi : issues kind r = false) (hq : r.1.exit = none) : r.1.inflight.latest kind = none := by
  simp only [applies, Bool.and_eq_true, beq_iff_eq] at ha
  cases h with
  | stale hc => simp [hc] at ha
  | deliver hc hd =>
    have hlatest := latest_arrival hd hi hq
    rw [hlatest, Inflight.latest_cancel, if_pos (hk.trans ha.2).symm]

end Desk

end ChangeDesk
