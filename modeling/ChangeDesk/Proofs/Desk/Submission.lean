import ChangeDesk.Proofs.Desk.Tokens

/-!
The submission of a request: the draft's mark that one is under way and the token that is waited for are
set and cleared together, so that submissions and their results are counted alike.
-/
namespace ChangeDesk

theorem Job.eq_submit {j : Job} (h : j.kind = .submit) : ∃ request, j = .submit request := by
  cases j with
  | submit request => exact ⟨request, rfl⟩
  | providers | definition | typeahead | preview => simp [Job.kind] at h

namespace Desk

def applies (d : Desk) (kind : RequestKind) : Event → Bool
  | .completion c => d.inflight.isCurrent c.token && c.answer.kind == kind
  | _ => false

structure Apart (d : Desk) (r : Reaction) : Prop where
  submitting : r.1.draft.submitting = d.draft.submitting
  awaits : r.1.inflight.awaits .submit = d.inflight.awaits .submit
  exit : r.1.exit = d.exit
  issued : ∀ i, r.2 = some i → i.job.kind ≠ .submit

/-- How an event bears on the submission: it has nothing to do with it, begins one, brings back its
refusal, or leaves the desk. -/
inductive Bearing (d : Desk) : Event → Reaction → Prop where
  | apart {e : Event} {r : Reaction} (h : Apart d r) (ha : d.applies .submit e = false) : Bearing d e r
  | begun {k : Key} {clock : Clock} {request : ChangeRequest} {draft : Draft}
      (h : d.draft.beginSubmit = .ok (request, draft)) : Bearing d (.key k clock) (d.submit clock)
  | refused {c : Completion} {e : ApiError} (hc : d.inflight.isCurrent c.token = true)
      (hk : c.token.kind = .submit) (ha : c.answer = .submit (.error e)) :
      Bearing d (.completion c)
        (quiet { d with
          inflight := d.inflight.cancel .submit, draft := d.draft.submitFailed
          notice := some (.failure e) })
  | left {e : Event} {d' : Desk} (h : d'.exit ≠ none) (hl : d'.inflight.latest .submit = none) :
      Bearing d e (quiet d')

variable {d d' : Desk} {r : Reaction}

namespace Apart

theorem of_quiet (hs : d'.draft.submitting = d.draft.submitting)
    (hl : d'.inflight.awaits .submit = d.inflight.awaits .submit) (he : d'.exit = d.exit) :
    Apart d (quiet d') :=
  ⟨hs, hl, he, by simp⟩

theorem of_glance (h : Glance d d') : Apart d (quiet d') :=
  .of_quiet (by rw [h.draft]) (by rw [h.inflight]) h.exit

theorem of_issue (job : Job) (hj : job.kind ≠ .submit)
    (hs : d'.draft.submitting = d.draft.submitting)
    (hl : d'.inflight.awaits .submit = d.inflight.awaits .submit) (he : d'.exit = d.exit) :
    Apart d (d'.issue job) := by
  refine ⟨hs, ?_, he, fun i hi => ?_⟩
  · rw [issue_inflight, Inflight.awaits_issue hj.symm, hl]
  · rw [issue_snd, Option.some.injEq] at hi
    subst hi
    exact hj

theorem of_requestPreview (hs : d'.draft.submitting = d.draft.submitting)
    (hl : d'.inflight.awaits .submit = d.inflight.awaits .submit) (he : d'.exit = d.exit) :
    Apart d d'.requestPreview :=
  of_issue (.preview _ _) (by simp [Job.kind]) hs hl he

theorem trans {d₁ : Desk} (h : Apart d (quiet d₁)) (h' : Apart d₁ r) : Apart d r :=
  ⟨h'.submitting.trans h.submitting, h'.awaits.trans h.awaits, h'.exit.trans h.exit, h'.issued⟩

theorem of_entry (h : Entry d r) : Apart d r := by
  cases h with
  | choose | configure | review => exact .of_quiet rfl rfl rfl
  | load s =>
    have h : Apart d (issue (.definition s) { d with editor := none, scroll := 0 }) :=
      .of_issue _ (by simp [Job.kind]) rfl rfl rfl
    exact ⟨h.submitting, h.awaits, h.exit, h.issued⟩
  | preview => exact .of_requestPreview rfl rfl rfl

theorem of_picked (h : Picked d d') : Apart d (quiet d') := by
  exact .of_quiet h.submitting (by rw [h.inflight]) h.exit

theorem of_confirmEdit {e : Editor} (hw : e.readOnly = false) : Apart d (quiet (d.confirmEdit e)) := by
  have hawaits : (d.confirmEdit e).inflight.awaits .submit = d.inflight.awaits .submit := by
    rw [confirmEdit_inflight]
  have hdraft : (d.confirmEdit e).draft.submitting = d.draft.submitting := by
    rw [confirmEdit_draft hw]
  exact .of_quiet hdraft hawaits (confirmEdit_exit e)

end Apart

theorem bearing_arrival {c : Completion} (hk : c.token.kind = c.answer.kind)
    (hc : d.inflight.isCurrent c.token = true)
    (h : Arrival { d with inflight := d.inflight.cancel c.token.kind } c.answer r) :
    Bearing d (.completion c) r := by
  obtain ⟨token, answer⟩ := c
  simp only at hk hc h
  rw [hk] at h
  have hother (hs : answer.kind ≠ .submit) : d.applies .submit (.completion ⟨token, answer⟩) = false := by
    simp [applies, hs]
  cases h with
  | offer | noOffer | template | otherTemplate | suggestions | otherField | files | otherFiles =>
    exact .apart (.of_quiet rfl rfl rfl) (hother (by simp [Answer.kind]))
  | failure ha hp hs =>
    exact .apart (.of_quiet rfl (Inflight.awaits_cancel hs.symm) rfl) (hother hs)
  | again => exact .apart (.of_requestPreview rfl rfl rfl) (hother (by simp [Answer.kind]))
  | receipt | expired | expiredSubmit => exact .left (by simp [quit, takeReceipt]) rfl
  | refused he => exact .refused hc hk rfl

theorem bearing_effect {e : Event} (hk : ∀ c, e = .completion c → c.token.kind = c.answer.kind)
    (h : Effect d e r) : Bearing d e r := by
  cases h with
  | glance hg => exact .apart (.of_glance hg) rfl
  | leave => exact .left (by simp [quit]) rfl
  | reload => exact .apart (.of_issue _ (by simp [Job.kind]) rfl rfl rfl) rfl
  | @enter k clock d₁ draft _ hd hm hr =>
    have hmoved : Apart d₁ (quiet { d₁ with draft := draft, refusal := none }) :=
      .of_quiet hm.submitting rfl rfl
    exact .apart (((Apart.of_picked hd).trans hmoved).trans (.of_entry hr)) rfl
  | refuse hd =>
    have hapart := Apart.of_picked hd
    exact .apart ⟨hapart.submitting, hapart.awaits, hapart.exit, hapart.issued⟩ rfl
  | edit | justify => exact .apart (.of_quiet (Draft.setText_submitting _ _) rfl rfl) rfl
  | accept => exact .apart (.of_quiet (Draft.setText_submitting _ _) rfl rfl) rfl
  | openFile | act | close | pause | field | acceptNone => exact .apart (.of_quiet rfl rfl rfl) rfl
  | confirm he hw => exact .apart (.of_confirmEdit hw) rfl
  | submit hb => exact .begun hb
  | preview => exact .apart (.of_requestPreview rfl rfl rfl) rfl
  | lookup => exact .apart (.of_issue _ (by simp [Job.kind]) rfl rfl rfl) rfl
  | silence => exact .apart (.of_quiet rfl rfl rfl) rfl
  | deliver hc ha => exact bearing_arrival (hk _ rfl) hc ha
  | stale hc => exact .apart (.of_quiet rfl rfl rfl) (by simp [applies, hc])

/-- A request is issued for submission only as a complete draft on review hands it out. -/
theorem Bearing.eq_issue {e : Event} {token : Token} {request : ChangeRequest} (h : Bearing d e r)
    (hi : r.2 = some ⟨token, .submit request⟩) :
    (d.draft.stage = .review ∧ d.draft.validate .review = .ok () ∧ d.draft.needsPreview = false) ∧
      request = d.draft.requestWith d.draft.files ∧ ∃ session last, r = issue (.submit request)
        { d with
          draft := { d.draft with submitting := true }, session := session, lastAttempt := last
          refusal := none } := by
  cases h with
  | apart h => exact absurd rfl (h.issued _ hi)
  | begun h =>
    obtain ⟨session, he⟩ := submit_of_beginSubmit h
    obtain ⟨hs, -, hv, hp, hrequest, rfl⟩ := Draft.beginSubmit_eq_ok.1 h
    rw [he] at hi ⊢
    simp only [issue_snd, Option.some.injEq, Issued.mk.injEq, Job.submit.injEq] at hi
    obtain ⟨-, rfl⟩ := hi
    exact ⟨⟨hs, hv, hp⟩, hrequest, session, _, rfl⟩
  | refused | left => simp at hi

/-- The draft is marked exactly while the result of a submission is waited for. -/
def Marked (d : Desk) : Prop := d.inflight.isPending .submit = d.draft.submitting

/-- A submission whose result is waited for is marked. Unlike the converse, this holds after the desk was left. -/
def MarksPending (d : Desk) : Prop :=
  d.inflight.latest .submit ≠ none → d.draft.submitting = true

def issues (kind : RequestKind) (r : Reaction) : Bool := r.2.any (fun i => i.job.kind == kind)

theorem Apart.latest (h : Apart d r) :
    r.1.inflight.latest .submit = d.inflight.latest .submit := congrArg Prod.snd h.awaits

theorem issues_of_apart (h : Apart d r) : issues .submit r = false := by
  obtain ⟨d', issued⟩ := r
  cases issued with
  | none => rfl
  | some i => simpa [issues] using h.issued i rfl

theorem exit_bearing {e : Event} (h : Bearing d e r) (hq : r.1.exit = none) : d.exit = none := by
  cases h with
  | apart h => exact h.exit ▸ hq
  | begun h =>
    obtain ⟨session, he⟩ := submit_of_beginSubmit h
    rw [he] at hq
    exact hq
  | refused => exact hq
  | left hl => exact absurd hq hl

theorem marksPending_bearing {e : Event} (hm : d.MarksPending) (h : Bearing d e r) :
    r.1.MarksPending := by
  cases h with
  | apart h =>
    rw [MarksPending, h.latest, h.submitting]
    exact hm
  | begun h =>
    obtain ⟨-, -, -, -, -, rfl⟩ := Draft.beginSubmit_eq_ok.1 h
    obtain ⟨session, he⟩ := submit_of_beginSubmit h
    rw [he]
    exact fun _ => rfl
  | refused => exact fun hl => absurd rfl hl
  | left _ hnone => exact fun hl => absurd hnone hl

/-- Up to leaving the desk, a submission that begins sets the mark and a result that counts clears it. -/
theorem marked_bearing {e : Event} (hm : d.Marked) (h : Bearing d e r) (hq : r.1.exit = none) :
    r.1.Marked ∧ (issues .submit r).toNat + d.draft.submitting.toNat =
      (d.applies .submit e).toNat + r.1.draft.submitting.toNat := by
  cases h with
  | apart h ha =>
    constructor
    · simpa [Marked, Inflight.isPending, h.latest, h.submitting] using hm
    · rw [issues_of_apart h, ha, h.submitting]
  | begun h =>
    obtain ⟨-, hs, -, -, -, rfl⟩ := Draft.beginSubmit_eq_ok.1 h
    obtain ⟨session, he⟩ := submit_of_beginSubmit h
    rw [he]
    constructor
    · simp [Marked, Inflight.isPending, Inflight.latest_issue, Job.kind]
    · simp [issues, Job.kind, applies, hs]
  | refused hc hk ha =>
    simp only [Inflight.isCurrent, hk, Bool.and_eq_true, beq_iff_eq] at hc
    have hs : d.draft.submitting = true := by
      rw [← hm, Inflight.isPending, hc.2]
      rfl
    constructor
    · simp [Marked, Inflight.isPending, Inflight.latest_cancel, Draft.submitFailed]
    · simp [issues, applies, Inflight.isCurrent, hk, hc, ha, hs, Answer.kind, Draft.submitFailed]
  | left hl => exact absurd hq hl

end Desk

namespace Office

variable {session : Session} {delay : Nat} {past : Past} {o : Office}

def issuedCount (kind : RequestKind) (past : Past) : Nat :=
  past.countP (fun p => Desk.issues kind (p.1.desk.react p.2))

def appliedCount (kind : RequestKind) (past : Past) : Nat :=
  past.countP (fun p => p.1.desk.applies kind p.2)

theorem issuedCount_cons (kind : RequestKind) (o : Office) (e : Event) (past : Past) :
    issuedCount kind ((o, e) :: past) =
      issuedCount kind past + (Desk.issues kind (o.desk.react e)).toNat := by
  cases h : Desk.issues kind (o.desk.react e) <;> simp [issuedCount, h]

theorem appliedCount_cons (kind : RequestKind) (o : Office) (e : Event) (past : Past) :
    appliedCount kind ((o, e) :: past) =
      appliedCount kind past + (o.desk.applies kind e).toNat := by
  cases h : o.desk.applies kind e <;> simp [appliedCount, h]

theorem Run.bearing (h : Run session delay past o) {e : Event} (he : o.Allows e) :
    Desk.Bearing o.desk e (o.desk.react e) :=
  Desk.bearing_effect (h.kind_eq he) (Desk.effect_react o.desk e)

theorem Run.marksPending (h : Run session delay past o) : o.desk.MarksPending := by
  induction h with
  | start => exact fun hl => absurd rfl hl
  | step h e he ih => exact Desk.marksPending_bearing ih (h.bearing he)

/-- Up to leaving the desk the mark is right, and submissions begun and results that counted differ by it. -/
theorem Run.marked (h : Run session delay past o) (hq : o.desk.exit = none) :
    o.desk.Marked ∧
      issuedCount .submit past = appliedCount .submit past + o.desk.draft.submitting.toNat := by
  induction h with
  | start => exact ⟨rfl, rfl⟩
  | step h e he ih =>
    have hbearing := h.bearing he
    obtain ⟨hm, hcount⟩ := ih (Desk.exit_bearing hbearing hq)
    obtain ⟨hmarked, hstep⟩ := Desk.marked_bearing hm hbearing hq
    refine ⟨hmarked, ?_⟩
    rw [issuedCount_cons, appliedCount_cons]
    simp only [step_desk] at hcount hstep ⊢
    omega

/-- Until the desk is left, a request is being submitted exactly while the result of a submission is waited
for; then one completion that is still to come carries the current token, and one submission more was begun
than results have counted. -/
theorem submitting_iff_pending (h : Run session delay past o) (hq : o.desk.exit = none) :
    (o.desk.draft.submitting = true ↔ o.desk.inflight.isPending .submit = true) ∧
    (o.desk.draft.submitting = true → ∃ i request, i.job = .submit request ∧
      o.awaited.filter (fun i => i.job.kind == .submit && o.desk.inflight.isCurrent i.token) = [i]) ∧
    issuedCount .submit past = appliedCount .submit past + o.desk.draft.submitting.toNat := by
  obtain ⟨hm, hcount⟩ := h.marked hq
  have hiff : o.desk.draft.submitting = true ↔ o.desk.inflight.isPending .submit = true := by rw [hm]
  refine ⟨hiff, fun hs => ?_, hcount⟩
  obtain ⟨s, hlatest⟩ := Option.isSome_iff_exists.1 (hiff.1 hs)
  obtain ⟨i, hfilter⟩ := h.registered.filter_current hlatest
  have hkinds : ∀ j ∈ o.awaited, (j.job.kind == .submit && o.desk.inflight.isCurrent j.token) =
      (j.token.kind == .submit && o.desk.inflight.isCurrent j.token) := by
    intro j hj
    rw [h.registered.kind_eq j hj]
  rw [List.filter_congr hkinds]
  have hi : i.job.kind = .submit := by
    have hmem : i ∈ [i] := List.mem_singleton_self i
    rw [← hfilter, List.mem_filter] at hmem
    rw [← h.registered.kind_eq i hmem.1]
    rw [Bool.and_eq_true, beq_iff_eq] at hmem
    exact hmem.2.1
  obtain ⟨request, hjob⟩ := Job.eq_submit hi
  exact ⟨i, request, hjob, hfilter⟩

end Office

/-! One request from the opening of a desk to its submission. -/

namespace Sample

open Office

def clock : Clock := ⟨0, ⟨0, 0⟩⟩

def press (o : Office) (c : KeyCode) : Office := o.step (.key ⟨c, false⟩ clock)

/-- The completion of the job that was issued last. -/
def answer (b : Backend) (o : Office) : Event :=
  match o.awaited with
  | i :: _ => .completion (b.complete i)
  | [] => .tick clock

def file : ChangedFile := ⟨"main.tf", none, "", "b", 1⟩

/-- A backend with one integration, whose template asks for one field. -/
def backend : Backend where
  providers := .ok [⟨"aws", "s3"⟩]
  definition _ := .ok ⟨"s3", "aws", none, [⟨"bucket", none, none, true, false⟩]⟩
  typeahead _ := .ok []
  preview _ := .ok [file]
  submit _ := .error (.timeout 30)

/-- An office that can be reached with an empty session store. -/
def Reached (o : Office) : Prop := ∃ past, Run .empty 0 past o

theorem Reached.press {o : Office} (h : Reached o) (c : KeyCode) : Reached (press o c) := by
  obtain ⟨past, h⟩ := h
  exact ⟨_, h.step _ trivial⟩

theorem answer_of_awaited {o : Office} {i : Issued} {rest : List Issued} (h : o.awaited = i :: rest)
    (b : Backend) : answer b o = .completion (b.complete i) := by
  rw [answer, h]

theorem allows_answer (b : Backend) (o : Office) : o.Allows (answer b o) := by
  unfold answer
  split
  · rename_i i rest hawaited
    exact ⟨i, by simp [hawaited], b, rfl⟩
  · trivial

theorem Reached.answer {o : Office} (h : Reached o) (b : Backend) : Reached (o.step (answer b o)) := by
  obtain ⟨past, h⟩ := h
  exact ⟨_, h.step _ (allows_answer b o)⟩

def choosing : Office := (start .empty 0).step (answer backend (start .empty 0))

def loading : Office := press choosing .enter

/-- The field of the template is filled in, and a preview is awaited. -/
def reviewing : Office :=
  press (press (loading.step (answer backend loading)) (.char 'x')) .enter

theorem reached_reviewing : Reached reviewing := by
  have hchoosing : Reached choosing := Reached.answer ⟨[], .start⟩ backend
  exact (((hchoosing.press .enter).answer backend).press (.char 'x')).press .enter

def previewed : Office where
  desk := { reviewing.desk with
    inflight := reviewing.desk.inflight.cancel .preview
    draft := { reviewing.desk.draft with
      files := [file], previewed := some reviewing.desk.draft.fingerprint }
    editor := none, selectedFile := 0, scroll := 0 }
  awaited := []

theorem step_reviewing_of {b : Backend} {files : List ChangedFile}
    (hb : ∀ request, b.preview request = .ok files) :
    reviewing.step (answer b reviewing) = { previewed with
      desk := { previewed.desk with draft := { previewed.desk.draft with files := files } } } := by
  have hawaited : reviewing.awaited = [⟨⟨.preview, 3, 0⟩,
      .preview reviewing.desk.draft.fingerprint reviewing.desk.draft.previewRequest⟩] := rfl
  have hanswer : answer b reviewing = .completion ⟨⟨.preview, 3, 0⟩,
      .preview reviewing.desk.draft.fingerprint (.ok files)⟩ := by
    rw [answer_of_awaited hawaited, Backend.complete, Backend.answer, hb]
  rw [step, hanswer, Desk.react_preview rfl rfl, remaining, hawaited]
  rfl

theorem step_reviewing : reviewing.step (answer backend reviewing) = previewed :=
  step_reviewing_of fun _ => rfl

theorem reached_previewed : Reached previewed := step_reviewing ▸ reached_reviewing.answer backend

def ready : Office := press (press (press previewed .tab) (.char 'y')) .tab

theorem reached_ready : Reached ready :=
  ((reached_previewed.press .tab).press (.char 'y')).press .tab

def request : ChangeRequest := ready.desk.draft.requestWith [file]

theorem beginSubmit_ready : ready.desk.draft.beginSubmit =
    .ok (request, { ready.desk.draft with submitting := true }) := by
  have htext : reviewing.desk.draft.fingerprintText = ready.desk.draft.fingerprintText := by
    decide +kernel
  have hpreviewed : ready.desk.draft.previewed = some ready.desk.draft.fingerprint := by
    rw [Draft.fingerprint, ← htext]
    rfl
  have hfiles : ready.desk.draft.files = [file] := rfl
  have hneeds : ready.desk.draft.needsPreview = false :=
    Draft.needsPreview_eq_false.2 ⟨by simp [hfiles], hpreviewed⟩
  exact Draft.beginSubmit_eq_ok.2 ⟨rfl, rfl, rfl, hneeds, rfl, rfl⟩

def submit : Event := .key ⟨.char 'S', false⟩ clock

theorem react_submit : ∃ session, ready.desk.react submit = Desk.issue (.submit request)
    { ready.desk with
      draft := { ready.desk.draft with submitting := true }, session := session
      lastAttempt := some clock.wall, refusal := none } := by
  have hreact : ready.desk.react submit = ready.desk.submit clock :=
    Desk.react_submits (.files rfl rfl rfl rfl rfl) clock
  rw [hreact]
  exact Desk.submit_of_beginSubmit beginSubmit_ready

theorem issued_submit :
    (ready.desk.react submit).2 = some ⟨⟨.submit, 4, 0⟩, .submit request⟩ := by
  obtain ⟨session, hreact⟩ := react_submit
  rw [hreact]
  rfl

end Sample

namespace Office

theorem submitting_iff_pending_sample : ∃ past o, Run .empty 0 past o ∧ o.desk.exit = none ∧
    o.desk.draft.submitting = true ∧ o.desk.inflight.isPending .submit = true ∧
    issuedCount .submit past = appliedCount .submit past + 1 := by
  obtain ⟨past, h⟩ := Sample.reached_ready
  obtain ⟨session, hreact⟩ := Sample.react_submit
  have hrun := h.step Sample.submit trivial
  have hexit : (Sample.ready.step Sample.submit).desk.exit = none := by
    rw [step_desk, hreact]
    rfl
  have hsubmitting : (Sample.ready.step Sample.submit).desk.draft.submitting = true := by
    rw [step_desk, hreact]
    rfl
  obtain ⟨hiff, -, hcount⟩ := submitting_iff_pending hrun hexit
  rw [hsubmitting] at hcount
  exact ⟨_, _, hrun, hexit, hsubmitting, hiff.1 hsubmitting, hcount⟩

end Office

end ChangeDesk
