import ChangeDesk.Proofs.Draft.Stages

/-!
Operations on a draft in place. They look at the draft as it stands and write one of its parts after the other,
and a refusal keeps what has been written before it. Nothing has been: a refused operation ends in the draft that
it was performed on, so that whatever is refused can be left out of a history. A submission that failed ends there
as well, and the next try hands out the same request.
-/
namespace ChangeDesk.Draft

/-- Operations in place: each ends with a draft, whether it is done or refused. Not every refusal has a reason. -/
abbrev InPlace := EStateM (Option Refusal) Draft

namespace InPlace

def check (stage : Stage) : InPlace Unit := do
  if stage = .configure ∧ (← get).template.isNone then throw (some .templatePending)
  let missing := (← get).missing stage
  if missing ≠ [] then throw (some (.missingFields missing))
  if stage = .review ∧ (← get).files.isEmpty then throw (some .noFiles)

def clearDependents : InPlace Unit := do
  modify fun d => { d with form := d.form.filterKeys fun name => !isConfigured name }
  modify fun d => { d with template := none }
  modify fun d => { d with files := [] }
  modify fun d => { d with previewed := none }

def setField (name : String) (v : Json) : InPlace Unit := do
  if isChoiceField name && !(← get).holds name v then clearDependents
  modify fun d => { d with form := d.form.insert name v }

def setTemplate (t : Template) : InPlace Unit := do
  if !(← get).accepts t then throw none
  modify fun d => { d with template := some t }

def applyPreview (fingerprint : String) (files : List ChangedFile) : InPlace Unit := do
  if fingerprint ≠ (← get).fingerprint then throw none
  modify fun d => { d with files := files }
  modify fun d => { d with previewed := some fingerprint }

def replaceFile (file : ChangedFile) : InPlace Unit := do
  match slot? file.path (← get).files with
  | some i => modify fun d => { d with files := d.files.set i file }
  | none => throw none

def advance : InPlace Unit := do
  match (← get).stage.next? with
  | some next =>
    check (← get).stage
    modify fun d => { d with stage := next }
  | none => throw (some .noNextStage)

def back : InPlace Unit := do
  if let some previous := (← get).stage.previous? then
    modify fun d => { d with stage := previous }

def goTo (stage : Stage) : InPlace Unit := do
  if (← get).stage.index < stage.index then throw (some (.skipAhead stage))
  modify fun d => { d with stage := stage }

def beginSubmit : InPlace ChangeRequest := do
  if (← get).stage ≠ .review then throw (some .notOnReview)
  if (← get).submitting then throw (some .submitInProgress)
  check .review
  if (← get).needsPreview then throw (some .stalePreview)
  modify fun d => { d with submitting := true }
  return (← get).requestWith (← get).files

end InPlace

def Operation.inPlace : Operation → InPlace Unit
  | .setField name v => InPlace.setField name v
  | .setTemplate t => InPlace.setTemplate t
  | .applyPreview fingerprint files => InPlace.applyPreview fingerprint files
  | .replaceFile file => InPlace.replaceFile file
  | .advance => InPlace.advance
  | .back => InPlace.back
  | .goTo stage => InPlace.goTo stage
  | .beginSubmit => do let _ ← InPlace.beginSubmit
  | .submitFailed => modify fun d => { d with submitting := false }
  | .submitSucceeded => set new

variable {d : Draft}

/-- How an operation ends that says only whether it was done. -/
def ending : Bool × Draft → EStateM.Result (Option Refusal) Draft Unit
  | (true, d) => .ok () d
  | (false, d) => .error none d

/-- How an operation ends that gives a reason when it is refused; it leaves the draft as it was then. -/
def endingOr {α : Type} (d : Draft) : Except Refusal (α × Draft) → EStateM.Result (Option Refusal) Draft α
  | .ok (a, d') => .ok a d'
  | .error reason => .error (some reason) d

namespace InPlace

theorem run_get_bind {α : Type} (f : Draft → InPlace α) (d : Draft) : (get >>= f).run d = (f d).run d := rfl

/-- A check writes nothing. -/
theorem run_check (d : Draft) (stage : Stage) :
    (check stage).run d = d.endingOr ((d.validate stage).map (·, d)) := by
  rw [check, validate, run_get_bind]
  by_cases htemplate : stage = .configure ∧ d.template.isNone
  · rw [if_pos htemplate, if_pos htemplate]
    rfl
  · rw [if_neg htemplate, if_neg htemplate, run_get_bind]
    by_cases hmissing : d.missing stage ≠ []
    · rw [if_pos hmissing, if_pos hmissing]
      rfl
    · rw [if_neg hmissing, if_neg hmissing, run_get_bind]
      split <;> rfl

theorem run_check_bind {α : Type} (stage : Stage) (f : Unit → InPlace α) (d : Draft) :
    (check stage >>= f).run d =
      match d.validate stage with
      | .ok () => (f ()).run d
      | .error reason => .error (some reason) d := by
  rw [EStateM.run_bind, run_check]
  cases d.validate stage <;> rfl

theorem run_setField (d : Draft) (name : String) (v : Json) :
    (setField name v).run d = .ok () (d.setField name v) := by
  rw [setField, Draft.setField, run_get_bind]
  cases isChoiceField name && !d.holds name v <;> rfl

theorem run_setTemplate (d : Draft) (t : Template) : (setTemplate t).run d = ending (d.setTemplate t) := by
  rw [setTemplate, Draft.setTemplate, run_get_bind]
  cases d.accepts t <;> rfl

theorem run_applyPreview (d : Draft) (fingerprint : String) (files : List ChangedFile) :
    (applyPreview fingerprint files).run d = ending (d.applyPreview fingerprint files) := by
  rw [applyPreview, Draft.applyPreview, run_get_bind]
  by_cases h : fingerprint = d.fingerprint
  · rw [if_pos h, if_neg (not_not_intro h)]
    rfl
  · rw [if_neg h, if_pos h]
    rfl

theorem run_replaceFile (d : Draft) (file : ChangedFile) :
    (replaceFile file).run d = ending (d.replaceFile file) := by
  have hfound : (d.file? file.path).isSome = (slot? file.path d.files).isSome := by
    rw [Bool.eq_iff_iff]
    simp [file?, slot?]
  rw [replaceFile, Draft.replaceFile, run_get_bind, hfound]
  cases hslot : slot? file.path d.files with
  | none => rfl
  | some i =>
    rw [replaceFirst_eq_set hslot]
    rfl

theorem run_advance (d : Draft) : advance.run d = d.endingOr (d.advance.map ((), ·)) := by
  rw [advance, Draft.advance, run_get_bind]
  cases d.stage.next? with
  | none => rfl
  | some next =>
    rw [run_get_bind, run_check_bind]
    cases d.validate d.stage <;> rfl

theorem run_back (d : Draft) : back.run d = .ok () d.back := by
  rw [back, Draft.back, run_get_bind]
  cases d.stage.previous? <;> rfl

theorem run_goTo (d : Draft) (stage : Stage) :
    (goTo stage).run d = d.endingOr ((d.goTo stage).map ((), ·)) := by
  rw [goTo, Draft.goTo, run_get_bind]
  split <;> rfl

theorem run_beginSubmit (d : Draft) : beginSubmit.run d = d.endingOr d.beginSubmit := by
  rw [beginSubmit, Draft.beginSubmit, run_get_bind]
  by_cases hstage : d.stage ≠ .review
  · rw [if_pos hstage, if_pos hstage]
    rfl
  · rw [if_neg hstage, if_neg hstage, run_get_bind]
    by_cases hsubmitting : d.submitting = true
    · rw [if_pos hsubmitting, if_pos hsubmitting]
      rfl
    · rw [if_neg hsubmitting, if_neg hsubmitting, run_check_bind]
      cases d.validate .review with
      | error reason => rfl
      | ok _ =>
        dsimp only
        rw [run_get_bind]
        cases d.needsPreview <;> rfl

end InPlace

/-! ## What a refusal leaves -/

theorem setTemplate_of_refused {t : Template} (h : (d.setTemplate t).1 = false) : d.setTemplate t = (false, d) := by
  unfold setTemplate at h ⊢
  split
  · rename_i haccepts
    simp [haccepts] at h
  · rfl

theorem applyPreview_of_refused {fingerprint : String} {files : List ChangedFile}
    (h : (d.applyPreview fingerprint files).1 = false) : d.applyPreview fingerprint files = (false, d) := by
  unfold applyPreview at h ⊢
  split
  · rename_i hcurrent
    simp [hcurrent] at h
  · rfl

theorem replaceFile_of_refused {file : ChangedFile} (h : (d.replaceFile file).1 = false) :
    d.replaceFile file = (false, d) := by
  unfold replaceFile at h ⊢
  split
  · rename_i hfound
    simp [hfound] at h
  · rfl

/-- An operation that says whether it was done. -/
theorem ending_cases {r : Bool × Draft} (h : r.1 = false → r = (false, d)) :
    ending r = .ok () r.2 ∨ ∃ reason, ending r = .error reason d ∧ r.2 = d := by
  obtain ⟨done, d'⟩ := r
  cases done with
  | true => exact .inl rfl
  | false =>
    obtain rfl : d' = d := congrArg Prod.snd (h rfl)
    exact .inr ⟨none, rfl, rfl⟩

theorem endingOr_cases (r : Except Refusal Draft) :
    d.endingOr (r.map ((), ·)) = .ok () (d.unlessRefused r) ∨
      ∃ reason, d.endingOr (r.map ((), ·)) = .error reason d ∧ d.unlessRefused r = d := by
  cases r with
  | ok d' => exact .inl rfl
  | error reason => exact .inr ⟨some reason, rfl, rfl⟩

/-- An operation in place is done and ends as it does on whole drafts, or it is refused and nothing has been
written. -/
theorem Operation.run_inPlace (op : Operation) (d : Draft) :
    op.inPlace.run d = .ok () (d.perform op) ∨
      ∃ reason, op.inPlace.run d = .error reason d ∧ d.perform op = d := by
  cases op with
  | setField name v => exact .inl (InPlace.run_setField d name v)
  | setTemplate t =>
    rw [inPlace, InPlace.run_setTemplate]
    exact ending_cases setTemplate_of_refused
  | applyPreview fingerprint files =>
    rw [inPlace, InPlace.run_applyPreview]
    exact ending_cases applyPreview_of_refused
  | replaceFile file =>
    rw [inPlace, InPlace.run_replaceFile]
    exact ending_cases replaceFile_of_refused
  | advance =>
    rw [inPlace, InPlace.run_advance]
    exact endingOr_cases d.advance
  | back => exact .inl (InPlace.run_back d)
  | goTo stage =>
    rw [inPlace, InPlace.run_goTo]
    exact endingOr_cases (d.goTo stage)
  | beginSubmit =>
    rw [inPlace, EStateM.run_bind, InPlace.run_beginSubmit, perform]
    cases d.beginSubmit with
    | ok result => exact .inl rfl
    | error reason => exact .inr ⟨some reason, rfl, rfl⟩
  | submitFailed | submitSucceeded => exact .inl rfl

/-- The operations among several ones that are not refused when they are performed in place, one after the
other. -/
def effective : Draft → List Operation → List Operation
  | _, [] => []
  | d, op :: rest =>
    match op.inPlace.run d with
    | .ok () d' => op :: effective d' rest
    | .error _ d' => effective d' rest

/-- The operations that are refused make no difference to a history. -/
theorem performAll_effective (d : Draft) (ops : List Operation) :
    d.performAll (d.effective ops) = d.performAll ops := by
  induction ops generalizing d with
  | nil => rfl
  | cons op rest ih =>
    rw [effective, performAll_cons]
    rcases op.run_inPlace d with hdone | ⟨reason, hrefused, hsame⟩
    · simp only [hdone]
      rw [performAll_cons, ih]
    · simp only [hrefused]
      rw [hsame, ih]

/-- A submission that failed is undone. -/
theorem submitFailed_of_beginSubmit {request : ChangeRequest} {d' : Draft}
    (h : d.beginSubmit = .ok (request, d')) : d'.submitFailed = d := by
  obtain ⟨-, hidle, -, -, -, rfl⟩ := beginSubmit_eq_ok.1 h
  rw [submitFailed, ← hidle]

/-- Refusals and failed submissions. A submission, a template, a preview and an edit that are refused end in the
very draft that they were performed on, also in place, where everything written on the way would stay; so of any
history only the operations count that are not refused. A submission that was begun and failed ends there as
well, and the next one hands out the same request. -/
theorem refused_unchanged (d : Draft) :
    (∀ reason, d.beginSubmit = .error reason →
      InPlace.beginSubmit.run d = .error (some reason) d ∧ d.perform .beginSubmit = d) ∧
    (∀ t, (d.setTemplate t).1 = false →
      (InPlace.setTemplate t).run d = .error none d ∧ (d.setTemplate t).2 = d) ∧
    (∀ fingerprint files, (d.applyPreview fingerprint files).1 = false →
      (InPlace.applyPreview fingerprint files).run d = .error none d ∧
        (d.applyPreview fingerprint files).2 = d) ∧
    (∀ file, (d.replaceFile file).1 = false →
      (InPlace.replaceFile file).run d = .error none d ∧ (d.replaceFile file).2 = d) ∧
    (∀ request d', d.beginSubmit = .ok (request, d') →
      InPlace.beginSubmit.run d = .ok request d' ∧ d'.submitFailed = d ∧
        d'.submitFailed.beginSubmit = .ok (request, d')) ∧
    ∀ ops, d.performAll (d.effective ops) = d.performAll ops := by
  refine ⟨fun reason h => ⟨?_, ?_⟩, fun t h => ⟨?_, ?_⟩, fun fingerprint files h => ⟨?_, ?_⟩,
    fun file h => ⟨?_, ?_⟩, fun request d' h => ?_, performAll_effective d⟩
  · rw [InPlace.run_beginSubmit, h]
    rfl
  · rw [perform, h]
    rfl
  · rw [InPlace.run_setTemplate, setTemplate_of_refused h]
    rfl
  · rw [setTemplate_of_refused h]
  · rw [InPlace.run_applyPreview, applyPreview_of_refused h]
    rfl
  · rw [applyPreview_of_refused h]
  · rw [InPlace.run_replaceFile, replaceFile_of_refused h]
    rfl
  · rw [replaceFile_of_refused h]
  · have hundone := submitFailed_of_beginSubmit h
    refine ⟨?_, hundone, hundone ▸ h⟩
    rw [InPlace.run_beginSubmit, h]
    rfl

/-- No fingerprint is empty. -/
theorem fingerprint_ne_empty (d : Draft) : "" ≠ d.fingerprint := by
  intro h
  have hlength := congrArg (fun s => s.toList.length) h
  simp [fingerprint, Sha256.ofText, Sha256.digest, Sha256.hexWord] at hlength

/-- The review is submitted, which refuses a second submission; it fails and is submitted again. A template of
another choice, files of other values and an edit of another file are refused. -/
theorem refused_unchanged_sample :
    let other : Template := { Sample.template with templateId := "iam" }
    let elsewhere : ChangedFile := { Sample.file with path := "other.tf" }
    ∃ begun, Sample.ready.beginSubmit = .ok (Sample.request, begun) ∧
      begun.beginSubmit = .error .submitInProgress ∧ begun.perform .beginSubmit = begun ∧
      begun.submitFailed.beginSubmit = .ok (Sample.request, begun) ∧
      (Sample.ready.setTemplate other).2 = Sample.ready ∧
      (Sample.ready.applyPreview "" []).2 = Sample.ready ∧
      (Sample.ready.replaceFile elsewhere).2 = Sample.ready := by
  intro other elsewhere
  obtain ⟨-, htemplate, hpreview, hedit, hretry, -⟩ := refused_unchanged Sample.ready
  obtain ⟨hagain, -⟩ := refused_unchanged { Sample.ready with submitting := true }
  have hsecond : ({ Sample.ready with submitting := true } : Draft).beginSubmit = .error .submitInProgress := by
    rw [Sample.ready_eq]
    rfl
  have hstale : (Sample.ready.applyPreview "" []).1 = false := by
    rw [applyPreview, if_neg (fingerprint_ne_empty _)]
  refine ⟨_, Sample.beginSubmit_ready, hsecond, (hagain _ hsecond).2,
    (hretry _ _ Sample.beginSubmit_ready).2.2, (htemplate other ?_).2, (hpreview "" [] hstale).2,
    (hedit elsewhere ?_).2⟩
  · rw [Sample.ready_eq]
    decide
  · rw [Sample.ready_eq]
    decide

end ChangeDesk.Draft
