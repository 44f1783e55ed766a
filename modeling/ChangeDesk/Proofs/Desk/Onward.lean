import ChangeDesk.Proofs.Desk.Viewing

/-!
What happens from some point on while the values of the request stay as they are. Files that were previewed
for them then last: only confirmed edits change them, and nothing asks for another preview, in whatever
order the user moves about and the backend answers.
-/
namespace ChangeDesk

structure ChangeRequest.MadeFor (r : ChangeRequest) (d : Draft) : Prop where
  provider : r.provider = d.text providerField
  subType : r.subType = d.text subTypeField
  fields : r.fields = d.configured

namespace Desk

variable {d d' : Desk} {r : Reaction} {ev : Event}

theorem inflight_entry (h : Entry d r) : ∃ actions, r.1.inflight = d.inflight.run actions := by
  cases h with
  | choose | review => exact ⟨[], rfl⟩
  | configure => exact ⟨[.cancel .typeahead], rfl⟩
  | load => exact ⟨[.issue .definition, .cancel .typeahead], rfl⟩
  | preview => exact ⟨[.issue .preview], rfl⟩

theorem inflight_arrival {a : Answer} (h : Arrival d a r) :
    ∃ actions, r.1.inflight = d.inflight.run actions := by
  cases h with
  | offer | noOffer | template | otherTemplate | suggestions | otherField => exact ⟨[], rfl⟩
  | files | otherFiles | refused | failure => exact ⟨[], rfl⟩
  | again => exact ⟨[.issue .preview], rfl⟩
  | receipt | expired | expiredSubmit => exact ⟨[.nextGeneration], rfl⟩

/-- Whatever happens to a desk, its table of awaited answers goes through some of the table's actions. -/
theorem inflight_effect (h : Effect d ev r) : ∃ actions, r.1.inflight = d.inflight.run actions := by
  cases h with
  | glance hg => exact ⟨[], hg.inflight⟩
  | leave => exact ⟨[.nextGeneration], rfl⟩
  | reload => exact ⟨[.issue .providers], rfl⟩
  | enter hd hm hr =>
    have hentry := inflight_entry hr
    rw [← hd.inflight]
    exact hentry
  | refuse hd => exact ⟨[], hd.inflight⟩
  | edit | openFile | act | close | justify | pause | stale => exact ⟨[], rfl⟩
  | field | accept | acceptNone | silence => exact ⟨[.cancel .typeahead], rfl⟩
  | confirm => exact ⟨[], confirmEdit_inflight _⟩
  | submit hb =>
    obtain ⟨session, he⟩ := submit_of_beginSubmit hb
    rw [he]
    exact ⟨[.issue .submit], rfl⟩
  | preview => exact ⟨[.issue .preview], rfl⟩
  | lookup => exact ⟨[.issue .typeahead], rfl⟩
  | @deliver c _ hc ha =>
    obtain ⟨actions, he⟩ := inflight_arrival ha
    exact ⟨.cancel c.token.kind :: actions, he⟩

/-- A token that was given out and counts after an event counted before it. -/
theorem isCurrent_of_effect (h : Effect d ev r) {token : Token} (hs : token.seq ≤ d.inflight.lastSeq)
    (hc : r.1.inflight.isCurrent token = true) : d.inflight.isCurrent token = true := by
  obtain ⟨actions, he⟩ := inflight_effect h
  rw [he, Inflight.isCurrent_run hs] at hc
  exact hc.1

theorem lastSeq_le_effect (h : Effect d ev r) : d.inflight.lastSeq ≤ r.1.inflight.lastSeq := by
  obtain ⟨actions, he⟩ := inflight_effect h
  rw [he]
  exact Inflight.lastSeq_le_run d.inflight actions

/-- A token that was given out and does not count before an event does not count after it. -/
theorem stale_of_effect (h : Effect d ev r) {token : Token} (hs : token.seq ≤ d.inflight.lastSeq)
    (hc : d.inflight.isCurrent token = false) : r.1.inflight.isCurrent token = false := by
  by_contra hcurrent
  rw [Bool.not_eq_false] at hcurrent
  have hbefore := isCurrent_of_effect h hs hcurrent
  cases hc.symm.trans hbefore

/-- The key that asks for the files anew comes in where the list of files takes the keys. -/
def Regenerates (d : Desk) : Event → Prop
  | .key k _ => k.code = .char 'R' ∧ d.draft.stage = .review ∧ d.reviewFocus = .files ∧
    d.editor = none ∧ d.helpOpen = false
  | _ => False

theorem needsPreview_of_arrival {a : Answer} (h : Arrival d a r) (hi : issues .preview r = true) :
    r.1.draft.needsPreview = true := by
  cases h with
  | again fs hf hs hn => exact hn
  | offer | noOffer | template | otherTemplate | suggestions | otherField => simp [issues] at hi
  | files | otherFiles | receipt | refused | failure | expired | expiredSubmit => simp [issues] at hi

/-- A preview is asked for where it is needed, or on demand. -/
theorem needsPreview_of_issues (h : Effect d ev r) (hi : issues .preview r = true)
    (hr : ¬ d.Regenerates ev) : r.1.draft.needsPreview = true := by
  cases h with
  | glance | leave | refuse | edit | field | accept | acceptNone | openFile => simp [issues] at hi
  | act | confirm | close | justify | pause | silence | stale => simp [issues] at hi
  | reload => simp [issues, loadProviders, Job.kind] at hi
  | enter hd hm he =>
    cases he with
    | choose | configure | review => simp [issues] at hi
    | load => simp [issues, Job.kind] at hi
    | preview hs hp => exact hp
  | submit hb =>
    obtain ⟨session, he⟩ := submit_of_beginSubmit hb
    rw [he] at hi
    simp [issues, Job.kind] at hi
  | preview hs hf he hh => exact absurd ⟨rfl, hs, hf, he, hh⟩ hr
  | lookup => simp [issues, Job.kind] at hi
  | deliver hc ha => exact needsPreview_of_arrival ha hi

/-- An event leaves the values of the request as they are, does not ask for the files anew, and does not
bring the acceptance of a request. -/
structure Calm (d : Desk) (ev : Event) : Prop where
  choice : (d.react ev).1.draft.choice = d.draft.choice
  configured : (d.react ev).1.draft.configured = d.draft.configured
  asks : ¬ d.Regenerates ev
  accepts : ¬ d.Accepts ev

theorem calm_of_form {k : Key} {clock : Clock}
    (hf : (d.react (.key k clock)).1.draft.form = d.draft.form) (hk : k.code ≠ .char 'R') :
    d.Calm (.key k clock) where
  choice := by rw [Draft.choice, Draft.choice, hf]
  configured := by rw [Draft.configured, Draft.configured, hf]
  asks h := hk h.1
  accepts := nofun

/-- The key that leads on from the configuration. -/
theorem react_advance {clock : Clock} (hh : d.helpOpen = false) (he : d.editor = none)
    (hs : d.draft.stage = .configure) : d.react (.key ⟨.enter, false⟩ clock) = d.advance := by
  simp [react, press, hh, he, stageOfKey?, stageKey, hs, configureKey]

theorem form_moved {moved : Except Refusal Draft} (hm : ∀ draft, moved = .ok draft → d.draft.Moves draft) :
    (d.moved moved).1.draft.form = d.draft.form := by
  cases moved with
  | error reason => rfl
  | ok draft =>
    rw [Desk.moved, (entry_enterStage _).draft]
    exact (hm draft rfl).form

theorem form_advance (d : Desk) : d.advance.1.draft.form = d.draft.form :=
  form_moved fun _ h => .advance h

/-- A calm event that brings no preview of the current values stores the edit that it confirms, if any. -/
theorem Calm.files (h : d.Calm ev) (ha : d.Attached)
    (hn : ∀ c files, ev = .completion c → d.inflight.isCurrent c.token = true →
      c.answer ≠ .preview d.draft.fingerprint (.ok files)) :
    (d.react ev).1.draft.files = Draft.store (d.confirmed? ev) d.draft.files ∧
      (d.react ev).1.draft.needsPreview = d.draft.needsPreview := by
  -- An edit that changes nothing also keeps the files, so the two cannot be told apart by the files alone.
  cases hconfirmed : d.confirmed? ev with
  | some file =>
    obtain ⟨clock, e, rfl, hh, he, hw, rfl⟩ := confirmed?_eq_some.1 hconfirmed
    rw [react_confirm hh he, quiet_fst, confirmEdit_draft hw]
    exact ⟨rfl, Draft.needsPreview_congr rfl rfl rfl Draft.replaceFirst_eq_nil⟩
  | none =>
    cases Refiles.of_effect (effect_react d ev) with
    | kept hc hf hp =>
      exact ⟨hf, Draft.needsPreview_congr h.choice h.configured hp (by rw [hf])⟩
    | dropped hdrops => exact absurd h.choice hdrops.choice
    | previewed hc hanswer hd => exact absurd hanswer (hn _ _ rfl hc)
    | @edited clock _ _ he hw hd =>
      have hsome := ha.confirmed? clock he hw
      simp [hconfirmed] at hsome
    | accepted hc hanswer hd hx => exact absurd (.receipt hc hanswer) h.accepts

end Desk

namespace Office

variable {session : Session} {delay : Nat} {past since : Past} {o o' : Office} {ev : Event}

/-- What can happen from an office on: the offices that follow it, with what has happened since. -/
inductive Onward (o : Office) : Past → Office → Prop where
  | here : Onward o [] o
  | step {since : Past} {o' : Office} (h : Onward o since o') (ev : Event) (he : o'.Allows ev) :
      Onward o ((o', ev) :: since) (o'.step ev)

/-- A preview of a request is on its way, and as things stand its answer counts. -/
def AwaitsPreview (o : Office) (request : ChangeRequest) : Prop :=
  ∃ i ∈ o.awaited, o.desk.inflight.isCurrent i.token = true ∧
    ∃ fingerprint, i.job = .preview fingerprint request

def lastConfirmed (path : String) (past : Past) : Option ChangedFile :=
  past.findSome? fun p => (p.1.desk.confirmed? p.2).filter (fun f => f.path = path)

theorem lastConfirmed_cons (path : String) (o : Office) (ev : Event) (past : Past) :
    lastConfirmed path ((o, ev) :: past) =
      ((o.desk.confirmed? ev).filter (fun f => f.path = path)).or (lastConfirmed path past) := by
  rw [lastConfirmed, List.findSome?_cons]
  cases (o.desk.confirmed? ev).filter (fun f => f.path = path) <;> rfl

/-- The files of an office last: they are there for the current values, and no other preview of these is on
its way. -/
structure Lasting (o : Office) : Prop where
  registered : Registered o.desk.inflight o.awaited
  attached : o.desk.Attached
  fresh : o.desk.draft.needsPreview = false
  others : ∀ i ∈ o.awaited, o.desk.inflight.isCurrent i.token = true → ∀ fingerprint request,
    i.job = .preview fingerprint request → fingerprint ≠ o.desk.draft.fingerprint

namespace Lasting

/-- An answer that may come in brings no preview of the current values. -/
theorem answer_ne (h : o.Lasting) (he : o.Allows ev) (c : Completion) (files : List ChangedFile)
    (hev : ev = .completion c) (hc : o.desk.inflight.isCurrent c.token = true) :
    c.answer ≠ .preview o.desk.draft.fingerprint (.ok files) := by
  subst hev
  obtain ⟨i, hi, b, rfl⟩ := he
  intro ha
  obtain ⟨request, hj⟩ := Backend.answer_eq_preview ha
  exact h.others i hi hc _ request hj rfl

theorem files_step (h : o.Lasting) (he : o.Allows ev) (hc : o.desk.Calm ev) :
    (o.step ev).desk.draft.files = Draft.store (o.desk.confirmed? ev) o.desk.draft.files ∧
      (o.step ev).desk.draft.needsPreview = false := by
  obtain ⟨hfiles, hneeds⟩ := hc.files h.attached (h.answer_ne he)
  exact ⟨hfiles, hneeds.trans h.fresh⟩

theorem issues_step (h : o.Lasting) (he : o.Allows ev) (hc : o.desk.Calm ev) :
    Desk.issues .preview (o.desk.react ev) = false := by
  cases hi : Desk.issues .preview (o.desk.react ev) with
  | false => rfl
  | true =>
    have hneeded := Desk.needsPreview_of_issues (Desk.effect_react o.desk ev) hi hc.asks
    have hfresh := (h.files_step he hc).2
    rw [step_desk, hneeded] at hfresh
    simp at hfresh

theorem step (h : o.Lasting) (he : o.Allows ev) (hc : o.desk.Calm ev) : (o.step ev).Lasting where
  registered := registered_step h.registered ev
  attached := Desk.attached_effect h.attached (Desk.effect_react o.desk ev) hc.accepts
  fresh := (h.files_step he hc).2
  others := by
    intro i hi hcurrent fingerprint request hj
    have hissues := h.issues_step he hc
    rcases mem_awaited_step hi with hissued | hi
    · simp [Desk.issues, hissued, hj, Job.kind] at hissues
    · have hbefore : o.desk.inflight.isCurrent i.token = true :=
        Desk.isCurrent_of_effect (Desk.effect_react o.desk ev) (h.registered.seq_le i hi) hcurrent
      rw [step_desk, Draft.fingerprint_congr hc.choice hc.configured]
      exact h.others i hi hbefore fingerprint request hj

theorem file?_step (h : o.Lasting) (he : o.Allows ev) (hc : o.desk.Calm ev) (path : String) :
    (o.step ev).desk.draft.file? path =
      ((o.desk.confirmed? ev).filter (fun f => f.path = path)).or (o.desk.draft.file? path) := by
  rw [Draft.file?, (h.files_step he hc).1]
  refine Draft.find?_store (fun file hfile => ?_) path
  obtain ⟨-, e, -, -, hopen, -, rfl⟩ := Desk.confirmed?_eq_some.1 hfile
  exact (h.attached e hopen).mem_paths

/-- Files that last go on lasting as long as all events are calm. -/
theorem onward (h : o.Lasting) (hon : Onward o since o') (hcalm : ∀ p ∈ since, p.1.desk.Calm p.2) :
    o'.Lasting ∧ (∀ p ∈ since, p.1.Lasting ∧ p.1.Allows p.2) ∧
      ∀ path, o'.desk.draft.file? path = (lastConfirmed path since).or (o.desk.draft.file? path) := by
  induction hon with
  | here => exact ⟨h, by simp, fun _ => rfl⟩
  | @step since o₁ hon ev he ih =>
    obtain ⟨hlasting, hall, hfile⟩ := ih fun p hp => hcalm p (List.mem_cons_of_mem _ hp)
    have hc : o₁.desk.Calm ev := hcalm (o₁, ev) List.mem_cons_self
    refine ⟨hlasting.step he hc, List.forall_mem_cons.2 ⟨⟨hlasting, he⟩, hall⟩, fun path => ?_⟩
    rw [hlasting.file?_step he hc, hfile, lastConfirmed_cons, Option.or_assoc]

end Lasting

theorem Run.lasting (h : Run session delay past o) (hq : o.desk.exit = none)
    (hp : o.desk.draft.needsPreview = false)
    (hn : ∀ request, o.AwaitsPreview request → ¬ request.MadeFor o.desk.draft)
    (hc : ∀ request, o.AwaitsPreview request →
      ¬ Sha256.Collide request.valuesText o.desk.draft.fingerprintText) : o.Lasting where
  registered := h.registered
  attached := h.attached hq
  fresh := hp
  others := by
    rintro i hi hcurrent fingerprint request hj rfl
    have hawaits : o.AwaitsPreview request := ⟨i, hi, hcurrent, _, hj⟩
    obtain ⟨hdigest, -⟩ := h.previewsSuit i hi _ request hj
    have hvalues : request.valuesText = (o.desk.draft.requestWith []).valuesText :=
      Sha256.eq_of_ofText_eq hdigest.symm (hc request hawaits)
    obtain ⟨hprovider, hsubType, hfields⟩ := ChangeRequest.eq_of_valuesText_eq hvalues
    exact hn request hawaits ⟨hprovider, hsubType, hfields⟩

/-- Files that are there for the current values last, unless another preview of these is on its way: as long
as the values stay, the files are not asked for anew and no request is accepted, a confirmed edit is stored
and nothing else changes them, no preview is asked for, and under each path there is the file that was
confirmed last, or else the one that was there. -/
theorem files_onward (h : Run session delay past o) (hq : o.desk.exit = none)
    (hp : o.desk.draft.needsPreview = false)
    (hn : ∀ request, o.AwaitsPreview request → ¬ request.MadeFor o.desk.draft)
    (hc : ∀ request, o.AwaitsPreview request →
      ¬ Sha256.Collide request.valuesText o.desk.draft.fingerprintText)
    (hon : Onward o since o') (hcalm : ∀ p ∈ since, p.1.desk.Calm p.2) :
    (∀ p ∈ since,
      (p.1.step p.2).desk.draft.files = Draft.store (p.1.desk.confirmed? p.2) p.1.desk.draft.files ∧
      Desk.issues .preview (p.1.desk.react p.2) = false) ∧
    o'.desk.draft.needsPreview = false ∧
    ∀ path, o'.desk.draft.file? path = (lastConfirmed path since).or (o.desk.draft.file? path) := by
  obtain ⟨hlasting, hall, hfile⟩ := (h.lasting hq hp hn hc).onward hon hcalm
  refine ⟨fun p hpast => ?_, hlasting.fresh, hfile⟩
  obtain ⟨hbefore, hallows⟩ := hall p hpast
  exact ⟨(hbefore.files_step hallows (hcalm p hpast)).1, hbefore.issues_step hallows (hcalm p hpast)⟩

end Office

/-! From the confirmed edit back to the configuration and forward again. -/

namespace Sample

open Office

def confirm : Event := .key ⟨.char 's', true⟩ clock

def stored : Office := typed.step confirm

def revisiting : Office := press stored (.function 2)

def returned : Office := press revisiting .enter

theorem calm_typed : typed.desk.Calm confirm := by
  refine Desk.calm_of_form ?_ (by decide)
  rw [typed_eq]
  rfl

theorem stored_desk : stored.desk = { previewed.desk with
    draft := { previewed.desk.draft with files := [editor.confirmed] }
    editor := some { editor with file := editor.confirmed }, scroll := 0
    notice := some (.updated "main.tf") } := by
  rw [stored, typed_eq]
  rfl

theorem calm_stored : stored.desk.Calm (.key ⟨.function 2, false⟩ clock) := by
  refine Desk.calm_of_form ?_ (by decide)
  rw [stored_desk]
  rfl

theorem calm_revisiting : revisiting.desk.Calm (.key ⟨.enter, false⟩ clock) := by
  have hdesk : revisiting.desk.helpOpen = false ∧ revisiting.desk.editor = none ∧
      revisiting.desk.draft.stage = .configure := by
    rw [revisiting, press, step_desk, stored_desk]
    exact ⟨rfl, rfl, rfl⟩
  refine Desk.calm_of_form ?_ (by decide)
  rw [Desk.react_advance hdesk.1 hdesk.2.1 hdesk.2.2, Desk.form_advance]

/-- What happens from the confirmed edit on, last event first. -/
def revisit : Past :=
  [(revisiting, .key ⟨.enter, false⟩ clock), (stored, .key ⟨.function 2, false⟩ clock), (typed, confirm)]

theorem onward_revisit : Onward typed revisit returned :=
  ((Onward.here.step confirm trivial).step (.key ⟨.function 2, false⟩ clock) trivial).step
    (.key ⟨.enter, false⟩ clock) trivial

theorem calm_revisit : ∀ p ∈ revisit, p.1.desk.Calm p.2 := by
  simp [revisit, calm_revisiting, calm_stored, calm_typed]

theorem lastConfirmed_revisit : lastConfirmed "main.tf" revisit = some editor.confirmed := by
  have hforward : revisiting.desk.confirmed? (.key ⟨.enter, false⟩ clock) = none := by
    simp [Desk.confirmed?]
  have hback : stored.desk.confirmed? (.key ⟨.function 2, false⟩ clock) = none := by
    simp [Desk.confirmed?]
  have hopen : typed.desk.helpOpen = false ∧ typed.desk.editor = some editor := by
    rw [typed_eq]
    exact ⟨rfl, rfl⟩
  have hconfirmed : typed.desk.confirmed? confirm = some editor.confirmed :=
    Desk.confirmed?_eq_some.2 ⟨clock, editor, rfl, hopen.1, hopen.2, rfl, rfl⟩
  have hpath : editor.confirmed.path = "main.tf" := rfl
  rw [revisit, lastConfirmed_cons, lastConfirmed_cons, lastConfirmed_cons, hforward, hback, hconfirmed]
  simp [Option.filter, hpath]

end Sample

namespace Office

theorem files_onward_sample : ∃ past, Run .empty 0 past Sample.typed ∧ Sample.typed.desk.exit = none ∧
    Sample.typed.desk.draft.needsPreview = false ∧
    (∀ request, ¬ Sample.typed.AwaitsPreview request) ∧
    Onward Sample.typed Sample.revisit Sample.returned ∧
    (∀ p ∈ Sample.revisit, p.1.desk.Calm p.2) ∧
    Sample.returned.desk.draft.needsPreview = false ∧
    Sample.returned.desk.draft.file? "main.tf" = some Sample.editor.confirmed := by
  obtain ⟨past, h, -⟩ := Sample.distinct_typed
  have hexit : Sample.typed.desk.exit = none := by
    rw [Sample.typed_eq]
    rfl
  have hfresh : Sample.typed.desk.draft.needsPreview = false := by
    rw [Sample.typed_eq]
    exact Sample.needsPreview_previewed
  have hnone : ∀ request, ¬ Sample.typed.AwaitsPreview request := by
    rintro request ⟨i, hi, -⟩
    rw [Sample.typed_eq] at hi
    simp [Sample.previewed] at hi
  obtain ⟨-, hneeds, hfile⟩ := files_onward h hexit hfresh (fun request ha => absurd ha (hnone request))
    (fun request ha => absurd ha (hnone request)) Sample.onward_revisit Sample.calm_revisit
  refine ⟨past, h, hexit, hfresh, hnone, Sample.onward_revisit, Sample.calm_revisit, hneeds, ?_⟩
  rw [hfile, Sample.lastConfirmed_revisit]
  rfl

end Office

end ChangeDesk
