import ChangeDesk.Proofs.Desk.Loading
import ChangeDesk.Proofs.Desk.Typing

/-!
Leaving the review and coming back to it with every field of the template reading as before. The files are still
there, with the edits confirmed in them, and no preview was asked for on the way. But whether they still count
depends on the entries of the form and not on what the fields read: a field that was never typed in has no
entry, and once something was typed in and erased again it has an empty one.
-/
namespace ChangeDesk

namespace Draft

variable {d d' : Draft} {t : Template}

/-- Texts are typed into fields of the template. Everything else stays, and no entry is taken away. -/
structure Revises (t : Template) (d d' : Draft) : Prop where
  keeps : d.Keeps d'
  others : ∀ name, (∀ f ∈ t.fields, f.name ≠ name) → d'.configured.get? name = d.configured.get? name
  entered : ∀ name, (d.configured.get? name).isSome = true → (d'.configured.get? name).isSome = true

namespace Revises

theorem of_configured (hk : d.Keeps d') (hv : d'.configured = d.configured) : Revises t d d' := by
  refine ⟨hk, fun _ _ => ?_, fun _ h => ?_⟩
  · rw [hv]
  · rw [hv]
    exact h

theorem of_carries (hk : d.Keeps d') (h : d.Carries d') : Revises t d d' := by
  cases h with
  | stays hc hv => exact .of_configured hk hv
  | turns hc hv => exact absurd hk.choice hc

theorem trans {d₁ : Draft} (h : Revises t d d₁) (h' : Revises t d₁ d') : Revises t d d' :=
  ⟨h.keeps.trans h'.keeps, fun name hn => (h'.others name hn).trans (h.others name hn),
    fun name hs => h'.entered name (h.entered name hs)⟩

theorem setText {f : Field} {text : String} (hf : f ∈ t.fields) (hk : d.Keeps (d.setText f.name text)) :
    Revises t d (d.setText f.name text) := by
  cases hn : isConfigured f.name with
  | false => exact .of_carries hk (carries_setText hn text)
  | true =>
    refine ⟨hk, fun name hother => ?_, fun name hs => ?_⟩
    · rw [get?_configured_setText hn, if_neg (Ne.symm (hother f hf))]
    · rw [get?_configured_setText hn]
      split
      · rfl
      · exact hs

theorem moves (h : d.Moves d') : Revises t d d' :=
  .of_carries h.keeps (.of_form h.form)

end Revises

/-- No field of the template has an entry that it had not before. -/
def EntersNone (t : Template) (d d' : Draft) : Prop :=
  ∀ f ∈ t.fields, isConfigured f.name = true → (d'.form.get? f.name).isSome = true →
    (d.form.get? f.name).isSome = true

/-- Fields that read the same hold the same values, if they have the same entries. -/
theorem Revises.configured_eq_iff (h : Revises t d d') (ht : d.form.Texts) (ht' : d'.form.Texts)
    (hread : ∀ f ∈ t.fields, d'.text f.name = d.text f.name) :
    d'.configured = d.configured ↔ EntersNone t d d' := by
  constructor
  · intro he f _ hn hs
    have hget := congrArg (·.get? f.name) he
    simp only [get?_configured, hn, ↓reduceIte] at hget
    rw [← hget]
    exact hs
  · intro hnone
    refine SortedMap.eq_of_get?_eq fun name => ?_
    by_cases hfield : ∃ f ∈ t.fields, f.name = name
    · obtain ⟨f, hf, rfl⟩ := hfield
      rw [get?_configured, get?_configured]
      cases hn : isConfigured f.name with
      | false => rfl
      | true =>
        simp only [↓reduceIte]
        have hentered := h.entered f.name
        simp only [get?_configured, hn, ↓reduceIte] at hentered
        cases hv : d.form.get? f.name with
        | none =>
          rw [← Option.not_isSome_iff_eq_none]
          intro hs
          simpa [hv] using hnone f hf hn hs
        | some v =>
          obtain ⟨v', hv'⟩ := Option.isSome_iff_exists.1 (hentered (by rw [hv]; rfl))
          obtain ⟨s, rfl⟩ := ht.get? hv
          obtain ⟨s', rfl⟩ := ht'.get? hv'
          have hs : s' = s := by simpa [text, hv, hv', Json.text?] using hread f hf
          rw [hv', hs]
    · exact h.others name fun f hf hname => hfield ⟨f, hf, hname⟩

/-- Files that were previewed for the values still count if no field has come to have an entry. -/
theorem Revises.needsPreview_of_entersNone (h : Revises t d d') (ht : d.form.Texts) (ht' : d'.form.Texts)
    (hread : ∀ f ∈ t.fields, d'.text f.name = d.text f.name) (hp : d.needsPreview = false)
    (hnone : EntersNone t d d') : d'.needsPreview = false := by
  have hvalues := (h.configured_eq_iff ht ht' hread).2 hnone
  rw [← hp]
  exact needsPreview_congr h.keeps.choice hvalues h.keeps.previewed (by rw [h.keeps.files])

/-- And they do not otherwise, unless two digests collide. -/
theorem Revises.entersNone (h : Revises t d d') (ht : d.form.Texts) (ht' : d'.form.Texts)
    (hread : ∀ f ∈ t.fields, d'.text f.name = d.text f.name) (hp : d.needsPreview = false)
    (hc : ¬ Sha256.Collide d'.fingerprintText d.fingerprintText) (hp' : d'.needsPreview = false) :
    EntersNone t d d' := by
  have hdigest : d'.fingerprint = d.fingerprint := by
    have hpreviewed := (needsPreview_eq_false.1 hp).2
    have hpreviewed' := (needsPreview_eq_false.1 hp').2
    rw [h.keeps.previewed, hpreviewed] at hpreviewed'
    exact (Option.some.inj hpreviewed').symm
  have htext : d'.fingerprintText = d.fingerprintText := Sha256.eq_of_ofText_eq hdigest hc
  have hvalues := ChangeRequest.eq_of_valuesText_eq (a := d'.requestWith []) (b := d.requestWith []) htext
  exact (h.configured_eq_iff ht ht' hread).1 hvalues.2.2

end Draft

namespace Desk

variable {d d' : Desk} {r : Reaction} {ev : Event} {k : Key} {clock : Clock} {t : Template}

/-- A key changes the stage only by a move of the draft, after which the stage is entered. -/
theorem moved_of_stage_ne (h : Effect d (.key k clock) r) (hs : r.1.draft.stage ≠ d.draft.stage) :
    ∃ d₁ draft, Picked d d₁ ∧ d₁.draft.Moves draft ∧ Entry { d₁ with draft := draft, refusal := none } r := by
  cases h with
  | enter hd hm hr => exact ⟨_, _, hd, hm, hr⟩
  | glance hg => exact absurd (congrArg Draft.stage hg.draft) hs
  | refuse hd =>
    cases hd with
    | none => exact absurd rfl hs
    | card s _ _ => exact absurd (Draft.choose_stage d.draft s) hs
  | edit | accept | justify => exact absurd (Draft.setField_stage _) hs
  | confirm he hw =>
    rw [confirmEdit_eq hw] at hs
    exact absurd rfl hs
  | submit hb =>
    obtain ⟨-, session, he⟩ := submit_of_begun hb
    rw [he] at hs
    exact absurd rfl hs
  | leave | reload | field | acceptNone | openFile | act | close | preview => exact absurd rfl hs

/-- A preview is asked for on review only. -/
theorem stage_of_issues_preview (h : Effect d ev r) (hi : issues .preview r = true) :
    r.1.draft.stage = .review := by
  cases h with
  | glance | leave | refuse | edit | field | accept | acceptNone | openFile => simp [issues] at hi
  | act | confirm | close | justify | pause | silence | stale => simp [issues] at hi
  | reload => simp [issues, loadProviders, Job.kind] at hi
  | lookup => simp [issues, Job.kind] at hi
  | enter hd hm he =>
    cases he with
    | choose | configure | review => simp [issues] at hi
    | load => simp [issues, Job.kind] at hi
    | preview hs hp => exact hs
  | submit hb =>
    obtain ⟨session, he⟩ := submit_of_beginSubmit hb
    rw [he] at hi
    simp [issues, Job.kind] at hi
  | preview hs => exact hs
  | @deliver c _ hc ha =>
    obtain ⟨token, answer⟩ := c
    cases ha with
    | again fs hf hs hn => exact hs
    | offer | noOffer | template | otherTemplate | suggestions | otherField => simp [issues] at hi
    | files | otherFiles | receipt | refused | failure | expired | expiredSubmit => simp [issues] at hi

/-- Away from the review no editor opens. -/
theorem editor_of_stage_ne (h : Effect d ev r) (he : d.editor = none) (hs : r.1.draft.stage ≠ .review) :
    r.1.editor = none := by
  cases h with
  | glance hg => exact hg.editor.trans he
  | leave | reload | edit | field | accept | acceptNone => exact he
  | preview | justify | pause | lookup | silence | stale => exact he
  | enter hd hm hr => exact hr.editor
  | refuse hd => exact hd.editor.trans he
  | openFile _ hs' => exact absurd hs' hs
  | act a ho => simp [he] at ho
  | confirm ho => simp [he] at ho
  | close => rfl
  | submit hb =>
    obtain ⟨session, hsubmit⟩ := submit_of_beginSubmit hb
    rw [hsubmit]
    exact he
  | deliver hc ha =>
    rcases ha.editor with hsame | hclosed
    · exact hsame.trans he
    · exact hclosed

/-- An event that may come in while the review is left: of the answers that count, it is one to a list of
integrations or to a lookup. -/
def Aside (d : Desk) : Event → Prop
  | .completion c => d.inflight.isCurrent c.token = true →
    c.answer.kind = .providers ∨ c.answer.kind = .typeahead
  | _ => True

def Revised (t : Template) (d d' : Draft) : Prop := d.Revises t d' ∨ d'.template = none

theorem revised_of_picked (h : Picked d d') : Revised t d.draft d'.draft :=
  (Refiles.keeps_or_drops_of_picked h).imp (fun hk => .of_carries hk (Inputs.carries_of_picked h))
    fun hd => hd.template

theorem Revised.moves {draft draft' : Draft} (h : Revised t draft draft') {draft'' : Draft}
    (hm : draft'.Moves draft'') : Revised t draft draft'' :=
  h.imp (fun hr => hr.trans (.moves hm)) hm.keeps.template.trans

/-- Beside the review an event types into a field of the template, or leaves the values as they are, unless it
takes the template away. -/
theorem revised_effect (h : Effect d ev r) (he : d.editor = none) (hs : d.draft.stage ≠ .review)
    (ht : d.draft.template = some t) (ha : d.Aside ev) : Revised t d.draft r.1.draft := by
  have hsame {d' : Desk} (hd : d'.draft = d.draft) : Revised t d.draft d'.draft :=
    .inl (.of_configured (hd ▸ .refl _) (by rw [hd]))
  have htyped {f : Field} (text : String) (hf : d.currentField = some f) :
      Revised t d.draft (d.draft.setText f.name text) := by
    obtain ⟨t', ht', hget⟩ := Option.bind_eq_some_iff.1 hf
    obtain rfl := Option.some.inj (ht.symm.trans ht')
    exact (Draft.keeps_or_drops_setText d.draft f.name text).imp
      (.setText (List.mem_of_getElem? hget)) fun hd => hd.template
  cases h with
  | glance hg => exact hsame hg.draft
  | leave | reload | field | acceptNone | close => exact hsame rfl
  | pause | lookup | silence | stale => exact hsame rfl
  | enter hd hm hr =>
    rw [hr.draft]
    exact (revised_of_picked hd).moves hm
  | refuse hd =>
    have hpicked : Revised t d.draft _ := revised_of_picked hd
    exact hpicked
  | edit _ _ _ hf | accept _ _ hf => exact htyped _ hf
  | openFile _ hs' | preview hs' | justify _ hs' => exact absurd hs' hs
  | submit hb => exact absurd (Draft.beginSubmit_eq_ok.1 hb).1 hs
  | act a ho => simp [he] at ho
  | confirm ho => simp [he] at ho
  | @deliver c _ hc hd =>
    have hkind := ha hc
    obtain ⟨token, answer⟩ := c
    cases hd with
    | offer | noOffer | suggestions | otherField | failure | expired => exact hsame rfl
    | template | otherTemplate | files | otherFiles | again => simp [Answer.kind] at hkind
    | receipt | refused | expiredSubmit => simp [Answer.kind] at hkind

/-- Once the template is gone, it does not come back. -/
theorem Revised.react {draft : Draft} (h : Revised t draft d.draft) (ht : draft.template = some t)
    (he : d.editor = none) (hs : d.draft.stage ≠ .review) (ha : d.Aside ev) :
    Revised t draft (d.react ev).1.draft := by
  have heffect := effect_react d ev
  rcases h with hrevised | hnone
  · exact (revised_effect heffect he hs (hrevised.keeps.template.trans ht) ha).imp hrevised.trans id
  · refine .inr ?_
    rw [← Option.not_isSome_iff_eq_none]
    intro hsome
    rcases template_of_effect heffect hsome with hbefore | ⟨c, t', rfl, hc, hanswer⟩
    · simp [hnone] at hbefore
    · simpa [hanswer, Answer.kind] using ha hc

theorem draft_advance {draft : Draft} (h : d.draft.advance = .ok draft) : d.advance.1.draft = draft := by
  simp only [advance, moved, h]
  exact (entry_enterStage _).draft

/-- The review asks for a preview when it is entered without files for the current values. -/
theorem issues_of_reaching (h : Effect d (.key k clock) r) (hs : d.draft.stage ≠ .review)
    (hs' : r.1.draft.stage = .review) : issues .preview r = r.1.draft.needsPreview := by
  obtain ⟨d₁, draft, -, -, hr⟩ := moved_of_stage_ne h (by rw [hs']; exact Ne.symm hs)
  rw [hr.draft] at hs' ⊢
  cases hr with
  | choose hs'' | configure hs'' | load s hs'' => cases hs'.symm.trans hs''
  | review _ hp => exact hp.symm
  | preview _ hp => exact hp.symm

end Desk

namespace Office

variable {session : Session} {delay : Nat} {past since : Past} {o o' : Office} {t : Template}

/-- A key leaves the review, and it is not reached again. -/
inductive Away (o : Office) : Past → Office → Prop where
  | leave {k : Key} {clock : Clock} (hs : (o.step (.key k clock)).desk.draft.stage ≠ .review) :
      Away o [(o, .key k clock)] (o.step (.key k clock))
  | step {since : Past} {o' : Office} {ev : Event} (h : Away o since o') (he : o'.Allows ev)
      (ha : o'.desk.Aside ev) (hs : (o'.step ev).desk.draft.stage ≠ .review) :
      Away o ((o', ev) :: since) (o'.step ev)

theorem Away.run (h : Away o since o') (hr : Run session delay past o) :
    Run session delay (since ++ past) o' := by
  induction h with
  | leave => exact hr.step _ trivial
  | step _ he _ _ ih => exact ih.step _ he

theorem Away.stage (h : Away o since o') : o'.desk.draft.stage ≠ .review := by
  cases h with
  | leave hs => exact hs
  | step _ _ _ hs => exact hs

/-- The key that leaves the review moves the draft, and leaves no editor open. -/
theorem moves_of_leaving {k : Key} {clock : Clock} (hs : o.desk.draft.stage = .review)
    (hs' : (o.step (.key k clock)).desk.draft.stage ≠ .review) :
    o.desk.draft.Moves (o.step (.key k clock)).desk.draft ∧ (o.step (.key k clock)).desk.editor = none := by
  have heffect := Desk.effect_react o.desk (.key k clock)
  obtain ⟨d₁, draft, hd, hm, hr⟩ := Desk.moved_of_stage_ne heffect (by rw [hs]; exact hs')
  rw [step_desk, hr.draft]
  cases hd with
  | none => exact ⟨hm, hr.editor⟩
  | card s hchoose => cases hs.symm.trans hchoose

theorem Away.revised (h : Away o since o') (hs : o.desk.draft.stage = .review)
    (ht : o.desk.draft.template = some t) :
    o'.desk.editor = none ∧ Desk.Revised t o.desk.draft o'.desk.draft := by
  induction h with
  | leave hleft =>
    obtain ⟨hm, heditor⟩ := moves_of_leaving hs hleft
    exact ⟨heditor, .inl (.moves hm)⟩
  | @step since o' ev h he ha hs' ih =>
    obtain ⟨heditor, hrevised⟩ := ih
    have heffect := Desk.effect_react o'.desk ev
    exact ⟨Desk.editor_of_stage_ne heffect heditor hs', hrevised.react ht heditor h.stage ha⟩

/-- No preview is asked for on the way. -/
theorem Away.issues (h : Away o since o') :
    ∀ p ∈ since, Desk.issues .preview (p.1.desk.react p.2) = false := by
  have hstep {o : Office} {ev : Event} (hs : (o.step ev).desk.draft.stage ≠ .review) :
      Desk.issues .preview (o.desk.react ev) = false := by
    rw [← Bool.not_eq_true]
    exact fun hi => hs (Desk.stage_of_issues_preview (Desk.effect_react o.desk ev) hi)
  induction h with
  | leave hs => simpa using hstep hs
  | step _ _ _ hs ih => exact List.forall_mem_cons.2 ⟨hstep hs, ih⟩

/-- The review is reached again with the template, so that its fields were typed in at most. -/
theorem Away.revises (h : Away o since o') (hr : Run session delay past o)
    (hs : o.desk.draft.stage = .review) (ht : o.desk.draft.template = some t) {k : Key} {clock : Clock}
    (hs' : (o'.step (.key k clock)).desk.draft.stage = .review) :
    o.desk.draft.Revises t (o'.step (.key k clock)).desk.draft := by
  obtain ⟨heditor, hrevised⟩ := h.revised hs ht
  -- A draft on review has its template, so it was not taken away on the way.
  obtain ⟨t', ht', -⟩ := ((h.run hr).step (.key k clock) trivial).sound.draft.reviewed hs'
  have haside : o'.desk.Aside (.key k clock) := trivial
  refine (hrevised.react ht heditor h.stage haside).resolve_right fun hnone => ?_
  cases ht'.symm.trans hnone

/-- The review is left without a need for a preview, and reached again with every field of the template reading
as before. The files are the same, and no preview is asked for on the way. One is asked for on arrival exactly
if the files do not count any more. They do if no field has come to have an entry that it had not before; and,
unless two digests collide, in no other case. -/
theorem review_regained (h : Run session delay past o) (hs : o.desk.draft.stage = .review)
    (hp : o.desk.draft.needsPreview = false) (ht : o.desk.draft.template = some t)
    (ha : Away o since o') {k : Key} {clock : Clock}
    (hs' : (o'.step (.key k clock)).desk.draft.stage = .review)
    (hread : ∀ f ∈ t.fields,
      (o'.step (.key k clock)).desk.draft.text f.name = o.desk.draft.text f.name) :
    (o'.step (.key k clock)).desk.draft.files = o.desk.draft.files ∧
      (∀ p ∈ since, Desk.issues .preview (p.1.desk.react p.2) = false) ∧
      Desk.issues .preview (o'.desk.react (.key k clock)) =
        (o'.step (.key k clock)).desk.draft.needsPreview ∧
      (Draft.EntersNone t o.desk.draft (o'.step (.key k clock)).desk.draft →
        (o'.step (.key k clock)).desk.draft.needsPreview = false) ∧
      (¬ Sha256.Collide (o'.step (.key k clock)).desk.draft.fingerprintText
          o.desk.draft.fingerprintText →
        (o'.step (.key k clock)).desk.draft.needsPreview = false →
        Draft.EntersNone t o.desk.draft (o'.step (.key k clock)).desk.draft) := by
  have hrevises := ha.revises h hs ht hs'
  have htexts := h.sound.draft.texts
  have htexts' := ((ha.run h).step (.key k clock) trivial).sound.draft.texts
  have hissues := Desk.issues_of_reaching (Desk.effect_react o'.desk (.key k clock)) ha.stage hs'
  exact ⟨hrevises.keeps.files, ha.issues, hissues,
    hrevises.needsPreview_of_entersNone htexts htexts' hread hp,
    hrevises.entersNone htexts htexts' hread hp⟩

end Office

/-! A template with a required field that is filled in, and with another one that was never typed in. -/

namespace Sample

open Office

/-- A backend whose template has an optional field as well. -/
def optionBackend : Backend := { backend with
  definition := fun _ => .ok ⟨"s3", "aws", none,
    [⟨"bucket", none, none, true, false⟩, ⟨"region", none, none, false, false⟩]⟩ }

def requested : Office :=
  press (press (loading.step (answer optionBackend loading)) (.char 'x')) .enter

def shown : Office := requested.step (answer optionBackend requested)

theorem reached_shown : Reached shown :=
  ((((reached_loading.answer optionBackend).press (.char 'x')).press .enter).answer optionBackend)

/-- The digest of the values stays a term, which later steps need not compute. -/
theorem shown_eq : shown = ⟨{ requested.desk with
    inflight := requested.desk.inflight.cancel .preview
    draft := { requested.desk.draft with
      files := [file], previewed := some requested.desk.draft.fingerprint }
    editor := none, selectedFile := 0, scroll := 0 }, []⟩ := by
  have hawaited : requested.awaited = [⟨⟨.preview, 3, 0⟩,
      .preview requested.desk.draft.fingerprint requested.desk.draft.previewRequest⟩] := rfl
  have hanswer : answer optionBackend requested = .completion ⟨⟨.preview, 3, 0⟩,
      .preview requested.desk.draft.fingerprint (.ok [file])⟩ := answer_of_awaited hawaited optionBackend
  rw [shown, step, hanswer, Desk.react_preview rfl rfl, remaining, hawaited]
  rfl

/-- The required field is typed in, and what was typed is erased again. -/
def retyped : Office := press (press (press shown .escape) (.char 'y')) .backspace

/-- The optional field is typed in, and what was typed is erased again. -/
def emptied : Office := press (press (press (press shown .escape) .down) (.char 'y')) .backspace

theorem Away.press {o o' : Office} {since : Past} (h : Away o since o') (c : KeyCode)
    (hs : (press o' c).desk.draft.stage ≠ .review) :
    Away o ((o', .key ⟨c, false⟩ clock) :: since) (press o' c) :=
  h.step trivial trivial hs

theorem away_shown : ∃ since, Away shown since (press shown .escape) := by
  have hleft : (press shown .escape).desk.draft.stage ≠ .review := by
    rw [press, shown_eq]
    decide
  exact ⟨_, .leave hleft⟩

theorem away_retyped : ∃ since, Away shown since retyped := by
  obtain ⟨since, haway⟩ := away_shown
  have htyped : (press (press shown .escape) (.char 'y')).desk.draft.stage ≠ .review := by
    rw [press, press, shown_eq]
    decide
  have herased : retyped.desk.draft.stage ≠ .review := by
    rw [retyped, press, press, press, shown_eq]
    decide
  exact ⟨_, Away.press (Away.press haway _ htyped) _ herased⟩

theorem away_emptied : ∃ since, Away shown since emptied := by
  obtain ⟨since, haway⟩ := away_shown
  have hmoved : (press (press shown .escape) .down).desk.draft.stage ≠ .review := by
    rw [press, press, shown_eq]
    decide
  have htyped : (press (press (press shown .escape) .down) (.char 'y')).desk.draft.stage ≠ .review := by
    rw [press, press, press, shown_eq]
    decide
  have herased : emptied.desk.draft.stage ≠ .review := by
    rw [emptied, press, press, press, press, shown_eq]
    decide
  exact ⟨_, Away.press (Away.press (Away.press haway _ hmoved) _ htyped) _ herased⟩

theorem needsPreview_shown : shown.desk.draft.needsPreview = false := by
  rw [shown_eq]
  exact Draft.needsPreview_eq_false.2 ⟨List.cons_ne_nil _ _, rfl⟩

/-- The key that leads on to the review takes the draft there. -/
theorem draft_onward {o : Office} (hh : o.desk.helpOpen = false) (he : o.desk.editor = none)
    (hs : o.desk.draft.stage = .configure) (hv : o.desk.draft.validate .configure = .ok ()) :
    (press o .enter).desk.draft = { o.desk.draft with stage := .review } := by
  have hmoved : o.desk.draft.advance = .ok { o.desk.draft with stage := .review } :=
    Draft.advance_eq_ok.2 ⟨.review, by rw [hs]; rfl, by rw [hs]; exact hv, rfl⟩
  rw [press, step_desk, Desk.react_advance hh he hs, Desk.draft_advance hmoved]

theorem draft_retyped : (press retyped .enter).desk.draft = { retyped.desk.draft with stage := .review } := by
  apply draft_onward <;> rw [retyped, press, press, press, shown_eq] <;> rfl

theorem draft_emptied : (press emptied .enter).desk.draft = { emptied.desk.draft with stage := .review } := by
  apply draft_onward <;> rw [emptied, press, press, press, press, shown_eq] <;> rfl

def optionTemplate : Template :=
  ⟨"s3", "aws", none, [⟨"bucket", none, none, true, false⟩, ⟨"region", none, none, false, false⟩]⟩

theorem template_shown : shown.desk.draft.template = some optionTemplate := by
  rw [shown_eq]
  rfl

/-- Whatever was typed and erased again, the fields read as before. -/
theorem texts_retyped : ∀ f ∈ optionTemplate.fields,
    (press retyped .enter).desk.draft.text f.name = shown.desk.draft.text f.name := by
  rw [draft_retyped, retyped, press, press, press, shown_eq]
  decide +kernel

theorem texts_emptied : ∀ f ∈ optionTemplate.fields,
    (press emptied .enter).desk.draft.text f.name = shown.desk.draft.text f.name := by
  rw [draft_emptied, emptied, press, press, press, press, shown_eq]
  decide +kernel

theorem entersNone_retyped :
    Draft.EntersNone optionTemplate shown.desk.draft (press retyped .enter).desk.draft := by
  rw [draft_retyped, retyped, press, press, press, shown_eq]
  unfold Draft.EntersNone
  decide +kernel

theorem needsPreview_emptied : (press emptied .enter).desk.draft.needsPreview = true := by
  rw [draft_emptied, emptied, press, press, press, press, shown_eq]
  decide +kernel

end Sample

namespace Office

theorem review_regained_sample : ∃ past since, Run .empty 0 past Sample.shown ∧
    Sample.shown.desk.draft.stage = .review ∧ Sample.shown.desk.draft.needsPreview = false ∧
    Sample.shown.desk.draft.template = some Sample.optionTemplate ∧
    Away Sample.shown since Sample.retyped ∧
    (Sample.press Sample.retyped .enter).desk.draft.stage = .review ∧
    (Sample.press Sample.retyped .enter).desk.draft.needsPreview = false ∧
    (Sample.press Sample.retyped .enter).desk.draft.files = Sample.shown.desk.draft.files := by
  obtain ⟨past, h⟩ := Sample.reached_shown
  obtain ⟨since, haway⟩ := Sample.away_retyped
  have hs : Sample.shown.desk.draft.stage = .review := by
    rw [Sample.shown_eq]
    rfl
  have hs' : (Sample.press Sample.retyped .enter).desk.draft.stage = .review := by
    rw [Sample.draft_retyped]
  obtain ⟨hfiles, -, -, hfresh, -⟩ := review_regained h hs Sample.needsPreview_shown
    Sample.template_shown haway hs' Sample.texts_retyped
  exact ⟨past, since, h, hs, Sample.needsPreview_shown, Sample.template_shown, haway, hs',
    hfresh Sample.entersNone_retyped, hfiles⟩

/-- The fields read as before, and yet a preview is asked for. -/
theorem review_not_regained : ∃ past since, Run .empty 0 past Sample.shown ∧
    Sample.shown.desk.draft.stage = .review ∧ Sample.shown.desk.draft.needsPreview = false ∧
    Sample.shown.desk.draft.template = some Sample.optionTemplate ∧ Sample.shown.awaited = [] ∧
    Away Sample.shown since Sample.emptied ∧
    (Sample.press Sample.emptied .enter).desk.draft.stage = .review ∧
    (Sample.press Sample.emptied .enter).desk.draft.selection = Sample.shown.desk.draft.selection ∧
    (∀ f ∈ Sample.optionTemplate.fields, (Sample.press Sample.emptied .enter).desk.draft.text f.name =
      Sample.shown.desk.draft.text f.name) ∧
    (Sample.press Sample.emptied .enter).desk.draft.needsPreview = true ∧
    Desk.issues .preview (Sample.emptied.desk.react (.key ⟨.enter, false⟩ Sample.clock)) = true := by
  obtain ⟨past, h⟩ := Sample.reached_shown
  obtain ⟨since, haway⟩ := Sample.away_emptied
  have hs : Sample.shown.desk.draft.stage = .review := by
    rw [Sample.shown_eq]
    rfl
  have hawaited : Sample.shown.awaited = [] := by rw [Sample.shown_eq]
  have hs' : (Sample.press Sample.emptied .enter).desk.draft.stage = .review := by
    rw [Sample.draft_emptied]
  have hselection : (Sample.press Sample.emptied .enter).desk.draft.selection =
      Sample.shown.desk.draft.selection := by
    refine Draft.selection_congr ?_
    exact (haway.revises h hs Sample.template_shown hs').keeps.choice
  have hissues := Desk.issues_of_reaching
    (Desk.effect_react Sample.emptied.desk (.key ⟨.enter, false⟩ Sample.clock)) haway.stage hs'
  exact ⟨past, since, h, hs, Sample.needsPreview_shown, Sample.template_shown, hawaited, haway, hs',
    hselection, Sample.texts_emptied, Sample.needsPreview_emptied,
    hissues.trans Sample.needsPreview_emptied⟩

end Office

end ChangeDesk
