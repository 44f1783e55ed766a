import ChangeDesk.Proofs.Desk.Lookups
import ChangeDesk.Proofs.Desk.Previewing
import ChangeDesk.Proofs.Draft.Gate

/-!
The template that the configuration waits for. Without one, either the template of the chosen integration is on
its way, or the last answer was an error that was shown. There are two exceptions, in which nothing is on its
way and nothing was shown: the answer was the template of another integration, and is refused without a word;
or a field of the template is a part of the choice, and typing into it took the template away.
-/
namespace ChangeDesk

theorem Job.eq_definition {j : Job} (h : j.kind = .definition) : ∃ s, j = .definition s := by
  cases j with
  | definition s => exact ⟨s, rfl⟩
  | providers | typeahead | preview | submit => simp [Job.kind] at h

theorem Backend.answer_eq_definition {b : Backend} {j : Job} {outcome : Outcome Template}
    (h : b.answer j = .definition outcome) : ∃ s, j = .definition s ∧ b.definition s = outcome := by
  cases j with
  | definition s => exact ⟨s, rfl, by simpa [answer] using h⟩
  | providers | typeahead | preview | submit => simp [answer] at h

/-- The choice of a sound draft is complete with its first stage. -/
theorem Draft.Sound.selection_isSome {d : Draft} (h : d.Sound) (hv : d.validate .choose = .ok ()) :
    d.selection.isSome = true := by
  refine selection_isSome_iff.2 ⟨hv, fun name hname => ?_⟩
  obtain ⟨hp, hs⟩ := validate_choose_iff.1 hv
  have hfilled : d.Filled name := by
    rcases isChoiceField_iff.1 hname with rfl | rfl
    · exact hp
    · exact hs
  obtain ⟨v, hget, -⟩ := hfilled
  obtain ⟨s, rfl⟩ := h.texts.get? hget
  exact ⟨s, hget⟩

namespace Desk

variable {d d' : Desk} {r : Reaction} {ev : Event}

/-- The configuration has no template. -/
def Lacks (d : Desk) : Prop := d.draft.stage = .configure ∧ d.draft.template = none

structure Stands (d d' : Desk) : Prop where
  stage : d'.draft.stage = d.draft.stage
  template : d'.draft.template = d.draft.template
  selection : d'.draft.selection = d.draft.selection

theorem Stands.of_draft (h : d'.draft = d.draft) : Stands d d' := by
  refine ⟨?_, ?_, ?_⟩ <;> rw [h]

theorem Stands.lacks (h : Stands d d') (hl : d'.Lacks) : d.Lacks :=
  ⟨h.stage ▸ hl.1, h.template ▸ hl.2⟩

inductive Fetches (d : Desk) : Event → Reaction → Prop where
  | away {ev : Event} {r : Reaction} (h : ¬ r.1.Lacks) : Fetches d ev r
  | kept {ev : Event} {r : Reaction} (h : Stands d r.1) (ha : d.applies .definition ev = false)
      (hi : issues .definition r = false) : Fetches d ev r
  | asked {ev : Event} {r : Reaction} {token : Token} {s : Integration}
      (hr : r.2 = some ⟨token, .definition s⟩) (hc : r.1.inflight.isCurrent token = true)
      (hs : r.1.draft.selection = some s) : Fetches d ev r
  | failed {c : Completion} {r : Reaction} {e : ApiError} (hc : d.inflight.isCurrent c.token = true)
      (ha : c.answer = .definition (.error e)) (hl : r.1.inflight.latest .definition = none)
      (hn : r.1.notice = some (.failure e)) : Fetches d (.completion c) r
  | other {c : Completion} {r : Reaction} {t : Template} (h : Stands d r.1)
      (hc : d.inflight.isCurrent c.token = true) (ha : c.answer = .definition (.ok t))
      (ht : d.draft.accepts t = false) (hl : r.1.inflight.latest .definition = none) :
      Fetches d (.completion c) r
  | dropped {k : Key} {clock : Clock} {r : Reaction} {f : Field} (hs : d.draft.stage = .configure)
      (hf : d.currentField = some f) (h : d.draft.Drops r.1.draft) (hn : isChoiceField f.name = true)
      (hl : r.1.inflight.latest .definition = none) : Fetches d (.key k clock) r
  | left {ev : Event} {r : Reaction} (hq : r.1.exit ≠ none)
      (hl : r.1.inflight.latest .definition = none) : Fetches d ev r

namespace Fetches

theorem of_stage {s : Stage} (hs : r.1.draft.stage = s) (hne : s ≠ .configure) : Fetches d ev r :=
  .away fun h => hne (hs.symm.trans h.1)

theorem of_key {k : Key} {clock : Clock} (h : d'.draft = d.draft) :
    Fetches d (.key k clock) (quiet d') :=
  .kept (.of_draft h) rfl rfl

/-- Typing into a field of the template keeps the template, or takes it away with the choice. -/
theorem of_setText {k : Key} {clock : Clock} {f : Field} (text : String) (h : d.Sound)
    (hs : d.draft.stage = .configure) (hf : d.currentField = some f)
    (hd : d'.draft = d.draft.setText f.name text)
    (hl : d'.inflight.latest .definition = d.inflight.latest .definition) :
    Fetches d (.key k clock) (quiet d') := by
  have ht : d.draft.template.isSome = true := isSome_template_of_currentField hf
  rcases Draft.keeps_or_drops_setText d.draft f.name text with hk | hd'
  · refine .away fun hlacks => ?_
    have hnone : d.draft.template = none := by
      rw [← hk.template, ← hd]
      exact hlacks.2
    simp [hnone] at ht
  · exact .dropped hs hf (hd ▸ hd') hd'.isChoiceField (hl.trans (h.settled ht))

/-- The stage that a key leads to: the template of the chosen integration is asked for if there is none. -/
theorem of_entry {draft : Draft} {k : Key} {clock : Clock} (h : d.Sound) (hd : Picked d d')
    (hm : d'.draft.Moves draft) (he : Entry { d' with draft := draft, refusal := none } r) :
    Fetches d (.key k clock) r := by
  cases he with
  | choose hs | review hs | preview hs => exact .of_stage hs (by decide)
  | load s hs ht hc =>
    exact .asked rfl
      (Inflight.isCurrent_cancel.2 ⟨Inflight.isCurrent_issue .definition, by simp [Job.kind]⟩) hc
  | configure hs ht =>
    have hsound := h.of_picked hd
    have hstage : draft.stage = .configure := hs
    by_cases hnone : draft.template = none
    · have hselection : draft.selection = none := by simpa [hnone] using ht
      rw [Draft.selection_congr hm.keeps.choice] at hselection
      cases hbefore : d'.draft.stage with
      | choose =>
        -- The check of the first stage has passed, so an integration is chosen.
        obtain ⟨-, hv⟩ := hm.of_index_lt (by simp [hbefore, hstage, Stage.index])
        have hsome := hsound.draft.selection_isSome (hbefore ▸ hv)
        simp [hselection] at hsome
      | configure =>
        cases hd with
        | none =>
          refine .kept ⟨hstage.trans hbefore.symm, hm.keeps.template, ?_⟩ rfl rfl
          exact Draft.selection_congr hm.keeps.choice
        | card s hs' => simp [Draft.choose_stage, hs'] at hbefore
      | review =>
        obtain ⟨t, htemplate, -⟩ := hsound.draft.reviewed hbefore
        simp [← hm.keeps.template, hnone] at htemplate
    · exact .away fun hlacks => hnone hlacks.2

theorem of_arrival {c : Completion} (hc : d.inflight.isCurrent c.token = true)
    (hk : c.token.kind = c.answer.kind)
    (h : Arrival { d with inflight := d.inflight.cancel c.token.kind } c.answer r) :
    Fetches d (.completion c) r := by
  obtain ⟨token, answer⟩ := c
  have hother (hne : answer.kind ≠ .definition) :
      d.applies .definition (.completion ⟨token, answer⟩) = false := by
    simp [applies, hne]
  have hsettled (hd : answer.kind = .definition) :
      (d.inflight.cancel token.kind).latest .definition = none := by
    rw [Inflight.latest_cancel, if_pos (hk.trans hd).symm]
  cases h with
  | offer | noOffer | suggestions | otherField | files | otherFiles | again | refused =>
    exact .kept ⟨rfl, rfl, rfl⟩ (hother (by simp [Answer.kind])) rfl
  | template ht => exact .away fun hlacks => by simp [Lacks] at hlacks
  | otherTemplate ht => exact .other (.of_draft rfl) hc rfl ht (hsettled rfl)
  | @failure _ e ha =>
    cases answer with
    | definition outcome =>
      cases outcome with
      | ok t => cases ha
      | error e' =>
        obtain rfl : e' = e := Option.some.inj ha
        exact .failed hc rfl (hsettled rfl) rfl
    | providers | preview | typeahead | submit =>
      exact .kept (.of_draft rfl) (hother (by simp [Answer.kind])) rfl
  | receipt | expired | expiredSubmit => exact .left (by simp [takeReceipt, quit]) rfl

theorem of_effect (hk : ∀ c, ev = .completion c → c.token.kind = c.answer.kind) (hd : d.Sound)
    (h : Effect d ev r) : Fetches d ev r := by
  cases h with
  | glance hg => exact .of_key hg.draft
  | leave => exact .left (by simp [quit]) rfl
  | reload hs | preview hs => exact .of_stage hs (by decide)
  | enter hp hm hr => exact of_entry hd hp hm hr
  | refuse hp =>
    cases hp with
    | none => exact .of_key rfl
    | card s hs hc => exact .of_stage ((Draft.choose_stage d.draft s).trans hs) (by decide)
  | edit _ _ hs hf | accept hs _ hf => exact of_setText _ hd hs hf rfl rfl
  | field | acceptNone | openFile | act | close => exact .of_key rfl
  | confirm he hw =>
    refine .kept ?_ rfl rfl
    rw [quiet_fst, confirmEdit_eq hw]
    exact ⟨rfl, rfl, rfl⟩
  | submit hb =>
    obtain ⟨-, session, he⟩ := submit_of_begun hb
    rw [he]
    exact .kept ⟨rfl, rfl, rfl⟩ rfl rfl
  | justify text hs => exact .of_stage ((Draft.setField_stage _).trans hs) (by decide)
  | pause | lookup | silence => exact .kept (.of_draft rfl) rfl rfl
  | deliver hc ha => exact of_arrival hc (hk _ rfl) ha
  | stale hc => exact .kept (.of_draft rfl) (by simp [applies, hc]) rfl

end Fetches

/-- A key that changes the choice on the configuration issues nothing. -/
theorem issued_of_choice_ne {k : Key} {clock : Clock} (h : Effect d (.key k clock) r)
    (hs : d.draft.stage = .configure) (hc : r.1.draft.choice ≠ d.draft.choice) : r.2 = none := by
  cases h with
  | glance | leave | refuse | edit | field | accept | acceptNone | openFile => rfl
  | act | confirm | close | justify => rfl
  | reload hs' | preview hs' => cases hs.symm.trans hs'
  | submit hb => cases hs.symm.trans (Draft.beginSubmit_eq_ok.1 hb).1
  | enter hd hm hr =>
    cases hd with
    | none => exact absurd ((congrArg Draft.choice hr.draft).trans hm.keeps.choice) hc
    | card s hs' => cases hs.symm.trans hs'

/-- A template comes in with an answer that counts, or was there before. -/
theorem template_of_effect (h : Effect d ev r) (ht : r.1.draft.template.isSome = true) :
    d.draft.template.isSome = true ∨ ∃ c t, ev = .completion c ∧
      d.inflight.isCurrent c.token = true ∧ c.answer = .definition (.ok t) := by
  have hkeep {draft : Draft} (hk : d.draft.Keeps draft ∨ d.draft.Drops draft)
      (hsome : draft.template.isSome = true) : d.draft.template.isSome = true := by
    rcases hk with hk | hk
    · exact hk.template ▸ hsome
    · simp [hk.template] at hsome
  cases h with
  | glance hg => exact .inl (hg.draft ▸ ht)
  | leave | reload | field | acceptNone | openFile | act | close | preview => exact .inl ht
  | pause | lookup | silence | stale => exact .inl ht
  | enter hd hm hr =>
    rw [hr.draft, hm.keeps.template] at ht
    exact .inl (hkeep (Refiles.keeps_or_drops_of_picked hd) ht)
  | refuse hd => exact .inl (hkeep (Refiles.keeps_or_drops_of_picked hd) ht)
  | edit | accept => exact .inl (hkeep (Draft.keeps_or_drops_setText ..) ht)
  | justify text => exact .inl (hkeep (.inl (Draft.keeps_setText_justification d.draft text)) ht)
  | confirm he hw =>
    rw [quiet_fst, confirmEdit_draft hw] at ht
    exact .inl ht
  | submit hb =>
    obtain ⟨-, session, he⟩ := submit_of_begun hb
    rw [he] at ht
    exact .inl ht
  | @deliver c _ hc ha =>
    obtain ⟨token, answer⟩ := c
    cases ha with
    | @template t => exact .inr ⟨_, t, rfl, hc, rfl⟩
    | receipt => cases ht
    | offer | noOffer | otherTemplate | suggestions | otherField | files | otherFiles => exact .inl ht
    | again | refused | failure | expired | expiredSubmit => exact .inl ht

end Desk

namespace Office

variable {session : Session} {delay : Nat} {past : Past} {o : Office}

/-- The answer to a template that counted last was an error, which was shown as a notice. -/
inductive TemplateFailed : Past → Prop where
  | answered {past : Past} {o : Office} {c : Completion} {e : ApiError}
      (hc : o.desk.inflight.isCurrent c.token = true) (ha : c.answer = .definition (.error e))
      (hn : (o.step (.completion c)).desk.notice = some (.failure e)) :
      TemplateFailed ((o, .completion c) :: past)
  | later {past : Past} {o : Office} {ev : Event} (h : TemplateFailed past)
      (ha : o.desk.applies .definition ev = false) : TemplateFailed ((o, ev) :: past)

/-- Nothing brings the template of the chosen integration. The answer for it was the template of another one;
or the template was there, and the choice was changed through one of its own fields. Since then no template was
asked for, and none came in. -/
inductive Stranded : Past → Prop where
  | otherTemplate {past : Past} {o : Office} {i : Issued} {b : Backend} {s : Integration} {t : Template}
      (hi : i ∈ o.awaited) (hc : o.desk.inflight.isCurrent i.token = true) (hj : i.job = .definition s)
      (hs : o.desk.draft.selection = some s) (hb : b.definition s = .ok t)
      (ht : s ≠ ⟨t.provider, t.templateId⟩) : Stranded ((o, .completion (b.complete i)) :: past)
  | rechosen {past : Past} {o : Office} {k : Key} {clock : Clock} {f : Field}
      (hs : o.desk.draft.stage = .configure) (hf : o.desk.currentField = some f)
      (hn : isChoiceField f.name = true)
      (hc : (o.step (.key k clock)).desk.draft.choice ≠ o.desk.draft.choice) :
      Stranded ((o, .key k clock) :: past)
  | later {past : Past} {o : Office} {ev : Event} (h : Stranded past)
      (hi : Desk.issues .definition (o.desk.react ev) = false)
      (ha : o.desk.applies .definition ev = false) : Stranded ((o, ev) :: past)

/-- A template that is awaited and counts is the one of the chosen integration; and if none is, the last one
failed, or nothing brings it. -/
structure Fetching (past : Past) (o : Office) : Prop where
  current : ∀ i ∈ o.awaited, o.desk.inflight.isCurrent i.token = true →
    ∀ s, i.job = .definition s → o.desk.draft.selection = some s
  settled : o.desk.exit = none → o.desk.inflight.latest .definition = none →
    TemplateFailed past ∨ Stranded past

/-- Where no template is waited for, there must be a reason. -/
theorem Run.fetching_of_latest (h : Run session delay past o)
    (hl : o.desk.inflight.latest .definition = none)
    (hf : o.desk.exit = none → TemplateFailed past ∨ Stranded past) : Fetching past o where
  current := by
    intro i hi hc s hj
    have hlatest := h.registered.latest_of_isCurrent hi hc
    rw [hj] at hlatest
    cases hl.symm.trans hlatest
  settled hq _ := hf hq

/-- A template that is asked for now is the only one whose answer counts. -/
theorem Run.fetching_of_asked {ev : Event} {token : Token} {s : Integration}
    (h : Run session delay past (o.step ev)) (hr : (o.desk.react ev).2 = some ⟨token, .definition s⟩)
    (hc : (o.step ev).desk.inflight.isCurrent token = true)
    (hs : (o.step ev).desk.draft.selection = some s) : Fetching past (o.step ev) where
  current := by
    intro i hi hci s' hj
    have hnew := mem_awaited_of_issued hr
    obtain rfl := h.registered.eq_of_isCurrent hi hnew hci hc (by rw [hj]; rfl)
    obtain rfl := Job.definition.inj hj
    exact hs
  settled := by
    intro _ hl
    have hlatest := h.registered.latest_of_isCurrent (mem_awaited_of_issued hr) hc
    cases hl.symm.trans hlatest

theorem Fetching.step {ev : Event} (h : Fetching past o) (hr : Run session delay past o)
    (he : o.Allows ev) (hk : Desk.Stands o.desk (o.step ev).desk)
    (ha : o.desk.applies .definition ev = false)
    (hi : Desk.issues .definition (o.desk.react ev) = false) :
    Fetching ((o, ev) :: past) (o.step ev) where
  current := by
    intro i hmem hc s hj
    rcases mem_awaited_step hmem with hissued | hmem
    · simp [Desk.issues, hissued, hj, Job.kind] at hi
    · have hbefore := Desk.isCurrent_of_effect (Desk.effect_react o.desk ev)
        (hr.registered.seq_le i hmem) hc
      exact hk.selection.trans (h.current i hmem hbefore s hj)
  settled := by
    intro hq hl
    have hlatest : (o.step ev).desk.inflight.latest .definition = o.desk.inflight.latest .definition :=
      Desk.latest_effect (Desk.effect_react o.desk ev) (hr.kind_eq he) (by decide) hi ha hq
    rcases h.settled (Desk.exit_bearing (hr.bearing he) hq) (hlatest ▸ hl) with hf | hs
    · exact .inl (.later hf ha)
    · exact .inr (.later hs hi ha)

theorem Run.fetching (h : Run session delay past o) (hl : o.desk.Lacks) : Fetching past o := by
  induction h with
  | start => cases hl.1
  | @step past o h ev he ih =>
    have hrun := h.step ev he
    have hfetches := Desk.Fetches.of_effect (h.kind_eq he) h.sound (Desk.effect_react o.desk ev)
    generalize hr : o.desk.react ev = r at hfetches
    have hdesk : (o.step ev).desk = r.1 := by rw [step_desk, hr]
    cases hfetches with
    | away haway => exact absurd (hdesk ▸ hl) haway
    | kept hkept ha hi =>
      rw [← hdesk] at hkept
      exact (ih (hkept.lacks hl)).step h he hkept ha (hr ▸ hi)
    | asked hissued hc hs =>
      rw [← hdesk] at hc hs
      exact hrun.fetching_of_asked (hr ▸ hissued) hc hs
    | failed hc ha hnone hn =>
      rw [← hdesk] at hnone hn
      exact hrun.fetching_of_latest hnone fun _ => .inl (.answered hc ha hn)
    | other hkept hc ha ht hnone =>
      rw [← hdesk] at hkept hnone
      obtain ⟨i, hi, b, rfl⟩ := he
      obtain ⟨s, hj, hb⟩ := Backend.answer_eq_definition ha
      have hselection := (ih (hkept.lacks hl)).current i hi hc s hj
      refine hrun.fetching_of_latest hnone fun _ => .inr (.otherTemplate hi hc hj hselection hb ?_)
      rintro rfl
      simp [Draft.accepts_iff.2 hselection] at ht
    | dropped hs hf hd hn hnone =>
      rw [← hdesk] at hd hnone
      exact hrun.fetching_of_latest hnone fun _ => .inr (.rechosen hs hf hn hd.choice)
    | left hq hnone =>
      rw [← hdesk] at hnone hq
      exact hrun.fetching_of_latest hnone fun hexit => absurd hexit hq

/-- A template that failed to come in is not there. -/
theorem Run.template_of_failed (h : Run session delay past o) (hf : TemplateFailed past) :
    o.desk.draft.template = none := by
  induction h with
  | start => rfl
  | @step past o h ev he ih =>
    rw [← Option.not_isSome_iff_eq_none, step_desk]
    intro hsome
    have hbefore := Desk.template_of_effect (Desk.effect_react o.desk ev) hsome
    cases hf with
    | @answered _ _ c e hc ha hn =>
      rcases hbefore with hbefore | ⟨c', t, hev, -, ha'⟩
      · have hkind : c.token.kind = .definition := by rw [h.kind_eq he c rfl, ha]; rfl
        exact absurd (h.sound.settled hbefore) (Inflight.latest_ne_of_isCurrent hc hkind)
      · obtain rfl := Event.completion.inj hev
        cases ha.symm.trans ha'
    | later hf ha =>
      rcases hbefore with hbefore | ⟨c, t, rfl, hc, ha'⟩
      · simp [ih hf] at hbefore
      · simp [Desk.applies, hc, ha', Answer.kind] at ha

/-- Where nothing brings the template, none is waited for. -/
theorem Run.latest_of_stranded (h : Run session delay past o) (hs : Stranded past)
    (hq : o.desk.exit = none) : o.desk.inflight.latest .definition = none := by
  induction h with
  | start => cases hs
  | @step past o h ev he ih =>
    have heffect := Desk.effect_react o.desk ev
    have hbefore := Desk.exit_bearing (h.bearing he) hq
    cases hs with
    | otherTemplate hi hc hj _ hb =>
      refine Desk.latest_applied heffect (h.kind_eq he _ rfl) ?_ ?_ hq
      · simp [Desk.applies, Backend.complete, Backend.answer, hc, hj, Answer.kind]
      · simp [Desk.issues, h.issued_completion he]
    | @rechosen _ _ k clock f hs hf hn hc =>
      have hissued : Desk.issues .definition (o.desk.react (.key k clock)) = false := by
        simp [Desk.issues, Desk.issued_of_choice_ne heffect hs hc]
      have hlatest := Desk.latest_effect heffect (h.kind_eq he) (by decide) hissued rfl hq
      exact hlatest.trans (h.sound.settled (Desk.isSome_template_of_currentField hf))
    | later hs hi ha =>
      have hlatest := Desk.latest_effect heffect (h.kind_eq he) (by decide) hi ha hq
      exact hlatest.trans (ih hs hbefore)

/-- What failed to come in was asked for and answered with an error. -/
theorem Run.not_stranded_of_failed (h : Run session delay past o) (hf : TemplateFailed past) :
    ¬ Stranded past := by
  intro hs
  induction h with
  | start => cases hs
  | @step past o h ev he ih =>
    cases hs with
    | otherTemplate hi hc hj _ hb =>
      cases hf with
      | answered _ ha => simp [Backend.complete, Backend.answer, hj, hb] at ha
      | later _ ha => simp [Desk.applies, Backend.complete, Backend.answer, hc, hj, Answer.kind] at ha
    | rechosen _ hfield =>
      cases hf with
      | later hf _ =>
        have hsome := Desk.isSome_template_of_currentField hfield
        simp [h.template_of_failed hf] at hsome
    | later hs _ ha =>
      cases hf with
      | answered hc hanswer => simp [Desk.applies, hc, hanswer, Answer.kind] at ha
      | later hf _ => exact ih hf hs

/-- Until the desk is left, a configuration without a template waits for the one of the chosen integration, or
the last answer was an error that was shown; unless the answer was the template of another integration, or the
choice was changed through a field of the template. -/
theorem template_on_its_way (h : Run session delay past o) (hq : o.desk.exit = none)
    (hs : o.desk.draft.stage = .configure) (ht : o.desk.draft.template = none) :
    ((o.desk.inflight.isPending .definition = true ∧ ∃ i ∈ o.awaited,
        o.desk.inflight.isCurrent i.token = true ∧
        ∃ s, i.job = .definition s ∧ o.desk.draft.selection = some s) ∨ TemplateFailed past) ↔
      ¬ Stranded past := by
  constructor
  · rintro (⟨hpending, -⟩ | hfailed) hstranded
    · simp [Inflight.isPending, h.latest_of_stranded hstranded hq] at hpending
    · exact h.not_stranded_of_failed hfailed hstranded
  · intro hstranded
    obtain ⟨hcurrent, hsettled⟩ := h.fetching ⟨hs, ht⟩
    cases hl : o.desk.inflight.latest .definition with
    | none => exact .inr ((hsettled hq hl).resolve_right hstranded)
    | some seq =>
      obtain ⟨i, hi, htoken⟩ := h.registered.latest .definition seq hl
      have hc : o.desk.inflight.isCurrent i.token = true := by simp [htoken, Inflight.isCurrent, hl]
      have hkind : i.job.kind = .definition := by rw [← h.registered.kind_eq i hi, htoken]
      obtain ⟨s, hj⟩ := Job.eq_definition hkind
      exact .inl ⟨by simp [Inflight.isPending, hl], i, hi, hc, s, hj, hcurrent i hi hc s hj⟩

end Office

/-! A configuration that waits for its template, and what becomes of it when the template of another
integration comes in. -/

namespace Sample

open Office

/-- A backend whose template belongs to another integration than the one asked for. -/
def otherBackend : Backend := { backend with definition := fun _ => .ok ⟨"s3-v2", "aws", none, []⟩ }

def unloaded : Office := loading.step (answer otherBackend loading)

theorem reached_loading : Reached loading := (Reached.answer ⟨[], .start⟩ backend).press .enter

end Sample

namespace Office

theorem template_on_its_way_sample : ∃ past, Run .empty 0 past Sample.loading ∧
    Sample.loading.desk.exit = none ∧ Sample.loading.desk.draft.stage = .configure ∧
    Sample.loading.desk.draft.template = none ∧
    Sample.loading.desk.inflight.isPending .definition = true ∧ ¬ Stranded past := by
  obtain ⟨past, h⟩ := Sample.reached_loading
  have hwaits := (template_on_its_way h rfl rfl rfl).1 (.inl ⟨rfl, _, List.mem_cons_self, rfl, _, rfl, rfl⟩)
  exact ⟨past, h, rfl, rfl, rfl, rfl, hwaits⟩

/-- The configuration has no template, none is waited for, and no error was shown. -/
theorem waits_silently : ∃ past, Run .empty 0 past Sample.unloaded ∧ Sample.unloaded.desk.exit = none ∧
    Sample.unloaded.desk.draft.stage = .configure ∧ Sample.unloaded.desk.draft.template = none ∧
    Sample.unloaded.desk.inflight.isPending .definition = false ∧
    Sample.unloaded.desk.notice = none ∧ ¬ TemplateFailed past := by
  obtain ⟨past, h⟩ := Sample.reached_loading
  have hrun := h.step _ (Sample.allows_answer Sample.otherBackend Sample.loading)
  refine ⟨_, hrun, rfl, rfl, rfl, rfl, rfl, fun hf => ?_⟩
  have hevent : Sample.answer Sample.otherBackend Sample.loading = .completion
      ⟨⟨.definition, 2, 0⟩, .definition (.ok ⟨"s3-v2", "aws", none, []⟩)⟩ := rfl
  rw [hevent] at hf
  cases hf with
  | answered _ ha => cases ha
  | later _ ha => exact absurd ha (by decide)

end Office

end ChangeDesk
