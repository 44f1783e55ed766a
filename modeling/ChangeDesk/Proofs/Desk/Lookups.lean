import ChangeDesk.Proofs.Desk.Onward

/-!
Where the completions on show come from. A lookup is asked for under a token, and its answer counts only as
long as nothing has taken the place of the token. Leaving the field, taking one of the completions over and
entering the stage again clear both, so that what is shown was looked up for the field and the integration
that are edited now.
-/
namespace ChangeDesk

/-- An answer to a lookup says what field it was made for. -/
theorem Backend.answer_eq_typeahead {b : Backend} {j : Job} {field : String}
    {outcome : Outcome (List Suggestion)} (h : b.answer j = .typeahead field outcome) :
    ∃ q : Query, j = .typeahead q ∧ q.field = field := by
  cases j with
  | typeahead q =>
    simp only [answer, Answer.typeahead.injEq] at h
    exact ⟨q, rfl, h.1⟩
  | providers | definition | preview | submit => simp [answer] at h

namespace Desk

variable {d d' : Desk} {r : Reaction} {ev : Event} {q : Query}

structure Cleared (d : Desk) : Prop where
  suggestions : d.suggestions = []
  latest : d.inflight.latest .typeahead = none

/-- The user turns away from what is typed in the current field: the cursor moves to another field, one of
the completions is taken over, or the stage is entered, be it again. -/
inductive Interrupts (d : Desk) : Event → Prop where
  | field {ev : Event} (h : (d.react ev).1.fieldCursor ≠ d.fieldCursor) : Interrupts d ev
  | accept {ctrl : Bool} {clock : Clock} {hit : Suggestion} (hs : d.draft.stage = .configure)
      (hh : d.helpOpen = false) (he : d.editor = none)
      (hhit : d.suggestions[d.suggestionSelected]? = some hit) :
      Interrupts d (.key ⟨.tab, ctrl⟩ clock)
  | arrive {ev : Event} (hs : d.draft.stage ≠ .configure)
      (hs' : (d.react ev).1.draft.stage = .configure) : Interrupts d ev
  | again {ctrl : Bool} {clock : Clock} (hs : d.draft.stage = .configure) (hh : d.helpOpen = false) :
      Interrupts d (.key ⟨.function 2, ctrl⟩ clock)

/-- A lookup is for the chosen integration and the current field, and not for blank text. -/
structure Fits (d : Desk) (q : Query) : Prop where
  selection : d.draft.selection = some ⟨q.provider, q.templateId⟩
  field : d.currentField.map Field.name = some q.field
  start : Text.isBlank q.start = false

structure Steady (d d' : Desk) : Prop where
  stage : d.draft.stage = .configure
  template : d'.draft.template = d.draft.template
  selection : d'.draft.selection = d.draft.selection
  cursor : d'.fieldCursor = d.fieldCursor

theorem Steady.fits (h : Steady d d') (hq : d.Fits q) : d'.Fits q := by
  have hfield : d'.currentField = d.currentField := by rw [currentField, currentField, h.template, h.cursor]
  exact ⟨h.selection.trans hq.selection, hfield ▸ hq.field, hq.start⟩

inductive Completes (d : Desk) : Event → Reaction → Prop where
  | away {ev : Event} {r : Reaction}
      (h : r.1.draft.stage = .configure → r.1.draft.template = none) : Completes d ev r
  | cleared {ev : Event} {r : Reaction} (h : r.1.Cleared) : Completes d ev r
  | kept {ev : Event} {r : Reaction} (h : Steady d r.1) (hs : r.1.suggestions = d.suggestions)
      (hi : ∀ i, r.2 = some i → i.job.kind ≠ .typeahead) : Completes d ev r
  | asked {clock : Clock} (q : Query) (t : Debounce) (hs : d.draft.stage = .configure)
      (hq : d.Fits q) : Completes d (.tick clock) (issue (.typeahead q) { d with typing := t })
  | answered {c : Completion} {f : Field} {hits : List Suggestion}
      (hc : d.inflight.isCurrent c.token = true) (ha : c.answer = .typeahead f.name (.ok hits))
      (hf : d.currentField = some f) :
      Completes d (.completion c)
        (quiet { d with
          inflight := d.inflight.cancel c.token.kind, suggestions := hits, suggestionSelected := 0 })

/-- While the template is waited for on its stage, nothing is completed. -/
def LoadsBare (d : Desk) : Prop :=
  d.draft.stage = .configure → d.inflight.latest .definition ≠ none → d.Cleared

theorem Glance.suggestions (h : Glance d d') : d'.suggestions = d.suggestions := by cases h <;> rfl

theorem Glance.fieldCursor (h : Glance d d') : d'.fieldCursor = d.fieldCursor := by cases h <;> rfl

theorem cleared_resetTyping (d : Desk) : d.resetTyping.Cleared := ⟨rfl, rfl⟩

theorem cleared_entry (h : Entry d r) (hs : r.1.draft.stage = .configure) : r.1.Cleared := by
  rw [h.draft] at hs
  cases h with
  | choose hs' | review hs' | preview hs' => simp [hs'] at hs
  | configure | load => exact cleared_resetTyping _

/-- A field is edited only in a template that is there. -/
theorem isSome_template_of_currentField {f : Field} (h : d.currentField = some f) :
    d.draft.template.isSome := by
  obtain ⟨t, ht, -⟩ := Option.bind_eq_some_iff.1 h
  rw [ht]
  rfl

namespace LoadsBare

theorem of_cleared (h : d.Cleared) : d.LoadsBare := fun _ _ => h

theorem of_eq (h : d.LoadsBare) (hd : d'.draft.stage = d.draft.stage)
    (hi : d'.inflight = d.inflight) (hs : d'.suggestions = d.suggestions) : d'.LoadsBare := by
  intro hstage hlatest
  rw [hi] at hlatest
  obtain ⟨hnil, hnone⟩ := h (hd ▸ hstage) hlatest
  exact ⟨hs ▸ hnil, hi ▸ hnone⟩

theorem of_stage {s : Stage} (hs : d.draft.stage = s) (hne : s ≠ .configure) : d.LoadsBare :=
  fun h => absurd (hs.symm.trans h) hne

theorem of_settled (hl : d.inflight.latest .definition = none) : d.LoadsBare := fun _ h => absurd hl h

end LoadsBare

theorem loadsBare_arrival {k : RequestKind} {a : Answer} (h : d.LoadsBare)
    (hsettled : d.draft.template.isSome → d.inflight.latest .definition = none)
    (ha : Arrival { d with inflight := d.inflight.cancel k } a r) : r.1.LoadsBare := by
  have hd : LoadsBare { d with inflight := d.inflight.cancel k } := by
    intro hs hl
    obtain ⟨hnil, hnone⟩ := h hs fun hnone => hl (Inflight.latest_cancel_eq_none k hnone)
    exact ⟨hnil, Inflight.latest_cancel_eq_none k hnone⟩
  cases ha with
  | offer | noOffer | template | otherTemplate | otherField | files | otherFiles | refused | failure =>
    exact hd.of_eq rfl rfl rfl
  | @suggestions f hits hf =>
    exact .of_settled (Inflight.latest_cancel_eq_none k (hsettled (isSome_template_of_currentField hf)))
  | again fs hf hs => exact .of_stage hs nofun
  | receipt | expired | expiredSubmit => exact .of_settled rfl

theorem loadsBare_effect (h : d.LoadsBare)
    (hsettled : d.draft.template.isSome → d.inflight.latest .definition = none) (he : Effect d ev r) :
    r.1.LoadsBare := by
  cases he with
  | glance hg =>
    exact h.of_eq (by rw [quiet_fst, hg.draft]) hg.inflight hg.suggestions
  | leave => exact .of_settled rfl
  | reload hs => exact .of_stage hs nofun
  | enter hd hm hr => exact fun hs _ => cleared_entry hr hs
  | refuse hd =>
    cases hd with
    | none => exact h.of_eq rfl rfl rfl
    | card s hs hc => exact .of_stage ((Draft.choose_stage d.draft s).trans hs) nofun
  | edit | justify => exact h.of_eq (Draft.setField_stage _) rfl rfl
  | field | accept | acceptNone => exact .of_cleared (cleared_resetTyping _)
  | openFile | act | close | pause | stale => exact h.of_eq rfl rfl rfl
  | confirm ho hw =>
    rw [confirmEdit_eq hw]
    exact h.of_eq rfl rfl rfl
  | submit hb =>
    obtain ⟨hs, session, he⟩ := submit_of_begun hb
    rw [he]
    exact .of_stage hs nofun
  | preview hs => exact .of_stage hs nofun
  | lookup hs hp hc hf => exact .of_settled (hsettled (isSome_template_of_currentField hf))
  | silence => exact .of_cleared ⟨rfl, rfl⟩
  | deliver hc ha => exact loadsBare_arrival h hsettled ha

namespace Steady

theorem of_eq (hs : d'.draft.stage = .configure) (hstage : d'.draft.stage = d.draft.stage)
    (ht : d'.draft.template = d.draft.template) (hf : d'.draft.form = d.draft.form)
    (hc : d'.fieldCursor = d.fieldCursor) : Steady d d' :=
  ⟨hstage ▸ hs, ht, Draft.selection_congr (by rw [Draft.choice, Draft.choice, hf]), hc⟩

end Steady

namespace Completes

theorem of_quiet (h : Steady d d') (hs : d'.suggestions = d.suggestions) : Completes d ev (quiet d') :=
  .kept h hs (by simp)

theorem of_stage {s : Stage} (hs : r.1.draft.stage = s) (hne : s ≠ .configure) : Completes d ev r :=
  .away fun h => absurd (hs.symm.trans h) hne

theorem of_eq (hstage : d'.draft.stage = d.draft.stage) (ht : d'.draft.template = d.draft.template)
    (hf : d'.draft.form = d.draft.form) (hc : d'.fieldCursor = d.fieldCursor)
    (hs : d'.suggestions = d.suggestions) : Completes d ev (quiet d') := by
  by_cases hconfigure : d'.draft.stage = .configure
  · exact .of_quiet (.of_eq hconfigure hstage ht hf hc) hs
  · exact .of_stage rfl hconfigure

theorem of_setText {name text : String} {t : Debounce} :
    Completes d ev (quiet { d with draft := d.draft.setText name text, typing := t }) := by
  have hstage : (d.draft.setText name text).stage = d.draft.stage := Draft.setField_stage _
  rcases Draft.keeps_or_drops_setText d.draft name text with hk | hd
  · by_cases hconfigure : d.draft.stage = .configure
    · exact .of_quiet ⟨hconfigure, hk.template, Draft.selection_congr hk.choice, rfl⟩ rfl
    · exact .of_stage hstage hconfigure
  · exact .away fun _ => hd.template

theorem of_arrival {c : Completion} (hc : d.inflight.isCurrent c.token = true) (hl : d.LoadsBare)
    (hk : c.token.kind = c.answer.kind)
    (h : Arrival { d with inflight := d.inflight.cancel c.token.kind } c.answer r) :
    Completes d (.completion c) r := by
  obtain ⟨token, answer⟩ := c
  cases h with
  | offer | noOffer | otherField | files | otherFiles | refused | failure | expired | expiredSubmit =>
    exact .of_eq rfl rfl rfl rfl rfl
  | template | otherTemplate =>
    by_cases hs : d.draft.stage = .configure
    · obtain ⟨hnil, hnone⟩ := hl hs (Inflight.latest_ne_of_isCurrent hc hk)
      exact .cleared ⟨hnil, Inflight.latest_cancel_eq_none _ hnone⟩
    · exact .of_stage rfl hs
  | suggestions hits hf => exact .answered hc rfl hf
  | again fs hf hs => exact .of_stage hs nofun
  | receipt => exact .of_stage rfl nofun

theorem of_effect (hl : d.LoadsBare) (hk : ∀ c, ev = .completion c → c.token.kind = c.answer.kind)
    (h : Effect d ev r) : Completes d ev r := by
  cases h with
  | glance hg =>
    have hdraft := hg.draft
    exact .of_eq (by rw [hdraft]) (by rw [hdraft]) (by rw [hdraft]) hg.fieldCursor hg.suggestions
  | leave | openFile | act | close | pause | stale => exact .of_eq rfl rfl rfl rfl rfl
  | silence => exact .cleared ⟨rfl, rfl⟩
  | reload hs => exact .of_stage hs nofun
  | enter hd hm hr =>
    by_cases hs : r.1.draft.stage = .configure
    · exact .cleared (cleared_entry hr hs)
    · exact .of_stage rfl hs
  | refuse hd =>
    cases hd with
    | none => exact .of_eq rfl rfl rfl rfl rfl
    | card s hs hc => exact .of_stage ((Draft.choose_stage d.draft s).trans hs) nofun
  | edit value t => exact .of_setText
  | justify text => exact .of_setText (t := d.typing)
  | field | accept | acceptNone => exact .cleared (cleared_resetTyping _)
  | confirm ho hw =>
    rw [confirmEdit_eq hw]
    exact .of_eq rfl rfl rfl rfl rfl
  | submit hb =>
    obtain ⟨hs, session, he⟩ := submit_of_begun hb
    rw [he]
    exact .of_stage hs nofun
  | preview hs => exact .of_stage hs nofun
  | lookup hs hp hc hf hb => exact .asked _ _ hs ⟨hc, by rw [hf]; rfl, hb⟩
  | deliver hc ha => exact .of_arrival hc hl (hk _ rfl) ha

end Completes

theorem inflight_suggestions {c : Completion} {field : String} {hits : List Suggestion}
    (hc : d.inflight.isCurrent c.token = true) (ha : c.answer = .typeahead field (.ok hits)) :
    (d.react (.completion c)).1.inflight = d.inflight.cancel c.token.kind := by
  simp only [react, deliver, Inflight.settle, hc, ha, takeAnswer, takeSuggestions, ↓reduceIte]
  split <;> rfl

theorem cleared_accept {ctrl : Bool} {clock : Clock} {hit : Suggestion} (hs : d.draft.stage = .configure)
    (hh : d.helpOpen = false) (he : d.editor = none)
    (hhit : d.suggestions[d.suggestionSelected]? = some hit) :
    (d.react (.key ⟨.tab, ctrl⟩ clock)).1.Cleared := by
  have hreact : d.react (.key ⟨.tab, ctrl⟩ clock) =
      quiet (d.acceptSuggestion?.getD (d.moveField true)) := by
    simp [react, press, hh, he, stageOfKey?, stageKey, hs, configureKey]
  rw [hreact, acceptSuggestion?, hhit]
  exact cleared_resetTyping _

theorem cleared_again {ctrl : Bool} {clock : Clock} (hs : d.draft.stage = .configure)
    (hh : d.helpOpen = false) : (d.react (.key ⟨.function 2, ctrl⟩ clock)).1.Cleared := by
  rw [react_stageOfKey rfl clock hh (by rw [hs])]
  have hentry := entry_enterStage
    { d with draft := { d.draft with stage := .configure }, refusal := none }
  exact cleared_entry hentry (by rw [hentry.draft])

/-- Turning away from the current field leaves nothing of its completions. -/
theorem Interrupts.cleared (h : d.Interrupts ev) (hc : Completes d ev (d.react ev))
    (hs : (d.react ev).1.draft.stage = .configure) (ht : (d.react ev).1.draft.template.isSome) :
    (d.react ev).1.Cleared := by
  have hsteady (hc : Steady d (d.react ev).1) : (d.react ev).1.Cleared := by
    cases h with
    | field hne => exact absurd hc.cursor hne
    | accept hs' hh he hhit => exact cleared_accept hs' hh he hhit
    | arrive hne => exact absurd hc.stage hne
    | again hs' hh => exact cleared_again hs' hh
  generalize he : d.react ev = r at *
  cases hc with
  | away hnone => simp [hnone hs] at ht
  | cleared hcleared => exact hcleared
  | kept hkept => exact hsteady hkept
  | asked q t hs' => exact hsteady (.of_eq hs rfl rfl rfl rfl)
  | answered => exact hsteady (.of_eq hs rfl rfl rfl rfl)

end Desk

namespace Office

variable {session : Session} {delay : Nat} {past : Past} {o : Office} {token : Token} {q : Query}

/-- A lookup was asked for under a token. Since then its answer has counted all the time, and the user has
not turned away from the field. -/
inductive LookingUp (token : Token) (q : Query) : Past → Office → Prop where
  | asked {past : Past} {o : Office} {ev : Event}
      (h : (o.desk.react ev).2 = some ⟨token, .typeahead q⟩) :
      LookingUp token q ((o, ev) :: past) (o.step ev)
  | later {past : Past} {o : Office} {ev : Event} (h : LookingUp token q past o)
      (hc : (o.step ev).desk.inflight.isCurrent token = true) (hn : ¬ o.desk.Interrupts ev) :
      LookingUp token q ((o, ev) :: past) (o.step ev)

/-- The completions on show are the answer to a lookup, which counted when it came in. Since then the user
has not turned away from the field, and no answer to an earlier lookup has counted. -/
inductive Showing (token : Token) (q : Query) : Past → Office → Prop where
  | answered {past : Past} {o : Office} {hits : List Suggestion} (h : LookingUp token q past o)
      (hc : o.desk.inflight.isCurrent token = true)
      (hs : (o.step (.completion ⟨token, .typeahead q.field (.ok hits)⟩)).desk.suggestions = hits) :
      Showing token q ((o, .completion ⟨token, .typeahead q.field (.ok hits)⟩) :: past)
        (o.step (.completion ⟨token, .typeahead q.field (.ok hits)⟩))
  | later {past : Past} {o : Office} {ev : Event} (h : Showing token q past o)
      (hs : (o.step ev).desk.suggestions = o.desk.suggestions) (hn : ¬ o.desk.Interrupts ev)
      (hl : ∀ c, ev = .completion c → c.token.kind = .typeahead →
        o.desk.inflight.isCurrent c.token = true → token.seq < c.token.seq) :
      Showing token q ((o, ev) :: past) (o.step ev)

/-- No answer to a lookup with this number or an earlier one counts any more. -/
structure Outdated (t : Inflight) (n : Nat) : Prop where
  given : n ≤ t.lastSeq
  stale : ∀ token : Token, token.kind = .typeahead → token.seq ≤ n → t.isCurrent token = false

theorem Outdated.cancel {t : Inflight} {n : Nat} (h : n ≤ t.lastSeq) : Outdated (t.cancel .typeahead) n where
  given := h
  stale token hk _ := by simp [Inflight.isCurrent, Inflight.latest_cancel, hk]

theorem Outdated.step {n : Nat} {ev : Event} (h : Outdated o.desk.inflight n) :
    Outdated (o.step ev).desk.inflight n where
  given := Nat.le_trans h.given (Desk.lastSeq_le_effect (Desk.effect_react o.desk ev))
  stale token hk hs :=
    Desk.stale_of_effect (Desk.effect_react o.desk ev) (Nat.le_trans hs h.given) (h.stale token hk hs)

theorem Run.loadsBare (h : Run session delay past o) : o.desk.LoadsBare := by
  induction h with
  | start => exact .of_stage rfl nofun
  | step h e he ih => exact Desk.loadsBare_effect ih h.sound.settled (Desk.effect_react _ e)

theorem Run.completes (h : Run session delay past o) {ev : Event} (he : o.Allows ev) :
    Desk.Completes o.desk ev (o.desk.react ev) :=
  .of_effect h.loadsBare (h.kind_eq he) (Desk.effect_react o.desk ev)

/-- A lookup that still counts is for the field and the integration that are edited now. -/
theorem Run.lookingUp (h : Run session delay past o) {i : Issued} (hi : i ∈ o.awaited)
    (hq : i.job = .typeahead q) (hc : o.desk.inflight.isCurrent i.token = true)
    (hs : o.desk.draft.stage = .configure) (ht : o.desk.draft.template.isSome) :
    LookingUp i.token q past o ∧ o.desk.Fits q := by
  induction h generalizing i q with
  | start =>
    obtain rfl : i = ⟨_, .providers⟩ := List.mem_singleton.1 hi
    cases hq
  | @step past o h ev he ih =>
    have hlatest := (h.step ev he).registered.latest_of_isCurrent hi hc
    rw [hq, Job.kind] at hlatest
    -- Turning away would have cancelled the lookup, which still counts.
    have hturned : ¬ o.desk.Interrupts ev := fun hturn => by
      have hcleared := hturn.cleared (h.completes he) hs ht
      rw [step_desk, hcleared.latest] at hlatest
      cases hlatest
    have hcompletes := h.completes he
    have hissued := mem_awaited_step hi
    rw [step_desk] at hs ht hlatest hc ⊢
    generalize hr : o.desk.react ev = r at *
    cases hcompletes with
    | away hnone => simp [hnone hs] at ht
    | cleared hcleared => simp [hcleared.latest] at hlatest
    | kept hsteady hsuggestions hother =>
      rcases hissued with hnew | hi
      · exact absurd (by rw [hq]; rfl) (hother i hnew)
      · have hcurrent := Desk.isCurrent_of_effect (hr ▸ Desk.effect_react o.desk ev)
          (h.registered.seq_le i hi) hc
        obtain ⟨hlookup, hfits⟩ := ih hi hq hcurrent hsteady.stage (hsteady.template ▸ ht)
        exact ⟨.later hlookup (by rw [step_desk, hr]; exact hc) hturned, hsteady.fits hfits⟩
    | asked q' t hs' hfits =>
      rcases hissued with hnew | hi
      · obtain rfl := Option.some.inj hnew
        obtain rfl : q' = q := Job.typeahead.inj hq
        exact ⟨.asked (by rw [hr]; rfl), hfits.selection, hfits.field, hfits.start⟩
      · -- An older lookup does not count any more, as the new one has the latest number.
        have hle := h.registered.seq_le i hi
        have hseq : o.desk.inflight.lastSeq + 1 = i.token.seq := Option.some.inj hlatest
        omega
    | answered hc' ha hf =>
      -- The answer has settled the lookup that counted, so that none counts now.
      have hkind' := h.kind_eq he _ rfl
      rw [ha] at hkind'
      simp [Desk.quiet, Inflight.latest_cancel, hkind', Answer.kind] at hlatest

theorem Showing.outdated (hshow : Showing token q past o) (h : Run session delay past o) :
    Outdated o.desk.inflight token.seq := by
  induction hshow with
  | @answered past o hits hlookup hc hs =>
    obtain ⟨hr, he, -⟩ := h.of_cons
    have hkind : token.kind = .typeahead := hr.kind_eq he _ rfl
    rw [step_desk, Desk.inflight_suggestions hc rfl, hkind]
    obtain ⟨i, hi, b, hcomplete⟩ := he
    obtain rfl : token = i.token := congrArg Completion.token hcomplete
    exact .cancel (hr.registered.seq_le i hi)
  | later hshow hs hn hl ih =>
    obtain ⟨hr, -, -⟩ := h.of_cons
    exact (ih hr).step

/-- Completions that are shown were looked up for the field and the integration that are edited now. -/
theorem Run.showing (h : Run session delay past o) (hs : o.desk.draft.stage = .configure)
    (ht : o.desk.draft.template.isSome) (hn : o.desk.suggestions ≠ []) :
    ∃ token q, Showing token q past o ∧ o.desk.Fits q := by
  induction h with
  | start => exact absurd rfl hn
  | @step past o h ev he ih =>
    have hturned : ¬ o.desk.Interrupts ev := fun hturn =>
      hn (hturn.cleared (h.completes he) hs ht).suggestions
    -- What is on show already was shown by the induction hypothesis, and only a later answer can count.
    have hcarry (hsteady : Desk.Steady o.desk (o.step ev).desk)
        (hsame : (o.step ev).desk.suggestions = o.desk.suggestions) :
        ∃ token q, Showing token q ((o, ev) :: past) (o.step ev) ∧ (o.step ev).desk.Fits q := by
      obtain ⟨token, q, hshow, hfits⟩ := ih hsteady.stage (hsteady.template ▸ ht) (hsame ▸ hn)
      refine ⟨token, q, .later hshow hsame hturned fun c _ hkind hc => ?_, hsteady.fits hfits⟩
      by_contra hlt
      have hstale := (hshow.outdated h).stale c.token hkind (Nat.le_of_not_lt hlt)
      simp [hc] at hstale
    have hcompletes := h.completes he
    simp only [step_desk] at hs ht hn hcarry ⊢
    generalize hr : o.desk.react ev = r at *
    cases hcompletes with
    | away hnone => simp [hnone hs] at ht
    | cleared hcleared => exact absurd hcleared.suggestions hn
    | kept hsteady hsuggestions => exact hcarry hsteady hsuggestions
    | asked => exact hcarry (.of_eq hs rfl rfl rfl rfl) rfl
    | @answered c f hits hc ha hf =>
      obtain ⟨i, hi, b, rfl⟩ := he
      obtain ⟨q, hq, hfield⟩ := Backend.answer_eq_typeahead ha
      obtain ⟨hlookup, hfits⟩ := h.lookingUp hi hq hc hs (Desk.isSome_template_of_currentField hf)
      have hcomplete : b.complete i = ⟨i.token, .typeahead q.field (.ok hits)⟩ := by
        rw [hfield, ← ha]
        rfl
      refine ⟨i.token, q, ?_, hfits.selection, hfits.field, hfits.start⟩
      rw [hcomplete] at hr ⊢
      exact .answered hlookup hc (by rw [step_desk, hr]; rfl)

/-- Completions that are shown on the stage of the template, once it is there, are the answer to a lookup
for the chosen integration and the current field, and not for blank text. -/
theorem suggestions_looked_up (h : Run session delay past o) (hs : o.desk.draft.stage = .configure)
    (ht : o.desk.draft.template.isSome) (hn : o.desk.suggestions ≠ []) :
    ∃ token q, Showing token q past o ∧
      o.desk.draft.selection = some ⟨q.provider, q.templateId⟩ ∧
      o.desk.currentField.map Field.name = some q.field ∧ Text.isBlank q.start = false := by
  obtain ⟨token, q, hshow, hfits⟩ := h.showing hs ht hn
  exact ⟨token, q, hshow, hfits.selection, hfits.field, hfits.start⟩

end Office

/-! A field whose values are completed, with the answer to its first lookup on show. -/

namespace Sample

open Office

def lookupBackend : Backend :=
  { backend with
    definition := fun _ => .ok ⟨"s3", "aws", none, [⟨"bucket", none, none, true, true⟩]⟩
    typeahead := fun _ => .ok [⟨"logs", "logs"⟩] }

/-- A character is entered in the field, and the pause after it has passed. -/
def asking : Office :=
  (press (loading.step (answer lookupBackend loading)) (.char 'l')).step (.tick clock)

def offered : Office := asking.step (answer lookupBackend asking)

theorem reached_offered : Reached offered := by
  have hchoosing : Reached choosing := Reached.answer ⟨[], .start⟩ backend
  obtain ⟨past, h⟩ := ((hchoosing.press .enter).answer lookupBackend).press (.char 'l')
  exact Reached.answer ⟨_, h.step (.tick clock) trivial⟩ lookupBackend

end Sample

namespace Office

theorem suggestions_looked_up_sample : ∃ past, Run .empty 0 past Sample.offered ∧
    Sample.offered.desk.draft.stage = .configure ∧ Sample.offered.desk.draft.template.isSome ∧
    Sample.offered.desk.suggestions = [⟨"logs", "logs"⟩] ∧
    ∃ token q, Showing token q past Sample.offered ∧ q.provider = "aws" ∧ q.templateId = "s3" ∧
      q.field = "bucket" := by
  obtain ⟨past, h⟩ := Sample.reached_offered
  have hsuggestions : Sample.offered.desk.suggestions = [⟨"logs", "logs"⟩] := rfl
  obtain ⟨token, q, hshow, hselection, hfield, -⟩ :=
    suggestions_looked_up h rfl rfl (by simp [hsuggestions])
  have hchosen : some (⟨"aws", "s3"⟩ : Integration) = some ⟨q.provider, q.templateId⟩ := hselection
  have hcurrent : some "bucket" = some q.field := hfield
  simp only [Option.some.injEq, Integration.mk.injEq] at hchosen hcurrent
  exact ⟨past, h, rfl, rfl, hsuggestions, token, q, hshow, hchosen.1.symm, hchosen.2.symm, hcurrent.symm⟩

end Office

end ChangeDesk
