import ChangeDesk.Proofs.Desk.Onward
import ChangeDesk.Proofs.Draft.Fingerprint

/-!
What typing into the fields of a template does. The fields are named by the backend, and the form holds them
beside the provider, the resource type and the justification. In a field of another name, typing touches this
field only, and the text goes into every later request; a field that has one of these three names is not kept
apart from the wizard's own entry.
-/
namespace ChangeDesk

structure Key.Plain (k : Key) : Prop where
  escape : k.code ≠ .escape
  enter : k.code ≠ .enter
  stage : Desk.stageOfKey? k.code = none
  interrupt : k ≠ ⟨.char 'c', true⟩

def Job.request? : Job → Option ChangeRequest
  | .preview _ request => some request
  | .submit request => some request
  | _ => none

namespace Desk

variable {d d' : Desk} {r : Reaction} {ev : Event} {k : Key} {clock : Clock}

/-- The text that a key leaves in a field, if it enters one. -/
def input? (k : Key) (f : Field) (d : Desk) : Option String :=
  match k.code with
  | .char c => if k.ctrl then none else some ((d.draft.text f.name).push c)
  | .backspace => some (dropLast (d.draft.text f.name))
  | .tab => (d.suggestions[d.suggestionSelected]?).map Suggestion.value
  | _ => none

def typed? (d : Desk) : Event → Option (Field × String)
  | .key k _ =>
    if d.draft.stage = .configure ∧ d.helpOpen = false then
      d.currentField.bind fun f => (d.input? k f).map fun text => (f, text)
    else none
  | _ => none

theorem typed?_of_stage_ne (hs : d.draft.stage ≠ .configure) : d.typed? ev = none := by
  cases ev with
  | key k clock => simp [typed?, hs]
  | tick | completion => rfl

theorem currentField_of_typed? {f : Field} {text : String} (h : d.typed? ev = some (f, text)) :
    d.currentField = some f := by
  cases ev with
  | tick | completion => cases h
  | key k clock =>
    rw [typed?, Option.ite_none_right_eq_some] at h
    obtain ⟨f', hf, hinput⟩ := Option.bind_eq_some_iff.1 h.2
    simp only [Option.map_eq_some_iff, Prod.mk.injEq] at hinput
    obtain ⟨_, -, rfl, -⟩ := hinput
    exact hf

/-- No editor is open on the configuration. -/
def Shut (d : Desk) : Prop := d.draft.stage = .configure → d.editor = none

namespace Shut

theorem of_closed (he : d.editor = none) : d.Shut := fun _ => he

theorem of_stage {s : Stage} (hs : d.draft.stage = s) (hne : s ≠ .configure) : d.Shut :=
  fun h => absurd (hs.symm.trans h) hne

theorem of_eq (h : d.Shut) (hs : d'.draft.stage = d.draft.stage) (he : d'.editor = d.editor) : d'.Shut :=
  fun hstage => he.trans (h (hs ▸ hstage))

theorem of_arrival {a : Answer} {kind : RequestKind} (h : d.Shut)
    (ha : Arrival { d with inflight := d.inflight.cancel kind } a r) : r.1.Shut := by
  cases ha with
  | offer | noOffer | template | otherTemplate | suggestions | otherField => exact h.of_eq rfl rfl
  | files => exact .of_closed rfl
  | otherFiles | again | refused | failure | expired | expiredSubmit => exact h.of_eq rfl rfl
  | receipt => exact .of_stage rfl nofun

end Shut

theorem shut_effect (h : d.Shut) (he : Effect d ev r) : r.1.Shut := by
  cases he with
  | glance hg => exact h.of_eq (by rw [quiet_fst, hg.draft]) hg.editor
  | leave | reload | field | acceptNone | preview => exact h.of_eq rfl rfl
  | pause | lookup | silence | stale => exact h.of_eq rfl rfl
  | enter hd hm hr => exact .of_closed hr.editor
  | refuse hd =>
    cases hd with
    | none => exact h.of_eq rfl rfl
    | card s hs hc => exact h.of_eq (Draft.choose_stage d.draft s) rfl
  | edit | accept | justify => exact h.of_eq (Draft.setField_stage _) rfl
  | openFile _ hs => exact .of_stage hs nofun
  | act a ho => exact fun hs => absurd ((h hs).symm.trans ho) nofun
  | confirm ho hw =>
    rw [confirmEdit_eq hw]
    exact fun hs => absurd ((h hs).symm.trans ho) nofun
  | close => exact .of_closed rfl
  | submit hb ho =>
    obtain ⟨session, he⟩ := submit_of_beginSubmit hb
    rw [he]
    exact .of_closed ho
  | deliver hc ha => exact h.of_arrival ha

theorem draft_editField (edit : String → String) (clock : Clock) : (d.editField edit clock).draft =
    d.currentField.elim d.draft fun f => d.draft.setText f.name (edit (d.draft.text f.name)) := by
  unfold editField
  cases d.currentField with
  | none => rfl
  | some f =>
    simp only [Option.elim_some]
    split <;> rfl

theorem draft_moveField (forward : Bool) : (d.moveField forward).draft = d.draft := by
  simp only [moveField]
  split <;> rfl

/-- Characters typed with Ctrl move about in the completions. -/
theorem draft_configureChar_ctrl (c : Char) (clock : Clock) : (d.configureChar c true clock).draft = d.draft := by
  simp only [configureChar, ↓reduceIte]
  split
  · split <;> rfl
  · split <;> rfl

theorem draft_accept : (quiet (d.acceptSuggestion?.getD (d.moveField true))).1.draft =
    (d.currentField.bind fun f => (d.input? ⟨.tab, ctrl⟩ f).map fun text => (f, text)).elim d.draft
      fun p => d.draft.setText p.1.name p.2 := by
  simp only [quiet_fst, acceptSuggestion?, input?]
  cases d.suggestions[d.suggestionSelected]? with
  | none =>
    cases d.currentField <;> exact draft_moveField true
  | some hit => cases d.currentField <;> rfl

/-- What a key of the configuration that does not move on or back makes of the draft. -/
theorem draft_configureKey (hk : k.Plain) : (d.configureKey k clock).1.draft =
    (d.currentField.bind fun f => (d.input? k f).map fun text => (f, text)).elim d.draft
      fun p => d.draft.setText p.1.name p.2 := by
  obtain ⟨code, ctrl⟩ := k
  cases code with
  | escape => exact absurd rfl hk.escape
  | enter => exact absurd rfl hk.enter
  | char c =>
    cases ctrl with
    | true =>
      refine (draft_configureChar_ctrl c clock).trans ?_
      cases d.currentField <;> rfl
    | false =>
      refine (draft_editField (fun s => s.push c) clock).trans ?_
      cases d.currentField <;> rfl
  | backspace =>
    refine (draft_editField dropLast clock).trans ?_
    cases d.currentField <;> rfl
  | tab => exact draft_accept
  | up | backTab | down =>
    refine (draft_moveField _).trans ?_
    cases d.currentField <;> rfl
  | delete | insert | left | right | home | stop | pageUp | pageDown | function =>
    cases d.currentField <;> rfl

/-- What a key that stays on the configuration makes of the draft. -/
theorem draft_react_plain (hs : d.draft.stage = .configure) (he : d.editor = none) (hk : k.Plain) :
    (d.react (.key k clock)).1.draft =
      (d.typed? (.key k clock)).elim d.draft fun p => d.draft.setText p.1.name p.2 := by
  rw [react, press, if_neg hk.interrupt, typed?]
  cases hh : d.helpOpen with
  | true => simp
  | false =>
    have hnotice : ¬ (d.notice.isSome = true ∧ k.code = .escape) := fun h => hk.escape h.2
    simp only [Bool.false_eq_true, ↓reduceIte, hnotice, hk.stage, he, stageKey, hs, and_self]
    exact draft_configureKey hk

/-- The other keys type nothing. -/
theorem typed?_of_not_plain (hk : ¬ k.Plain) : d.typed? (.key k clock) = none := by
  have hinput (f : Field) : d.input? k f = none := by
    obtain ⟨code, ctrl⟩ := k
    cases code with
    | char c =>
      cases ctrl with
      | true => rfl
      | false => exact absurd ⟨nofun, nofun, rfl, by simp⟩ hk
    | backspace | tab => exact absurd ⟨nofun, nofun, rfl, nofun⟩ hk
    | escape | enter | up | backTab | down => rfl
    | delete | insert | left | right | home | stop | pageUp | pageDown | function => rfl
  simp [typed?, hinput]

/-- The other keys of the configuration leave the form alone. -/
theorem form_react_not_plain (hs : d.draft.stage = .configure) (he : d.editor = none) (hk : ¬ k.Plain) :
    (d.react (.key k clock)).1.draft.form = d.draft.form := by
  change (d.press k clock).1.draft.form = d.draft.form
  unfold press
  split
  · rfl
  · rename_i hinterrupt
    split
    · rfl
    · split
      · rfl
      · split
        · exact form_moved fun _ h => .goTo h
        · rename_i hopen
          simp [he] at hopen
        · rename_i hstage _
          by_cases hescape : k.code = .escape
          · simp only [stageKey, hs, configureKey, hescape]
            exact form_moved fun draft h => Except.ok.inj h ▸ .back
          · by_cases henter : k.code = .enter
            · simp only [stageKey, hs, configureKey, henter]
              exact form_advance d
            · exact absurd ⟨hescape, henter, hstage, hinterrupt⟩ hk

/-- Nothing of the draft changes but the entry of the current field, and none of the wizard's own entries. -/
structure Confined (d d' : Desk) : Prop where
  draft : d'.draft = { d.draft with form := d'.draft.form }
  others : ∀ name, (∀ f, d.currentField = some f → f.name ≠ name) →
    d'.draft.form.get? name = d.draft.form.get? name
  own : ∀ name, isConfigured name = false → d'.draft.form.get? name = d.draft.form.get? name

theorem Confined.of_draft (h : d'.draft = d.draft) : d.Confined d' := by
  refine ⟨?_, fun _ _ => ?_, fun _ _ => ?_⟩ <;> rw [h]

/-- A text is confined to its field unless it changes one of the wizard's own entries. -/
theorem confined_setText_iff {f : Field} {text : String} (hf : d.currentField = some f)
    (hd : d'.draft = d.draft.setText f.name text) :
    d.Confined d' ↔ isConfigured f.name = true ∨ d.draft.form.get? f.name = some (.string text) := by
  constructor
  · intro h
    cases hn : isConfigured f.name with
    | true => exact .inl rfl
    | false =>
      have hown := h.own f.name hn
      rw [hd, Draft.setText, Draft.get?_setField_self] at hown
      exact .inr hown.symm
  · intro h
    have hsame : isChoiceField f.name = true → d.draft.form.get? f.name = some (.string text) := by
      intro hc
      refine h.resolve_left fun hn => ?_
      simp [Draft.isChoiceField_of_isConfigured hn] at hc
    rcases Draft.setText_cases d.draft f.name text with ⟨hc, hne, -⟩ | ⟨-, he⟩
    · exact absurd (hsame hc) hne
    · rw [he] at hd
      refine ⟨by rw [hd], fun name hother => ?_, fun name hn => ?_⟩
      · rw [hd, SortedMap.get?_insert, if_neg (Ne.symm (hother f hf))]
      · rw [hd, SortedMap.get?_insert]
        split
        · rename_i heq
          subst heq
          exact (h.resolve_left (by simp [hn])).symm
        · rfl

/-- What an event does to the values of the configuration: a text is typed into one of them, or they follow the
choice. -/
inductive Inputs (d : Desk) (ev : Event) (d' : Desk) : Prop where
  | typed {f : Field} {text : String} (ht : d.typed? ev = some (f, text))
      (hn : isConfigured f.name = true) (hd : d'.draft = d.draft.setText f.name text)
  | carried (ht : ∀ f text, d.typed? ev = some (f, text) → isConfigured f.name = false)
      (h : d.draft.Carries d'.draft)

theorem Accepts.draft (h : d.Accepts ev) : (d.react ev).1.draft = .new := by
  cases h with
  | receipt hc ha =>
    simp [react, deliver, Inflight.settle, hc, ha, takeAnswer, takeReceipt, quit, Draft.submitSucceeded]

namespace Inputs

theorem of_untyped (ht : d.typed? ev = none) (h : d.draft.Carries d'.draft) : Inputs d ev d' :=
  .carried (by simp [ht]) h

theorem of_form (ht : d.typed? ev = none) (h : d'.draft.form = d.draft.form) : Inputs d ev d' :=
  .of_untyped ht (.of_form h)

theorem carries_of_picked (h : Picked d d') : d.draft.Carries d'.draft := by
  cases h with
  | none => exact .of_form rfl
  | card s hs hc => exact d.draft.carries_choose s

theorem of_arrival {c : Completion} {kind : RequestKind} (hc : d.inflight.isCurrent c.token = true)
    (ha : ¬ d.Accepts (.completion c))
    (h : Arrival { d with inflight := d.inflight.cancel kind } c.answer r) :
    Inputs d (.completion c) r.1 := by
  obtain ⟨token, answer⟩ := c
  cases h with
  | offer | noOffer | template | otherTemplate | suggestions | otherField => exact .of_form rfl rfl
  | files | otherFiles | again | refused | failure | expired | expiredSubmit => exact .of_form rfl rfl
  | receipt => exact absurd (.receipt hc rfl) ha

/-- Away from the configuration nothing is typed into a template. -/
theorem of_effect (ht : d.typed? ev = none) (ha : ¬ d.Accepts ev)
    (hs : ∀ k clock, ev = .key k clock → d.draft.stage ≠ .configure) (h : Effect d ev r) :
    Inputs d ev r.1 := by
  cases h with
  | glance hg => exact .of_form ht (by rw [quiet_fst, hg.draft])
  | leave | reload | openFile | act | close | preview => exact .of_form ht rfl
  | pause | lookup | silence | stale => exact .of_form ht rfl
  | enter hd hm hr =>
    have hform := (congrArg Draft.form hr.draft).trans hm.form
    exact .of_untyped ht ((carries_of_picked hd).congr hform)
  | refuse hd =>
    have hcarries := carries_of_picked hd
    exact .of_untyped ht hcarries
  | edit _ _ hs' | field _ hs' | accept hs' | acceptNone hs' => exact absurd hs' (hs _ _ rfl)
  | confirm he hw =>
    rw [confirmEdit_eq hw]
    exact .of_form ht rfl
  | submit hb =>
    obtain ⟨-, session, he⟩ := submit_of_begun hb
    rw [he]
    exact .of_form ht rfl
  | justify text => exact .of_untyped ht (Draft.carries_setText (by decide) text)
  | deliver hc hd => exact of_arrival hc ha hd

theorem of_react (h : d.Shut) (ha : ¬ d.Accepts ev) : Inputs d ev (d.react ev).1 := by
  have heffect := effect_react d ev
  cases ev with
  | tick | completion => exact .of_effect rfl ha nofun heffect
  | key k clock =>
    by_cases hs : d.draft.stage = .configure
    · by_cases hk : k.Plain
      · have hdraft : (d.react (.key k clock)).1.draft =
            (d.typed? (.key k clock)).elim d.draft fun p => d.draft.setText p.1.name p.2 :=
          draft_react_plain hs (h hs) hk
        cases ht : d.typed? (.key k clock) with
        | none => exact .of_form ht (by rw [hdraft, ht, Option.elim_none])
        | some p =>
          obtain ⟨f, text⟩ := p
          rw [ht, Option.elim_some] at hdraft
          cases hn : isConfigured f.name with
          | true => exact .typed ht hn hdraft
          | false =>
            refine .carried (fun f' text' h' => ?_) (hdraft ▸ Draft.carries_setText hn text)
            cases ht.symm.trans h'
            exact hn
      · exact .of_form (typed?_of_not_plain hk) (form_react_not_plain hs (h hs) hk)
    · exact .of_effect (typed?_of_stage_ne hs) ha (fun _ _ _ => hs) heffect

end Inputs

end Desk

namespace Office

variable {session : Session} {delay : Nat} {past : Past} {o : Office} {name : String}

/-- The text that was typed last into a field of a template with this name. Since then neither has the choice
changed nor has the request been accepted. -/
inductive Typed (name text : String) : Past → Prop where
  | typed {past : Past} {o : Office} {ev : Event} {f : Field}
      (ht : o.desk.typed? ev = some (f, text)) (hn : f.name = name) : Typed name text ((o, ev) :: past)
  | later {past : Past} {o : Office} {ev : Event} (h : Typed name text past)
      (ht : ∀ f s, o.desk.typed? ev = some (f, s) → f.name ≠ name)
      (hc : (o.step ev).desk.draft.choice = o.desk.draft.choice) (ha : ¬ o.desk.Accepts ev) :
      Typed name text ((o, ev) :: past)

theorem typed_cons_of_eq {ev : Event} {f : Field} {text text' : String}
    (ht : o.desk.typed? ev = some (f, text)) :
    Typed f.name text' ((o, ev) :: past) ↔ text' = text := by
  constructor
  · intro h
    cases h with
    | typed ht' =>
      cases ht.symm.trans ht'
      rfl
    | later _ hother => exact absurd rfl (hother f text ht)
  · rintro rfl
    exact .typed ht rfl

theorem typed_cons_of_ne {ev : Event} {text : String}
    (ht : ∀ f s, o.desk.typed? ev = some (f, s) → f.name ≠ name) :
    Typed name text ((o, ev) :: past) ↔ Typed name text past ∧
      (o.step ev).desk.draft.choice = o.desk.draft.choice ∧ ¬ o.desk.Accepts ev := by
  constructor
  · intro h
    cases h with
    | typed ht' hn => exact absurd hn (ht _ _ ht')
    | later h _ hc ha => exact ⟨h, hc, ha⟩
  · rintro ⟨h, hc, ha⟩
    exact .later h ht hc ha

theorem Run.shut (h : Run session delay past o) : o.desk.Shut :=
  h.invariant (P := fun o => o.desk.Shut) (.of_stage rfl nofun)
    fun o ev hshut _ => Desk.shut_effect hshut (Desk.effect_react o.desk ev)

/-- A value of the configuration is the text that was typed last into a field of its name. -/
theorem Run.get?_configured_iff (h : Run session delay past o) (hn : isConfigured name = true) {v : Json} :
    o.desk.draft.configured.get? name = some v ↔ ∃ text, v = .string text ∧ Typed name text past := by
  induction h with
  | start => exact ⟨nofun, fun ⟨_, _, htyped⟩ => nomatch htyped⟩
  | @step past o h ev he ih =>
    -- Where the values go, with the choice or with the draft, nothing counts as typed any more.
    have hnone (hempty : (o.step ev).desk.draft.configured = .empty)
        (hnot : ∀ text, ¬ Typed name text ((o, ev) :: past)) :
        (o.step ev).desk.draft.configured.get? name = some v ↔
          ∃ text, v = .string text ∧ Typed name text ((o, ev) :: past) := by
      rw [hempty]
      exact iff_of_false nofun fun ⟨text, _, htyped⟩ => hnot text htyped
    by_cases ha : o.desk.Accepts ev
    · refine hnone (by rw [step_desk, ha.draft]; rfl) fun text htyped => ?_
      have huntyped : ∀ f s, o.desk.typed? ev = some (f, s) → f.name ≠ name := by
        cases ha
        exact nofun
      exact ((typed_cons_of_ne huntyped).1 htyped).2.2 ha
    · have hkept (hother : ∀ f s, o.desk.typed? ev = some (f, s) → f.name ≠ name)
          (hchoice : (o.step ev).desk.draft.choice = o.desk.draft.choice) (text : String) :
          Typed name text ((o, ev) :: past) ↔ Typed name text past :=
        (typed_cons_of_ne hother).trans (and_iff_left ⟨hchoice, ha⟩)
      cases Desk.Inputs.of_react h.shut ha with
      | @typed f text ht hconfigured hd =>
        rw [step_desk, hd, Draft.get?_configured_setText hconfigured]
        by_cases hname : name = f.name
        · subst hname
          simp [typed_cons_of_eq ht, eq_comm]
        · have hother : ∀ f' s, o.desk.typed? ev = some (f', s) → f'.name ≠ name := by
            intro f' s h'
            cases ht.symm.trans h'
            exact Ne.symm hname
          have hchoice : (o.step ev).desk.draft.choice = o.desk.draft.choice := by
            rw [step_desk, hd]
            exact (Draft.keeps_setText (Draft.isChoiceField_of_isConfigured hconfigured) text).choice
          simp only [if_neg hname, ih, hkept hother hchoice]
      | carried ht hcarries =>
        have hother : ∀ f s, o.desk.typed? ev = some (f, s) → f.name ≠ name := by
          rintro f s h' rfl
          simp [ht f s h'] at hn
        rw [← step_desk] at hcarries
        cases hcarries with
        | stays hc hv =>
          simp only [hv, ih, hkept hother hc]
        | turns hc hv =>
          exact hnone hv fun text htyped => hc ((typed_cons_of_ne hother).1 htyped).2.1

/-- A job that sends a request sends the values of the configuration as they are. -/
theorem Run.fields_of_issued {ev : Event} {i : Issued} {request : ChangeRequest}
    (hi : (o.desk.react ev).2 = some i) (hr : i.job.request? = some request) :
    request.fields = (o.step ev).desk.draft.configured := by
  have hsuits := Desk.suited_effect (Desk.effect_react o.desk ev) i hi
  obtain ⟨token, job⟩ := i
  cases job with
  | preview fingerprint request' =>
    obtain ⟨-, rfl⟩ := hsuits
    obtain rfl := Option.some.inj hr
    rfl
  | submit request' =>
    obtain ⟨-, -, -, rfl⟩ := hsuits
    obtain rfl := Option.some.inj hr
    rfl
  | providers | definition | typeahead => cases hr

/-- A key that stays on the configuration changes nothing of the draft but the entry of the current field, and
none of the wizard's own entries, exactly if it types into a field that is not named like one of these, or types
what is there already. The values that a request is sent with are the texts that were typed last into the fields
of a template, except those that are named so. -/
theorem typing_confined_iff (h : Run session delay past o) :
    (∀ k clock, k.Plain → o.desk.draft.stage = .configure →
      (o.desk.Confined (o.step (.key k clock)).desk ↔
        ∀ f text, o.desk.typed? (.key k clock) = some (f, text) →
          isConfigured f.name = true ∨ o.desk.draft.form.get? f.name = some (.string text))) ∧
    ∀ ev i request, o.Allows ev → (o.desk.react ev).2 = some i → i.job.request? = some request →
      ∀ name v, request.fields.get? name = some v ↔
        isConfigured name = true ∧ ∃ text, v = .string text ∧ Typed name text ((o, ev) :: past) := by
  constructor
  · intro k clock hk hs
    have hdraft : (o.step (.key k clock)).desk.draft =
        (o.desk.typed? (.key k clock)).elim o.desk.draft fun p => o.desk.draft.setText p.1.name p.2 := by
      rw [step_desk]
      exact Desk.draft_react_plain hs (h.shut hs) hk
    cases ht : o.desk.typed? (.key k clock) with
    | none =>
      rw [ht, Option.elim_none] at hdraft
      exact iff_of_true (.of_draft hdraft) nofun
    | some p =>
      obtain ⟨f, text⟩ := p
      rw [ht, Option.elim_some] at hdraft
      rw [Desk.confined_setText_iff (Desk.currentField_of_typed? ht) hdraft]
      simp
  · intro ev i request he hi hr name v
    rw [Run.fields_of_issued hi hr]
    cases hn : isConfigured name with
    | false => simp [Draft.get?_configured, hn]
    | true => simp [← (h.step ev he).get?_configured_iff hn]

end Office

/-! A template with a field that is named like the provider, and one with an ordinary field. -/

namespace Sample

open Office

/-- A backend whose template asks for a provider as well. -/
def doubleBackend : Backend := { backend with
  definition := fun _ => .ok ⟨"s3", "aws", none,
    [⟨"bucket", none, none, true, false⟩, ⟨"provider", none, none, false, false⟩]⟩ }

def doubled : Office :=
  press (press (loading.step (answer doubleBackend loading)) (.char 'x')) .down

theorem reached_doubled : Reached doubled :=
  (((((Reached.answer ⟨[], .start⟩ backend).press .enter).answer doubleBackend).press (.char 'x')).press
    .down)

def filled : Office := press (loading.step (answer backend loading)) (.char 'x')

theorem reached_filled : Reached filled :=
  (((Reached.answer ⟨[], .start⟩ backend).press .enter).answer backend).press (.char 'x')

theorem plain_char (c : Char) : Key.Plain ⟨.char c, false⟩ := ⟨nofun, nofun, rfl, nofun⟩

end Sample

namespace Office

theorem typing_confined_iff_sample : ∃ past, Run .empty 0 past Sample.filled ∧
    Sample.filled.desk.Confined (Sample.press Sample.filled (.char 'y')).desk ∧
    Typed "bucket" "x" ((Sample.filled, .key ⟨.enter, false⟩ Sample.clock) :: past) := by
  obtain ⟨past, h⟩ := Sample.reached_filled
  obtain ⟨hconfined, hsent⟩ := typing_confined_iff h
  refine ⟨past, h, (hconfined _ Sample.clock (Sample.plain_char 'y') rfl).2 fun f text ht => ?_, ?_⟩
  · cases ht
    exact .inl rfl
  · obtain ⟨-, text, htext, htyped⟩ :=
      (hsent (.key ⟨.enter, false⟩ Sample.clock) _ _ trivial rfl rfl "bucket" (.string "x")).1 rfl
    cases htext
    exact htyped

/-- Typing into the second field changes the provider, and takes the template and the first field away. -/
theorem typing_not_confined : ∃ past, Run .empty 0 past Sample.doubled ∧
    Sample.doubled.desk.draft.stage = .configure ∧ Key.Plain ⟨.char 'x', false⟩ ∧
    Sample.doubled.desk.currentField.map Field.name = some "provider" ∧
    Sample.doubled.desk.draft.form.get? "bucket" = some (.string "x") ∧
    (Sample.press Sample.doubled (.char 'x')).desk.draft.form.get? "bucket" = none ∧
    Sample.doubled.desk.draft.template.isSome = true ∧
    (Sample.press Sample.doubled (.char 'x')).desk.draft.template = none := by
  obtain ⟨past, h⟩ := Sample.reached_doubled
  exact ⟨past, h, rfl, Sample.plain_char 'x', rfl, rfl, rfl, rfl, rfl⟩

end Office

end ChangeDesk
