import ChangeDesk.Proofs.Desk.Lookups
import ChangeDesk.Proofs.Desk.Previewing

/-!
The order in which answers of different kinds come in makes no difference. Each kind writes to parts of the
desk that no other kind writes to, and what it writes is read off parts that the others leave alone. The
exception is a template, which gives its field to the completions; but a template and completions are never
waited for at once.
-/
namespace ChangeDesk

inductive Change where
  | nothing
  | picker (p : Picker)
  | template (t : Option Template)
  | suggestions (hits : List Suggestion)
  | files (fingerprint : String) (fs : List ChangedFile)
  | refusal (e : ApiError)
  | notice (e : ApiError)

namespace Change

def apply (d : Desk) : Change → Desk
  | nothing => d
  | picker p => { d with picker := p }
  | template t => { d with draft := { d.draft with template := t }, fieldCursor := 0 }
  | suggestions hits => { d with suggestions := hits, suggestionSelected := 0 }
  | files fingerprint fs =>
    { d with
      draft := { d.draft with files := fs, previewed := some fingerprint }
      editor := none, selectedFile := 0, scroll := 0 }
  | refusal e => { d with draft := d.draft.submitFailed, notice := some (.failure e) }
  | notice e => { d with notice := some (.failure e) }

/-- The kind of the answers that alone write to the same part. -/
def owner? : Change → Option RequestKind
  | nothing | notice _ => none
  | picker _ => some .providers
  | template _ => some .definition
  | suggestions _ => some .typeahead
  | files _ _ => some .preview
  | refusal _ => some .submit

/-- Whether an error is shown as a notice. -/
def tells : Change → Bool
  | refusal _ | notice _ => true
  | _ => false

/-- Changes of different parts can be made in either order, if not both show an error. -/
theorem apply_comm {ch ch' : Change} (d : Desk) (ho : ∀ k, ch.owner? = some k → ch'.owner? ≠ some k)
    (ht : ch.tells = false ∨ ch'.tells = false) :
    apply (apply d ch) ch' = apply (apply d ch') ch := by
  cases ch with
  | nothing => rfl
  | picker =>
    cases ch' with
    | picker => exact absurd rfl (ho _ rfl)
    | nothing | template | suggestions | files | refusal | notice => rfl
  | template =>
    cases ch' with
    | template => exact absurd rfl (ho _ rfl)
    | nothing | picker | suggestions | files | refusal | notice => rfl
  | suggestions =>
    cases ch' with
    | suggestions => exact absurd rfl (ho _ rfl)
    | nothing | picker | template | files | refusal | notice => rfl
  | files =>
    cases ch' with
    | files => exact absurd rfl (ho _ rfl)
    | nothing | picker | template | suggestions | refusal | notice => rfl
  | refusal | notice =>
    cases ch' with
    | refusal | notice => rcases ht with ht | ht <;> cases ht
    | nothing | picker | template | suggestions | files => rfl

theorem apply_inflight (d : Desk) (t : Inflight) (ch : Change) :
    apply { d with inflight := t } ch = { apply d ch with inflight := t } := by
  cases ch <;> rfl

theorem inflight_apply (d : Desk) (ch : Change) : (apply d ch).inflight = d.inflight := by
  cases ch <;> rfl

theorem form_apply (d : Desk) (ch : Change) : (apply d ch).draft.form = d.draft.form := by
  cases ch <;> rfl

theorem picker_apply (d : Desk) {ch : Change} (h : ch.owner? ≠ some .providers) :
    (apply d ch).picker = d.picker := by
  cases ch with
  | picker => exact absurd rfl h
  | nothing | template | suggestions | files | refusal | notice => rfl

theorem template_apply (d : Desk) {ch : Change} (h : ch.owner? ≠ some .definition) :
    (apply d ch).draft.template = d.draft.template ∧ (apply d ch).fieldCursor = d.fieldCursor := by
  cases ch with
  | template => exact absurd rfl h
  | nothing | picker | suggestions | files | refusal | notice => exact ⟨rfl, rfl⟩

end Change

/-- An answer neither tells that the session has expired nor accepts a request. -/
structure Answer.Mild (a : Answer) : Prop where
  session : a.error? ≠ some .sessionExpired
  receipt : ∀ receipt, a ≠ .submit (.ok receipt)

theorem Answer.Mild.of_ok {a : Answer} (h : a.error? = none) (hk : a.kind ≠ .submit) : a.Mild where
  session := by simp [h]
  receipt receipt ha := by simp [ha, Answer.kind] at hk

namespace Desk

variable {d d' : Desk} {r : Reaction} {ev : Event} {a : Answer} {c : Completion}

def change (d : Desk) : Answer → Change
  | .providers (.ok l) => .picker ((d.picker.load l).syncWith d.draft)
  | .providers (.error e) => .picker (d.picker.fail e.message)
  | .definition (.ok t) => .template (if d.draft.accepts t then some t else d.draft.template)
  | .typeahead field (.ok hits) =>
    if d.currentField.any (fun f => f.name == field) then .suggestions hits else .nothing
  | .preview fingerprint (.ok fs) =>
    if fingerprint = d.draft.fingerprint then .files fingerprint fs else .nothing
  | .submit (.ok _) => .nothing
  | .submit (.error e) => .refusal e
  | .definition (.error e) | .typeahead _ (.error e) | .preview _ (.error e) => .notice e

theorem change_inflight (d : Desk) (t : Inflight) (a : Answer) :
    change { d with inflight := t } a = d.change a := by
  rcases a with ⟨_ | _⟩ | ⟨_ | _⟩ | ⟨_, _ | _⟩ | ⟨_, _ | _⟩ | ⟨_ | _⟩ <;> rfl

theorem report_of_ne {e : ApiError} (h : e ≠ .sessionExpired) :
    d.report e = { d with notice := some (.failure e) } := if_neg h

/-- A mild answer writes what it changes, and does nothing else unless a preview is asked for again. -/
theorem takeAnswer_eq (hm : a.Mild) (hi : (d.takeAnswer a).2 = none) :
    d.takeAnswer a = quiet ((d.change a).apply d) := by
  have hne {e : ApiError} (ha : a.error? = some e) : e ≠ .sessionExpired := by
    rintro rfl
    exact hm.session ha
  cases a with
  | providers outcome =>
    cases outcome with
    | ok l => rfl
    | error e => exact congrArg quiet (if_neg (hne rfl))
  | definition outcome =>
    cases outcome with
    | ok t =>
      simp only [takeAnswer, takeTemplate, Draft.setTemplate, change]
      split <;> rfl
    | error e => exact congrArg quiet (report_of_ne (hne rfl))
  | typeahead field outcome =>
    cases outcome with
    | ok hits =>
      simp only [takeAnswer, takeSuggestions, change]
      split <;> rfl
    | error e => exact congrArg quiet (report_of_ne (hne rfl))
  | preview fingerprint outcome =>
    cases outcome with
    | ok fs =>
      by_cases hf : fingerprint = d.draft.fingerprint
      · simp [takeAnswer, takePreview, Draft.applyPreview, change, hf, Change.apply]
      · simp only [takeAnswer, takePreview, Draft.applyPreview, change, hf, ↓reduceIte] at hi ⊢
        split
        · rename_i hagain
          rw [if_pos hagain] at hi
          cases hi
        · rfl
    | error e => exact congrArg quiet (report_of_ne (hne rfl))
  | submit outcome =>
    cases outcome with
    | ok receipt => exact absurd rfl (hm.receipt receipt)
    | error e => exact congrArg quiet (report_of_ne (hne rfl))

theorem kind_of_owner? {k : RequestKind} (h : (d.change a).owner? = some k) : a.kind = k := by
  cases a with
  | providers outcome => cases outcome <;> exact Option.some.inj h
  | definition outcome =>
    cases outcome with
    | ok t => exact Option.some.inj h
    | error e => cases h
  | typeahead field outcome =>
    cases outcome with
    | ok hits =>
      rw [change] at h
      split at h
      · exact Option.some.inj h
      · cases h
    | error e => cases h
  | preview fingerprint outcome =>
    cases outcome with
    | ok fs =>
      rw [change] at h
      split at h
      · exact Option.some.inj h
      · cases h
    | error e => cases h
  | submit outcome =>
    cases outcome with
    | ok receipt => cases h
    | error e => exact Option.some.inj h

/-- Only an error is shown as one. -/
theorem tells_change (h : a.error? = none) : (d.change a).tells = false := by
  cases a with
  | providers outcome => cases outcome <;> rfl
  | definition outcome | submit outcome =>
    cases outcome with
    | ok => rfl
    | error e => cases h
  | typeahead _ outcome | preview _ outcome =>
    cases outcome with
    | ok =>
      rw [change]
      split <;> rfl
    | error e => cases h

/-- What an answer changes is read off the form and the parts of its own kind; completions also depend on
the field of the template. -/
theorem change_congr (hf : d'.draft.form = d.draft.form)
    (hp : a.kind = .providers → d'.picker = d.picker)
    (ht : a.kind = .definition ∨ a.kind = .typeahead →
      d'.draft.template = d.draft.template ∧ d'.fieldCursor = d.fieldCursor) :
    d'.change a = d.change a := by
  have hchoice : d'.draft.choice = d.draft.choice := by rw [Draft.choice, Draft.choice, hf]
  have hselection := Draft.selection_congr hchoice
  cases a with
  | providers outcome =>
    cases outcome with
    | ok l => simp only [change, Picker.syncWith, Picker.load, hselection]
    | error e => rw [change, change, hp rfl]
  | definition outcome =>
    cases outcome with
    | ok t =>
      rw [change, change, Draft.accepts, Draft.accepts, hselection, (ht (.inl rfl)).1]
    | error e => rfl
  | typeahead field outcome =>
    cases outcome with
    | ok hits =>
      obtain ⟨htemplate, hcursor⟩ := ht (.inr rfl)
      have hfield : d'.currentField = d.currentField := by rw [currentField, currentField, htemplate, hcursor]
      rw [change, change, hfield]
    | error e => rfl
  | preview fingerprint outcome =>
    cases outcome with
    | ok fs =>
      have hconfigured : d'.draft.configured = d.draft.configured := by
        rw [Draft.configured, Draft.configured, hf]
      simp only [change, Draft.fingerprint_congr hchoice hconfigured]
    | error e => rfl
  | submit outcome => cases outcome <;> rfl

/-- A change of another part leaves what an answer changes, unless a template gives its field to completions. -/
theorem change_apply {ch : Change} (ho : ch.owner? ≠ some a.kind)
    (ht : a.kind = .typeahead → ch.owner? ≠ some .definition) :
    (ch.apply d).change a = d.change a := by
  refine change_congr (Change.form_apply d ch) (fun hk => ?_) (fun hk => ?_)
  · exact Change.picker_apply d (hk ▸ ho)
  · rcases hk with hk | hk
    · exact Change.template_apply d (hk ▸ ho)
    · exact Change.template_apply d (ht hk)

/-- A mild answer that counts, and after which no preview is asked for again. -/
theorem react_mild (hc : d.inflight.isCurrent c.token = true) (hm : c.answer.Mild)
    (hi : (d.react (.completion c)).2 = none) : (d.react (.completion c)).1 =
      (d.change c.answer).apply { d with inflight := d.inflight.cancel c.token.kind } := by
  have hreact : d.react (.completion c) =
      takeAnswer c.answer { d with inflight := d.inflight.cancel c.token.kind } := by
    simp [react, deliver, Inflight.settle, hc]
  rw [hreact] at hi ⊢
  rw [takeAnswer_eq hm hi, quiet_fst, change_inflight]

/-- The template and completions are not waited for at once. -/
def Alternates (d : Desk) : Prop :=
  d.inflight.latest .definition ≠ none → d.inflight.latest .typeahead = none

namespace Alternates

theorem of_eq (h : d.Alternates)
    (hd : d'.inflight.latest .definition = d.inflight.latest .definition)
    (ht : d'.inflight.latest .typeahead = d.inflight.latest .typeahead) : d'.Alternates := by
  rw [Alternates, hd, ht]
  exact h

theorem of_latest (h : d.inflight.latest .typeahead = none) : d.Alternates := fun _ => h

theorem of_entry (h : d.Alternates) (he : Entry d r) : r.1.Alternates := by
  cases he with
  | choose | review | preview => exact h.of_eq rfl rfl
  | configure | load => exact .of_latest rfl

theorem cancel (h : d.Alternates) (kind : RequestKind) :
    Alternates { d with inflight := d.inflight.cancel kind } := by
  intro hd
  have hbefore : d.inflight.latest .definition ≠ none :=
    fun hnone => hd (Inflight.latest_cancel_eq_none kind hnone)
  exact Inflight.latest_cancel_eq_none kind (h hbefore)

theorem of_arrival (h : d.Alternates) (ha : Arrival d a r) : r.1.Alternates := by
  cases ha with
  | offer | noOffer | template | otherTemplate | suggestions | otherField => exact h.of_eq rfl rfl
  | files | otherFiles | again | refused | failure => exact h.of_eq rfl rfl
  | receipt | expired | expiredSubmit => exact .of_latest rfl

end Alternates

/-- Completions are looked up only for a field of a template, which then is not waited for. -/
theorem alternates_effect (h : d.Alternates)
    (hsettled : d.draft.template.isSome → d.inflight.latest .definition = none) (he : Effect d ev r) :
    r.1.Alternates := by
  cases he with
  | glance hg => exact h.of_eq (by rw [quiet_fst, hg.inflight]) (by rw [quiet_fst, hg.inflight])
  | leave => exact .of_latest rfl
  | @enter _ _ d₁ draft _ hd hm hr =>
    have hmoved : Alternates { d₁ with draft := draft, refusal := none } :=
      h.of_eq (congrArg (·.latest .definition) hd.inflight) (congrArg (·.latest .typeahead) hd.inflight)
    exact hmoved.of_entry hr
  | refuse hd =>
    exact h.of_eq (congrArg (·.latest .definition) hd.inflight)
      (congrArg (·.latest .typeahead) hd.inflight)
  | field | accept | acceptNone | silence => exact .of_latest rfl
  | confirm =>
    exact h.of_eq (by rw [quiet_fst, confirmEdit_inflight]) (by rw [quiet_fst, confirmEdit_inflight])
  | submit hb =>
    obtain ⟨session, hs⟩ := submit_of_beginSubmit hb
    rw [hs]
    exact h.of_eq rfl rfl
  | lookup _ _ _ hf =>
    intro hd
    have hnone := hsettled (isSome_template_of_currentField hf)
    exact absurd hnone hd
  | reload | edit | openFile | act | close | preview | justify | pause | stale => exact h.of_eq rfl rfl
  | deliver hc ha => exact (h.cancel _).of_arrival ha

end Desk

namespace Office

variable {session : Session} {delay : Nat} {past : Past} {o : Office} {c c₁ c₂ : Completion}

theorem Run.alternates (h : Run session delay past o) : o.desk.Alternates := by
  induction h with
  | start => exact .of_latest rfl
  | step h ev he ih => exact Desk.alternates_effect ih h.sound.settled (Desk.effect_react _ ev)

theorem Run.desk_mild (h : Run session delay past o) (he : o.Allows (.completion c))
    (hc : o.desk.inflight.isCurrent c.token = true) (hm : c.answer.Mild) :
    (o.step (.completion c)).desk = (o.desk.change c.answer).apply
      { o.desk with inflight := o.desk.inflight.cancel c.token.kind } :=
  Desk.react_mild hc hm (h.issued_completion he)

theorem desk_stale (hc : o.desk.inflight.isCurrent c.token = false) :
    (o.step (.completion c)).desk = o.desk := by
  rw [step_desk, Desk.react_stale hc, Desk.quiet_fst]

/-- A completion that may come in may still do so after one of another kind. -/
theorem Allows.later (h : o.Allows (.completion c₂)) (hk : c₁.token.kind ≠ c₂.token.kind) :
    (o.step (.completion c₁)).Allows (.completion c₂) := by
  obtain ⟨i, hi, b, rfl⟩ := h
  have hkept : i ∈ remaining o.awaited (.completion c₁) := by
    refine (List.mem_eraseP_of_neg fun he => ?_).2 hi
    rw [beq_iff_eq] at he
    exact hk (congrArg Token.kind he).symm
  exact ⟨i, List.mem_append_right _ hkept, b, rfl⟩

/-- A completion that does not count has no effect after another one either. -/
theorem Run.desk_comm_of_stale (h : Run session delay past o) (he : o.Allows (.completion c₁))
    (hc : o.desk.inflight.isCurrent c₁.token = false) :
    ((o.step (.completion c₁)).step (.completion c₂)).desk =
      ((o.step (.completion c₂)).step (.completion c₁)).desk := by
  have hlater : (o.step (.completion c₂)).desk.inflight.isCurrent c₁.token = false := by
    obtain ⟨i, hi, b, rfl⟩ := he
    exact Desk.stale_of_effect (Desk.effect_react o.desk _) (h.registered.seq_le i hi) hc
  rw [desk_stale hlater, step_desk, desk_stale hc, step_desk]

/-- Two mild answers that count write what each of them would change by itself. -/
theorem Run.desk_both (h : Run session delay past o) (he₁ : o.Allows (.completion c₁))
    (he₂ : o.Allows (.completion c₂)) (hk : c₁.answer.kind ≠ c₂.answer.kind)
    (hc₁ : o.desk.inflight.isCurrent c₁.token = true)
    (hc₂ : o.desk.inflight.isCurrent c₂.token = true) (hm₁ : c₁.answer.Mild)
    (hm₂ : c₂.answer.Mild) : ((o.step (.completion c₁)).step (.completion c₂)).desk =
      (o.desk.change c₂.answer).apply ((o.desk.change c₁.answer).apply { o.desk with
        inflight := (o.desk.inflight.cancel c₁.token.kind).cancel c₂.token.kind }) := by
  have hkind₁ := h.kind_eq he₁ _ rfl
  have hkind₂ := h.kind_eq he₂ _ rfl
  have hkinds : c₁.token.kind ≠ c₂.token.kind := by
    rw [hkind₁, hkind₂]
    exact hk
  have hfirst := h.desk_mild he₁ hc₁ hm₁
  have hcurrent : (o.step (.completion c₁)).desk.inflight.isCurrent c₂.token = true := by
    rw [hfirst, Change.inflight_apply, Inflight.isCurrent_cancel]
    exact ⟨hc₂, hkinds⟩
  have hsecond := (h.step _ he₁).desk_mild (he₂.later hkinds) hcurrent hm₂
  -- A template cannot have given its field to completions, as the two are not waited for at once.
  have hsame : (o.step (.completion c₁)).desk.change c₂.answer = o.desk.change c₂.answer := by
    rw [hfirst]
    refine (Desk.change_apply (fun ho => hk (Desk.kind_of_owner? ho)) fun hk₂ ho => ?_).trans
      (Desk.change_inflight _ _ _)
    have hlatest₁ := Inflight.latest_of_isCurrent hc₁
    have hlatest₂ := Inflight.latest_of_isCurrent hc₂
    rw [hkind₁, Desk.kind_of_owner? ho] at hlatest₁
    rw [hkind₂, hk₂, h.alternates (by simp [hlatest₁])] at hlatest₂
    cases hlatest₂
  rw [hsecond, hsame, hfirst, Change.inflight_apply, ← Change.apply_inflight]

theorem Run.desk_comm (h : Run session delay past o) (he₁ : o.Allows (.completion c₁))
    (he₂ : o.Allows (.completion c₂)) (hk : c₁.answer.kind ≠ c₂.answer.kind) (hm₁ : c₁.answer.Mild)
    (hm₂ : c₂.answer.Mild) (ht : c₁.answer.error? = none ∨ c₂.answer.error? = none) :
    ((o.step (.completion c₁)).step (.completion c₂)).desk =
      ((o.step (.completion c₂)).step (.completion c₁)).desk := by
  cases hc₁ : o.desk.inflight.isCurrent c₁.token with
  | false => exact h.desk_comm_of_stale he₁ hc₁
  | true =>
    cases hc₂ : o.desk.inflight.isCurrent c₂.token with
    | false => exact (h.desk_comm_of_stale he₂ hc₂).symm
    | true =>
      have hleft := h.desk_both he₁ he₂ hk hc₁ hc₂ hm₁ hm₂
      have hright := h.desk_both he₂ he₁ hk.symm hc₂ hc₁ hm₂ hm₁
      rw [hleft, hright, Inflight.cancel_comm]
      refine Change.apply_comm _ (fun k ho ho' => ?_) (ht.imp Desk.tells_change Desk.tells_change)
      exact hk ((Desk.kind_of_owner? ho).trans (Desk.kind_of_owner? ho').symm)

theorem Run.awaited_comm (h : Run session delay past o) (he₁ : o.Allows (.completion c₁))
    (he₂ : o.Allows (.completion c₂)) (hk : c₁.token.kind ≠ c₂.token.kind) :
    ((o.step (.completion c₁)).step (.completion c₂)).awaited =
      ((o.step (.completion c₂)).step (.completion c₁)).awaited := by
  rw [(h.step _ he₁).awaited_completion (he₂.later hk), h.awaited_completion he₁,
    (h.step _ he₂).awaited_completion (he₁.later hk.symm), h.awaited_completion he₂]
  refine List.eraseP_comm fun i _ => ?_
  by_contra hboth
  simp only [beq_iff_eq, not_or, not_not] at hboth
  exact hk (congrArg Token.kind (hboth.1.symm.trans hboth.2))

/-- Completions of two different kinds make the same office in either order, if no session has expired, no
request is accepted and at most one of them is an error. -/
theorem completions_commute (h : Run session delay past o) (he₁ : o.Allows (.completion c₁))
    (he₂ : o.Allows (.completion c₂)) (hk : c₁.answer.kind ≠ c₂.answer.kind) (hm₁ : c₁.answer.Mild)
    (hm₂ : c₂.answer.Mild) (ht : c₁.answer.error? = none ∨ c₂.answer.error? = none) :
    (o.step (.completion c₁)).step (.completion c₂) =
      (o.step (.completion c₂)).step (.completion c₁) := by
  have hkinds : c₁.token.kind ≠ c₂.token.kind := by
    rw [h.kind_eq he₁ _ rfl, h.kind_eq he₂ _ rfl]
    exact hk
  have hdesk := h.desk_comm he₁ he₂ hk hm₁ hm₂ ht
  have hawaited := h.awaited_comm he₁ he₂ hkinds
  exact congrArg₂ Office.mk hdesk hawaited

end Office

/-! The list of integrations is asked for anew, and the template comes in before or after it. -/

namespace Sample

open Office

/-- The list was asked for anew while the template is awaited. -/
def browsing : Office := press (press loading (.function 1)) (.char 'r')

def listing : Completion := backend.complete ⟨⟨.providers, 3, 0⟩, .providers⟩

def described : Completion := backend.complete ⟨⟨.definition, 2, 0⟩, .definition ⟨"aws", "s3"⟩⟩

def furnished : Office := (browsing.step (.completion described)).step (.completion listing)

theorem awaited_browsing : browsing.awaited =
    [⟨⟨.providers, 3, 0⟩, .providers⟩, ⟨⟨.definition, 2, 0⟩, .definition ⟨"aws", "s3"⟩⟩] := rfl

theorem allows_browsing :
    browsing.Allows (.completion listing) ∧ browsing.Allows (.completion described) := by
  constructor
  · exact ⟨_, by rw [awaited_browsing]; exact List.mem_cons_self, backend, rfl⟩
  · exact ⟨_, by rw [awaited_browsing]; exact List.mem_cons_of_mem _ List.mem_cons_self, backend, rfl⟩

end Sample

namespace Office

theorem completions_commute_sample : ∃ past, Run .empty 0 past Sample.browsing ∧
    Sample.browsing.desk.inflight.isCurrent Sample.listing.token = true ∧
    Sample.browsing.desk.inflight.isCurrent Sample.described.token = true ∧
    (Sample.browsing.step (.completion Sample.listing)).step (.completion Sample.described) =
      Sample.furnished ∧
    Sample.furnished.desk.picker.offer = .ready [⟨"aws", "s3"⟩] ∧
    Sample.furnished.desk.draft.template.isSome := by
  have hchoosing : Sample.Reached Sample.choosing := Sample.Reached.answer ⟨[], .start⟩ Sample.backend
  obtain ⟨past, h⟩ := ((hchoosing.press .enter).press (.function 1)).press (.char 'r')
  obtain ⟨hlisted, hdescribed⟩ := Sample.allows_browsing
  have hmild₁ : Sample.listing.answer.Mild := .of_ok rfl (by decide)
  have hmild₂ : Sample.described.answer.Mild := .of_ok rfl (by decide)
  have hcommute := completions_commute h hlisted hdescribed (by decide) hmild₁ hmild₂ (.inl rfl)
  exact ⟨past, h, rfl, rfl, hcommute, rfl, rfl⟩

end Office

end ChangeDesk
