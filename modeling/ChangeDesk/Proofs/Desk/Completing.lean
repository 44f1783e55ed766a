import ChangeDesk.Proofs.Desk.Lookups
import ChangeDesk.Proofs.Draft.Gate

/-!
Completions belong to a field. They go when the template goes, and a field that holds a part of the choice is
never completed: the first character typed into it changes the choice, and with it goes the template. So as
long as completions are on show beside a template, the field that they complete is there to take one over.
-/
namespace ChangeDesk

namespace Desk

variable {d d' : Desk} {r : Reaction} {ev : Event}

/-- The current field holds a part of the choice of the integration. -/
def EditsChoice (d : Desk) : Prop := ∃ f, d.currentField = some f ∧ isChoiceField f.name = true

/-- On the stage of the template, nothing is completed without a template or in a part of the choice; and
nothing typed is left to be completed in a part of the choice, be it that the template is only coming. -/
structure Uncompleted (d : Desk) : Prop where
  cleared : d.draft.stage = .configure → d.draft.template = none ∨ d.EditsChoice → d.Cleared
  still : d.draft.stage = .configure →
    d.draft.template = none ∧ d.inflight.latest .definition ≠ none ∨ d.EditsChoice →
    d.typing.pending = none

theorem Glance.typing (h : Glance d d') : d'.typing = d.typing := by cases h <;> rfl

namespace Uncompleted

theorem of_stage {s : Stage} (hs : d.draft.stage = s) (hne : s ≠ .configure) : d.Uncompleted :=
  ⟨fun h => absurd (hs.symm.trans h) hne, fun h => absurd (hs.symm.trans h) hne⟩

theorem of_resetTyping (d : Desk) : d.resetTyping.Uncompleted :=
  ⟨fun _ _ => cleared_resetTyping d, fun _ _ => rfl⟩

/-- What is awaited and what is typed may go. -/
theorem of_eq (h : d.Uncompleted) (hs : d'.draft.stage = d.draft.stage)
    (ht : d'.draft.template = d.draft.template) (hc : d'.fieldCursor = d.fieldCursor)
    (hsuggestions : d'.suggestions = d.suggestions)
    (hlatest : ∀ kind, d.inflight.latest kind = none → d'.inflight.latest kind = none)
    (htyping : d.typing.pending = none → d'.typing.pending = none) : d'.Uncompleted := by
  have hfield : d'.EditsChoice ↔ d.EditsChoice := by
    rw [EditsChoice, EditsChoice, currentField, currentField, ht, hc]
  refine ⟨fun hstage hnone => ?_, fun hstage hnone => ?_⟩
  · rw [ht, hfield] at hnone
    obtain ⟨hnil, hlookup⟩ := h.cleared (hs ▸ hstage) hnone
    exact ⟨hsuggestions.trans hnil, hlatest _ hlookup⟩
  · rw [ht, hfield] at hnone
    exact htyping (h.still (hs ▸ hstage) (hnone.imp_left (And.imp_right (mt (hlatest _)))))

/-- A field outside of the choice is there. -/
theorem of_field {f : Field} (hf : d.currentField = some f) (hn : isChoiceField f.name = false) :
    d.Uncompleted := by
  have htemplate : d.draft.template ≠ none := fun hnone => by simp [currentField, hnone] at hf
  have hchoice : ¬ d.EditsChoice := by
    rintro ⟨f', hf', hn'⟩
    obtain rfl : f' = f := Option.some.inj (hf'.symm.trans hf)
    simp [hn] at hn'
  exact ⟨fun _ h => absurd h (not_or.2 ⟨htemplate, hchoice⟩),
    fun _ h => absurd h (not_or.2 ⟨fun hnone => htemplate hnone.1, hchoice⟩)⟩

theorem of_entry (h : Entry d r) : r.1.Uncompleted := by
  cases h with
  | choose hs | review hs | preview hs => exact .of_stage hs nofun
  | configure | load => exact .of_resetTyping _

theorem of_edit {f : Field} {value : String} (t : Debounce) (h : d.Uncompleted) (hd : d.Sound)
    (hs : d.draft.stage = .configure) (hf : d.currentField = some f)
    (hv : d.draft.text f.name ≠ "" → value ≠ d.draft.text f.name) :
    Uncompleted { d with draft := d.draft.setText f.name value, typing := t } := by
  have htemplate := isSome_template_of_currentField hf
  obtain ⟨t', ht'⟩ := Option.isSome_iff_exists.1 htemplate
  have hselection : d.draft.selection.isSome = true := by rw [hd.draft.chosen t' ht', Option.isSome_some]
  cases hn : isChoiceField f.name with
  | false =>
    refine .of_field (f := f) ?_ hn
    rw [currentField, (Draft.keeps_setText hn value).template]
    exact hf
  | true =>
    -- The choice changes, so that the template goes; nothing was completed in this field before.
    have hdrops : d.draft.Drops (d.draft.setText f.name value) :=
      Draft.drops_setText hn (hv (Draft.text_ne_of_selection hselection hn))
    have hcleared : d.Cleared := h.cleared hs (.inr ⟨f, hf, hn⟩)
    refine ⟨fun _ _ => ⟨hcleared.suggestions, hcleared.latest⟩, fun _ hnone => ?_⟩
    rcases hnone with ⟨-, hlatest⟩ | ⟨f', hf', -⟩
    · exact absurd (hd.settled htemplate) hlatest
    · simp [currentField, hdrops.template] at hf'

theorem of_arrival {c : Completion} (h : d.Uncompleted) (hd : d.Sound)
    (hc : d.inflight.isCurrent c.token = true) (hk : c.token.kind = c.answer.kind)
    (ha : Arrival { d with inflight := d.inflight.cancel c.token.kind } c.answer r) :
    r.1.Uncompleted := by
  have hlatest : d.inflight.latest c.answer.kind ≠ none := Inflight.latest_ne_of_isCurrent hc hk
  have hcancelled : Uncompleted { d with inflight := d.inflight.cancel c.token.kind } :=
    h.of_eq rfl rfl rfl rfl (fun _ => Inflight.latest_cancel_eq_none _) id
  generalize c.answer = a at hk hlatest ha
  cases ha with
  | offer | noOffer | otherField | files | otherFiles | refused | failure =>
    exact hcancelled.of_eq rfl rfl rfl rfl (fun _ => id) id
  | template | otherTemplate =>
    by_cases hs : d.draft.stage = .configure
    · have hnone : d.draft.template = none := hd.template_eq_none hlatest
      obtain ⟨hnil, hlookup⟩ := h.cleared hs (.inl hnone)
      have hpending : d.typing.pending = none := h.still hs (.inl ⟨hnone, hlatest⟩)
      exact ⟨fun _ _ => ⟨hnil, Inflight.latest_cancel_eq_none _ hlookup⟩, fun _ _ => hpending⟩
    · exact .of_stage rfl hs
  | @suggestions f hits hf =>
    by_cases hs : d.draft.stage = .configure
    · cases hn : isChoiceField f.name with
      | false => exact .of_field hf hn
      | true => exact absurd (h.cleared hs (.inr ⟨f, hf, hn⟩)).latest hlatest
    · exact .of_stage rfl hs
  | again fs hf hs => exact .of_stage hs nofun
  | receipt => exact .of_stage rfl nofun
  | expired | expiredSubmit => exact hcancelled.of_eq rfl rfl rfl rfl (fun _ _ => rfl) id

theorem of_effect (h : d.Uncompleted) (hd : d.Sound)
    (hk : ∀ c, ev = .completion c → c.token.kind = c.answer.kind) (he : Effect d ev r) :
    r.1.Uncompleted := by
  cases he with
  | glance hg =>
    exact h.of_eq (by rw [quiet_fst, hg.draft]) (by rw [quiet_fst, hg.draft]) hg.fieldCursor hg.suggestions
      (fun _ => by rw [quiet_fst, hg.inflight]; exact id) (by rw [quiet_fst, hg.typing]; exact id)
  | leave => exact h.of_eq rfl rfl rfl rfl (fun _ _ => rfl) id
  | reload hs => exact .of_stage hs nofun
  | enter hp hm hr => exact .of_entry hr
  | refuse hp =>
    cases hp with
    | none => exact h.of_eq rfl rfl rfl rfl (fun _ => id) id
    | card s hs hc => exact .of_stage ((Draft.choose_stage d.draft s).trans hs) nofun
  | edit value t hs hf hv => exact h.of_edit t hd hs hf hv
  | field | accept | acceptNone => exact .of_resetTyping _
  | openFile | act | close | stale => exact h.of_eq rfl rfl rfl rfl (fun _ => id) id
  | confirm ho hw =>
    rw [confirmEdit_eq hw]
    exact h.of_eq rfl rfl rfl rfl (fun _ => id) id
  | submit hb =>
    obtain ⟨hs, session, he⟩ := submit_of_begun hb
    rw [he]
    exact .of_stage hs nofun
  | preview hs => exact .of_stage hs nofun
  | justify text hs => exact .of_stage ((Draft.setField_stage _).trans hs) nofun
  | pause t ht => exact h.of_eq rfl rfl rfl rfl (fun _ => id) ht
  | @lookup clock s f start t hs hp hc hf hb =>
    cases hn : isChoiceField f.name with
    | false => exact .of_field hf hn
    | true =>
      -- There would be nothing to look up.
      have hpending : d.typing.pending = none := h.still hs (.inr ⟨f, hf, hn⟩)
      simp [Debounce.poll, hpending] at hp
  | silence t ht =>
    refine ⟨fun _ _ => ⟨rfl, rfl⟩, fun hs hnone => ht (h.still hs ?_)⟩
    exact hnone.imp_left (And.imp_right (mt (Inflight.latest_cancel_eq_none _)))
  | deliver hc ha => exact h.of_arrival hd hc (hk _ rfl) ha

end Uncompleted

end Desk

namespace Office

variable {session : Session} {delay : Nat} {past : Past} {o : Office}

theorem Run.uncompleted (h : Run session delay past o) : o.desk.Uncompleted := by
  induction h with
  | start => exact .of_stage rfl nofun
  | step h ev he ih => exact ih.of_effect h.sound (h.kind_eq he) (Desk.effect_react _ ev)

/-- Where completions are shown on the stage of the template, the field that they complete is there. -/
theorem Run.currentField_of_suggestions (h : Run session delay past o)
    (hs : o.desk.draft.stage = .configure) (hn : o.desk.suggestions ≠ []) :
    ∃ f, o.desk.currentField = some f := by
  have htemplate : o.desk.draft.template.isSome := by
    rw [Option.isSome_iff_ne_none]
    exact fun hnone => hn (h.uncompleted.cleared hs (.inl hnone)).suggestions
  obtain ⟨token, q, -, hfits⟩ := h.showing hs htemplate hn
  obtain ⟨f, hf, -⟩ := Option.map_eq_some_iff.1 hfits.field
  exact ⟨f, hf⟩

end Office

end ChangeDesk
