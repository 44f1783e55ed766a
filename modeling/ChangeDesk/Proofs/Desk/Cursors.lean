import ChangeDesk.Proofs.Desk.Completing
import ChangeDesk.Proofs.Desk.Pending
import ChangeDesk.Proofs.Desk.Typing

/-!
The cursors of a desk. Four lists have a highlighted entry: the integrations, the fields of the template, the
completions and the files. Each list is replaced and cleared by answers and by changes of the choice, and
whatever writes one of them leaves its cursor inside. So there always is an entry for the keys that act on it.
-/
namespace ChangeDesk

variable {α : Type}

/-- A cursor is inside a list, if the list has entries. -/
def Points (i : Nat) (l : List α) : Prop := l ≠ [] → i < l.length

namespace Points

variable {i n : Nat} {l : List α}

theorem zero (l : List α) : Points 0 l := List.length_pos_iff.2

theorem nil (i : Nat) : Points i ([] : List α) := fun h => absurd rfl h

/-- A cursor stays inside when it moves to an entry or towards the start. -/
theorem move (h : Points i l) (hn : n < l.length ∨ n ≤ i) : Points n l :=
  fun hl => hn.elim id fun hle => hle.trans_lt (h hl)

theorem congr_length {l' : List α} (h : Points i l) (hl : l'.length = l.length) : Points i l' := by
  intro hne
  rw [← List.length_pos_iff, hl, List.length_pos_iff] at hne
  exact hl ▸ h hne

theorem exists_getElem? (h : Points i l) (hl : l ≠ []) : ∃ x, l[i]? = some x :=
  ⟨_, List.getElem?_eq_getElem (h hl)⟩

end Points

/-- The highlighted card is among those on show, and a list on show is never empty. -/
structure Picker.Points (p : Picker) : Prop where
  ready : p.offer ≠ .ready []
  selected : ChangeDesk.Points p.selected p.cards

namespace Picker.Points

variable {p : Picker}

theorem of_loading : Picker.new.Points := ⟨nofun, .nil _⟩

theorem fail (message : String) : (p.fail message).Points := ⟨nofun, .nil _⟩

theorem load (l : List Integration) : (p.load l).Points := by
  unfold Picker.load
  split
  · exact ⟨nofun, .nil _⟩
  · rename_i hne
    exact ⟨fun h => hne (Offer.ready.inj h), .zero _⟩

theorem move (h : p.Points) {n : Nat} (hn : n < p.cards.length ∨ n ≤ p.selected) :
    Points { p with selected := n } := ⟨h.ready, h.selected.move hn⟩

theorem syncWith (h : p.Points) (d : Draft) : (p.syncWith d).Points := by
  unfold Picker.syncWith
  split
  · exact h
  · split
    · rename_i i hi
      exact h.move (.inl (List.findIdx?_eq_some_iff_getElem.1 hi).1)
    · exact h

end Picker.Points

namespace Desk

variable {d d' : Desk} {r : Reaction} {ev : Event}

structure Cursors (d : Desk) : Prop where
  card : d.picker.Points
  field : ∀ t, d.draft.template = some t → Points d.fieldCursor t.fields
  suggestion : Points d.suggestionSelected d.suggestions
  file : Points d.selectedFile d.draft.files

namespace Cursors

theorem of_glance (h : d.Cursors) (hg : Glance d d') : d'.Cursors := by
  cases hg with
  | nothing | help | notice | refusal | focus | scroll => exact ⟨h.card, h.field, h.suggestion, h.file⟩
  | file n hn => exact ⟨h.card, h.field, h.suggestion, h.file.move hn⟩
  | highlight n hn => exact ⟨h.card, h.field, h.suggestion.move hn, h.file⟩
  | card n hn => exact ⟨h.card.move hn, h.field, h.suggestion, h.file⟩

/-- The template and the files stay with the choice, or go. -/
theorem of_choice {draft : Draft} (h : d.Cursors) (hd : d.draft.Keeps draft ∨ d.draft.Drops draft) :
    Cursors { d with draft := draft } := by
  rcases hd with hk | hd
  · refine ⟨h.card, fun t ht => h.field t (hk.template ▸ ht), h.suggestion, ?_⟩
    rw [hk.files]
    exact h.file
  · refine ⟨h.card, fun t ht => ?_, h.suggestion, ?_⟩
    · rw [hd.template] at ht
      cases ht
    · rw [hd.files]
      exact .nil _

theorem of_picked (h : d.Cursors) (hp : Picked d d') : d'.Cursors := by
  cases hp with
  | none => exact h
  | card s hs hc => exact h.of_choice (Draft.keeps_or_drops_choose d.draft s)

theorem resetTyping (h : d.Cursors) : d.resetTyping.Cursors := ⟨h.card, h.field, .nil _, h.file⟩

theorem of_entry (h : d.Cursors) (he : Entry d r) : r.1.Cursors := by
  cases he with
  | choose => exact ⟨h.card.syncWith d.draft, h.field, h.suggestion, h.file⟩
  | configure | load => exact ⟨h.card, h.field, .nil _, h.file⟩
  | review | preview => exact ⟨h.card, h.field, h.suggestion, h.file⟩

theorem of_arrival {a : Answer} (h : d.Cursors) (ha : Arrival d a r) : r.1.Cursors := by
  cases ha with
  | offer l => exact ⟨(Picker.Points.load l).syncWith d.draft, h.field, h.suggestion, h.file⟩
  | noOffer => exact ⟨.fail _, h.field, h.suggestion, h.file⟩
  | template | otherTemplate => exact ⟨h.card, fun t _ => .zero _, h.suggestion, h.file⟩
  | suggestions => exact ⟨h.card, h.field, .zero _, h.file⟩
  | files => exact ⟨h.card, h.field, h.suggestion, .zero _⟩
  | receipt => exact ⟨h.card, nofun, h.suggestion, .nil _⟩
  | otherField | otherFiles | again => exact ⟨h.card, h.field, h.suggestion, h.file⟩
  | refused | failure | expired | expiredSubmit => exact ⟨h.card, h.field, h.suggestion, h.file⟩

theorem of_effect (h : d.Cursors) (he : Effect d ev r) : r.1.Cursors := by
  cases he with
  | glance hg => exact h.of_glance hg
  | reload => exact ⟨.of_loading, h.field, h.suggestion, h.file⟩
  | @enter k clock d₁ draft _ hp hm hr =>
    have hchosen := (h.of_picked hp).of_choice (.inl hm.keeps)
    have hmoved : Cursors { d₁ with draft := draft, refusal := none } :=
      ⟨hchosen.card, hchosen.field, hchosen.suggestion, hchosen.file⟩
    exact hmoved.of_entry hr
  | refuse hp =>
    have hpicked := h.of_picked hp
    exact ⟨hpicked.card, hpicked.field, hpicked.suggestion, hpicked.file⟩
  | @edit k clock f value t =>
    have hedited := h.of_choice (Draft.keeps_or_drops_setText d.draft f.name value)
    exact ⟨hedited.card, hedited.field, hedited.suggestion, hedited.file⟩
  | justify text => exact h.of_choice (Draft.keeps_or_drops_setText d.draft _ text)
  | accept => exact (h.of_choice (Draft.keeps_or_drops_setText d.draft _ _)).resetTyping
  | acceptNone => exact h.resetTyping
  | field n hs ht hn =>
    refine ⟨h.card, fun t' ht' => ?_, .nil _, h.file⟩
    obtain rfl := Option.some.inj (ht.symm.trans ht')
    exact (h.field _ ht).move hn
  | confirm ho hw =>
    rw [confirmEdit_eq hw]
    exact ⟨h.card, h.field, h.suggestion, h.file.congr_length (Draft.length_replaceFirst _ _)⟩
  | submit hb =>
    obtain ⟨hs, session, he⟩ := submit_of_begun hb
    rw [he]
    exact ⟨h.card, h.field, h.suggestion, h.file⟩
  | silence => exact ⟨h.card, h.field, .nil _, h.file⟩
  | @deliver c _ hc ha =>
    have hsettled : Cursors { d with inflight := d.inflight.cancel c.token.kind } :=
      ⟨h.card, h.field, h.suggestion, h.file⟩
    exact hsettled.of_arrival ha
  | leave | openFile | act | close | preview | pause | lookup | stale =>
    exact ⟨h.card, h.field, h.suggestion, h.file⟩

end Cursors

/-- The key that chooses the highlighted card. -/
theorem react_choose {ctrl : Bool} {clock : Clock} (hh : d.helpOpen = false) (he : d.editor = none)
    (hs : d.draft.stage = .choose) : d.react (.key ⟨.enter, ctrl⟩ clock) =
      advance { d with draft := (d.picker.choose d.draft).2 } := by
  simp [react, press, hh, he, stageOfKey?, stageKey, hs, chooseKey]

/-- The key that takes over the highlighted completion. -/
theorem react_accept {f : Field} {hit : Suggestion} {ctrl : Bool} {clock : Clock}
    (hh : d.helpOpen = false) (he : d.editor = none) (hs : d.draft.stage = .configure)
    (hhit : d.suggestions[d.suggestionSelected]? = some hit) (hf : d.currentField = some f) :
    d.react (.key ⟨.tab, ctrl⟩ clock) =
      quiet (resetTyping { d with draft := d.draft.setText f.name hit.value }) := by
  simp [react, press, hh, he, stageOfKey?, stageKey, hs, configureKey, acceptSuggestion?, hhit, hf]

/-- The keys act on the highlighted entries: Enter chooses the card, Tab enters the completion into the current
field, and Enter, e and v open the file. -/
structure ActsOnHighlighted (d : Desk) (ctrl : Bool) (clock : Clock) : Prop where
  card : ∀ cards, d.draft.stage = .choose → d.picker.offer = .ready cards →
    ∃ s, cards[d.picker.selected]? = some s ∧
      d.react (.key ⟨.enter, ctrl⟩ clock) = advance { d with draft := d.draft.choose s }
  suggestion : d.draft.stage = .configure → d.suggestions ≠ [] →
    ∃ hit f, d.suggestions[d.suggestionSelected]? = some hit ∧ d.currentField = some f ∧
      d.react (.key ⟨.tab, ctrl⟩ clock) =
        quiet (resetTyping { d with draft := d.draft.setText f.name hit.value })
  file : d.draft.stage = .review → d.reviewFocus = .files → d.editor = none →
    d.draft.needsPreview = false → ∃ f, d.draft.files[d.selectedFile]? = some f ∧
      ∀ code, code = .enter ∨ code = .char 'e' ∨ code = .char 'v' →
        d.react (.key ⟨code, ctrl⟩ clock) = quiet { d with
          editor := some (.openFile f (code == .char 'v' || d.draft.submitting)), scroll := 0 }

end Desk

namespace Office

variable {session : Session} {delay : Nat} {past : Past} {o : Office}

theorem Run.cursors (h : Run session delay past o) : o.desk.Cursors :=
  h.invariant (P := fun o => o.desk.Cursors)
    ⟨.of_loading, nofun, .nil _, .nil _⟩
    fun o ev hcursors _ => hcursors.of_effect (Desk.effect_react o.desk ev)

theorem Run.actsOnHighlighted (h : Run session delay past o) (hq : o.desk.exit = none)
    (hh : o.desk.helpOpen = false) (ctrl : Bool) (clock : Clock) :
    o.desk.ActsOnHighlighted ctrl clock where
  card cards hs hoffer := by
    have hclosed : o.desk.editor = none := by
      by_contra hopen
      obtain ⟨e, he⟩ := Option.ne_none_iff_exists'.1 hopen
      exact absurd ((h.attached hq e he).stage.symm.trans hs) nofun
    have hcards : o.desk.picker.cards = cards := by rw [Picker.cards, hoffer]
    have hne : o.desk.picker.cards ≠ [] := fun hnil =>
      h.cursors.card.ready (by rw [hoffer, ← hcards, hnil])
    obtain ⟨s, hselected⟩ := h.cursors.card.selected.exists_getElem? hne
    have hchosen : o.desk.picker.choose o.desk.draft = (some s, o.desk.draft.choose s) := by
      rw [Picker.choose, Picker.selectedCard?, hselected]
    exact ⟨s, hcards ▸ hselected, by rw [Desk.react_choose hh hclosed hs, hchosen]⟩
  suggestion hs hn := by
    obtain ⟨hit, hhit⟩ := h.cursors.suggestion.exists_getElem? hn
    obtain ⟨f, hf⟩ := h.currentField_of_suggestions hs hn
    exact ⟨hit, f, hhit, hf, Desk.react_accept hh (h.shut hs) hs hhit hf⟩
  file hs hr he hp := by
    obtain ⟨hfiles, -⟩ := Draft.needsPreview_eq_false.1 hp
    obtain ⟨f, hf⟩ := h.cursors.file.exists_getElem? hfiles
    exact ⟨f, hf, fun code hcode => Desk.react_open hcode hh he hs hr hp hf⟩

/-- In every office that can be reached, each of the four cursors is inside its list whenever the list has
entries. So there is a highlighted entry, and the keys act on it until the desk is left. -/
theorem cursors_inside (h : Run session delay past o) :
    (∀ cards, o.desk.picker.offer = .ready cards → o.desk.picker.selected < cards.length) ∧
    (∀ t, o.desk.draft.template = some t → t.fields ≠ [] → o.desk.fieldCursor < t.fields.length) ∧
    (o.desk.suggestions ≠ [] → o.desk.suggestionSelected < o.desk.suggestions.length) ∧
    (o.desk.draft.files ≠ [] → o.desk.selectedFile < o.desk.draft.files.length) ∧
    (o.desk.exit = none → o.desk.helpOpen = false →
      ∀ ctrl clock, o.desk.ActsOnHighlighted ctrl clock) := by
  refine ⟨fun cards hoffer => ?_, h.cursors.field, h.cursors.suggestion, h.cursors.file,
    h.actsOnHighlighted⟩
  have hcards : o.desk.picker.cards = cards := by rw [Picker.cards, hoffer]
  have hne : cards ≠ [] := fun hnil => h.cursors.card.ready (by rw [hoffer, hnil])
  rw [← hcards] at hne ⊢
  exact h.cursors.card.selected hne

/-- The only completion on show is entered into the only field. -/
theorem cursors_inside_sample : ∃ past, Run .empty 0 past Sample.offered ∧
    Sample.offered.desk.suggestions = [⟨"logs", "logs"⟩] ∧
    Sample.offered.desk.suggestionSelected < 1 ∧
    (Sample.press Sample.offered .tab).desk.draft.text "bucket" = "logs" := by
  obtain ⟨past, h⟩ := Sample.reached_offered
  have hsuggestions : Sample.offered.desk.suggestions = [⟨"logs", "logs"⟩] := rfl
  have hshown : Sample.offered.desk.suggestions ≠ [] := by simp [hsuggestions]
  obtain ⟨-, -, hinside, -, hacts⟩ := cursors_inside h
  obtain ⟨hit, f, hhit, hf, hreact⟩ := (hacts rfl rfl false Sample.clock).suggestion rfl hshown
  obtain rfl : ⟨"logs", "logs"⟩ = hit := Option.some.inj hhit
  obtain rfl : ⟨"bucket", none, none, true, true⟩ = f := Option.some.inj hf
  refine ⟨past, h, hsuggestions, hinside hshown, ?_⟩
  rw [Sample.press, step_desk, hreact]
  rfl

end Office

end ChangeDesk
