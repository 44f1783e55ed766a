import ChangeDesk.Proofs.Desk.Complete
import ChangeDesk.Proofs.Desk.Cursors
import ChangeDesk.Proofs.Desk.Leaving
import ChangeDesk.Proofs.SortedMap

/-!
Going back to the first stage and choosing the same integration again. The card of the chosen integration is
highlighted as soon as the stage is entered and whenever a list of integrations comes in, so that Enter chooses
what is chosen already, and that changes nothing.
-/
namespace ChangeDesk

namespace Draft

variable {d : Draft} {name text : String} {s : Integration}

theorem get?_of_text_ne (h : d.text name ≠ "") : d.form.get? name = some (.string (d.text name)) := by
  unfold Draft.text at *
  cases hget : d.form.get? name with
  | none => simp [hget] at h
  | some v => cases v <;> simp_all [Json.text?]

theorem setText_eq_self (h : d.form.get? name = some (.string text)) : d.setText name text = d := by
  rcases setText_cases d name text with ⟨-, hne, -⟩ | ⟨-, he⟩
  · exact absurd h hne
  · rw [he, SortedMap.insert_eq_self h]

/-- Choosing what is chosen changes nothing. -/
theorem choose_eq_self (h : d.selection = some s) : d.choose s = d := by
  have hsome : d.selection.isSome = true := by rw [h, Option.isSome_some]
  obtain ⟨hprovider, hsubType, -, -⟩ := selection_eq_some h
  have hget {name : String} (hname : isChoiceField name = true) :
      d.form.get? name = some (.string (d.text name)) :=
    get?_of_text_ne (text_ne_of_selection hsome hname)
  have hfirst : d.form.get? providerField = some (.string s.provider) := by rw [← hprovider, hget rfl]
  have hsecond : d.form.get? subTypeField = some (.string s.subType) := by rw [← hsubType, hget rfl]
  rw [choose, setText_eq_self hfirst, setText_eq_self hsecond]

/-- With an integration chosen, the first stage is complete. -/
theorem advance_of_selection (hs : d.stage = .choose) (h : d.selection = some s) :
    d.advance = .ok { d with stage := .configure } := by
  have hsome : d.selection.isSome = true := by rw [h, Option.isSome_some]
  exact advance_eq_ok.2 ⟨.configure, by rw [hs]; rfl, hs ▸ (selection_isSome_iff.1 hsome).1, rfl⟩

end Draft

namespace Picker

variable {p : Picker} {d : Draft} {s : Integration}

/-- The card of an integration is highlighted, if it is on show. -/
def Highlights (p : Picker) (s : Integration) : Prop := s ∈ p.cards → p.selectedCard? = some s

theorem highlights_of_nil (h : p.cards = []) : p.Highlights s := fun hs => by simp [h] at hs

/-- The chosen integration is highlighted once the picker follows the draft. -/
theorem highlights_syncWith (h : d.selection = some s) : (p.syncWith d).Highlights s := by
  intro hs
  rw [cards_syncWith] at hs
  obtain ⟨i, hi⟩ : ∃ i, p.cards.findIdx? (· == s) = some i := by
    rw [← Option.isSome_iff_exists, List.findIdx?_isSome, List.any_beq']
    simpa using hs
  obtain ⟨hlt, hcard, -⟩ := List.findIdx?_eq_some_iff_getElem.1 hi
  rw [selectedCard?, cards_syncWith, syncWith, h]
  simp only [hi]
  rw [List.getElem?_eq_getElem hlt, eq_of_beq hcard]

/-- Enter chooses the same integration again, if a list on show contains it. -/
theorem choose_highlighted (hp : p.Highlights s) (h : d.selection = some s)
    (hcards : ∀ cards, p.offer = .ready cards → s ∈ cards) : (p.choose d).2 = d := by
  cases hc : p.selectedCard? with
  | none => rw [choose, hc]
  | some s' =>
    have hs : s ∈ p.cards := by
      unfold selectedCard? cards at *
      split at hc
      · exact hcards _ ‹_›
      · simp at hc
    obtain rfl : s = s' := Option.some.inj ((hp hs).symm.trans hc)
    rw [choose, hc]
    exact Draft.choose_eq_self h

end Picker

namespace Desk

variable {d d₀ : Desk} {s : Integration} {ev : Event}

/-- The key that asks for the integrations anew. -/
theorem react_refresh {ctrl : Bool} {clock : Clock} (hh : d.helpOpen = false) (he : d.editor = none)
    (hs : d.draft.stage = .choose) : d.react (.key ⟨.char 'r', ctrl⟩ clock) = d.loadProviders := by
  simp [react, press, hh, he, stageOfKey?, stageKey, hs, chooseKey]

/-- The list is asked for anew, time passes, or an answer comes in that is neither one to a preview or a
submission nor the end of the session. -/
inductive Refreshes : Event → Prop where
  | key {ctrl : Bool} {clock : Clock} : Refreshes (.key ⟨.char 'r', ctrl⟩ clock)
  | tick {clock : Clock} : Refreshes (.tick clock)
  | answer {c : Completion} (hp : c.answer.kind ≠ .preview) (hs : c.answer.kind ≠ .submit)
      (he : c.answer.error? ≠ some .sessionExpired) : Refreshes (.completion c)

/-- The first stage was entered again from the desk `d₀`: the draft is as it was there but for its stage, and
for a template that was still waited for, and the card of its integration is highlighted. -/
structure Revisits (d₀ : Desk) (s : Integration) (d : Desk) : Prop where
  draft : d.draft = { d₀.draft with stage := .choose, template := d.draft.template }
  settled : d₀.inflight.latest .definition = none →
    d.draft.template = d₀.draft.template ∧ d.inflight.latest .definition = none
  editor : d.editor = none
  bare : d.helpOpen = false
  exit : d.exit = none
  highlights : d.picker.Highlights s

namespace Revisits

theorem stage (h : d₀.Revisits s d) : d.draft.stage = .choose := by rw [h.draft]

theorem selection (h : d₀.Revisits s d) (hs : d₀.draft.selection = some s) :
    d.draft.selection = some s := by
  rw [h.draft]
  exact hs

theorem first {ctrl : Bool} {clock : Clock} (hs : d₀.draft.selection = some s)
    (hh : d₀.helpOpen = false) (hq : d₀.exit = none) :
    d₀.Revisits s (d₀.react (.key ⟨.function 1, ctrl⟩ clock)).1 := by
  rw [react_stageOfKey rfl clock hh (Nat.zero_le _)]
  exact ⟨rfl, fun hsettled => ⟨rfl, hsettled⟩, rfl, hh, hq, Picker.highlights_syncWith hs⟩

/-- What does not concern the draft and the tokens may change. -/
theorem of_eq {d' : Desk} (h : d₀.Revisits s d) (hd : d'.draft = d.draft)
    (hl : d.inflight.latest .definition = none → d'.inflight.latest .definition = none)
    (he : d'.editor = none) (hh : d'.helpOpen = false) (hq : d'.exit = none)
    (hp : d'.picker.Highlights s) : d₀.Revisits s d' := by
  refine ⟨by rw [hd]; exact h.draft, fun hsettled => ?_, he, hh, hq, hp⟩
  obtain ⟨htemplate, hnone⟩ := h.settled hsettled
  exact ⟨by rw [hd]; exact htemplate, hl hnone⟩

theorem of_arrival {c : Completion} {r : Reaction} (h : d₀.Revisits s d)
    (hs : d₀.draft.selection = some s) (hc : d.inflight.isCurrent c.token = true)
    (hk : c.token.kind = c.answer.kind) (hr : Refreshes (.completion c))
    (ha : Arrival { d with inflight := d.inflight.cancel c.token.kind } c.answer r) :
    d₀.Revisits s r.1 := by
  have hcancelled : d₀.Revisits s { d with inflight := d.inflight.cancel c.token.kind } :=
    h.of_eq rfl (Inflight.latest_cancel_eq_none _) h.editor h.bare h.exit h.highlights
  have hlatest : d.inflight.latest c.answer.kind ≠ none := Inflight.latest_ne_of_isCurrent hc hk
  cases hr with
  | answer hpreview hsubmit hexpired =>
    generalize c.answer = a at hk hlatest hpreview hsubmit hexpired ha
    cases ha with
    | offer l =>
      exact hcancelled.of_eq rfl id h.editor h.bare h.exit (Picker.highlights_syncWith (h.selection hs))
    | noOffer => exact hcancelled.of_eq rfl id h.editor h.bare h.exit (Picker.highlights_of_nil rfl)
    | @template t ht =>
      -- The template was waited for, also when the stage was entered again.
      exact ⟨congrArg (fun draft : Draft => { draft with template := some t }) h.draft,
        fun hsettled => absurd (h.settled hsettled).2 hlatest, h.editor, h.bare, h.exit, h.highlights⟩
    | otherTemplate | suggestions | otherField | failure =>
      exact hcancelled.of_eq rfl id h.editor h.bare h.exit h.highlights
    | files | otherFiles | again => exact absurd rfl hpreview
    | receipt | refused | expiredSubmit => exact absurd rfl hsubmit
    | expired he => exact absurd he hexpired

theorem react (h : d₀.Revisits s d) (hs : d₀.draft.selection = some s)
    (hk : ∀ c, ev = .completion c → c.token.kind = c.answer.kind) (hr : Refreshes ev) :
    d₀.Revisits s (d.react ev).1 := by
  have hstage := h.stage
  cases ev with
  | key k clock =>
    cases hr
    rw [react_refresh h.bare h.editor hstage]
    exact h.of_eq rfl id h.editor h.bare h.exit (Picker.highlights_of_nil rfl)
  | tick clock =>
    have hidle : d.react (.tick clock) = d.quiet := by simp [Desk.react, tick, hstage]
    rw [hidle]
    exact h
  | completion c =>
    have heffect := effect_react d (.completion c)
    generalize d.react (.completion c) = r at heffect ⊢
    cases heffect with
    | deliver hc ha => exact h.of_arrival hs hc (hk c rfl) hr ha
    | stale => exact h

/-- Enter chooses what is chosen already, and goes on to the configuration. -/
theorem enter (h : d₀.Revisits s d) (hs : d₀.draft.selection = some s)
    (hcards : ∀ cards, d.picker.offer = .ready cards → s ∈ cards) (ctrl : Bool) (clock : Clock) :
    Entry { d with draft := { d.draft with stage := .configure }, refusal := none }
      (d.react (.key ⟨.enter, ctrl⟩ clock)) := by
  have hselection := h.selection hs
  rw [react_choose h.bare h.editor h.stage, Picker.choose_highlighted h.highlights hselection hcards, advance,
    Draft.advance_of_selection h.stage hselection, moved]
  exact entry_enterStage _

end Revisits

end Desk

namespace Office

variable {session : Session} {delay : Nat} {past since : Past} {o o' : Office} {s : Integration}

theorem Onward.run (hon : Onward o since o') (h : Run session delay past o) :
    Run session delay (since ++ past) o' := by
  induction hon with
  | here => exact h
  | step _ ev he ih => exact ih.step ev he

theorem Onward.revisits {d₀ : Desk} (hon : Onward o since o') (h : Run session delay past o)
    (hr : d₀.Revisits s o.desk) (hs : d₀.draft.selection = some s)
    (hrefresh : ∀ p ∈ since, Desk.Refreshes p.2) : d₀.Revisits s o'.desk := by
  induction hon with
  | here => exact hr
  | step hon ev he ih =>
    obtain ⟨hev, hsince⟩ := List.forall_mem_cons.1 hrefresh
    exact (ih hsince).react hs ((hon.run h).kind_eq he) hev

/-- Going back to the first stage and choosing what is chosen loses nothing. Between the two keys the list of
integrations may be asked for anew and come in as often as it likes, in whatever order, as long as a list that
is on show at the end contains the integration. The draft arrives at the configuration with the same values,
files and fingerprint, and with its template unless that was still waited for; a template that is not there is
asked for. -/
theorem choice_revisited (h : Run session delay past o) (hq : o.desk.exit = none)
    (hh : o.desk.helpOpen = false) (hs : o.desk.draft.selection = some s) {ctrl : Bool} {clock : Clock}
    (hon : Onward (o.step (.key ⟨.function 1, ctrl⟩ clock)) since o')
    (hrefresh : ∀ p ∈ since, Desk.Refreshes p.2)
    (hcards : ∀ cards, o'.desk.picker.offer = .ready cards → s ∈ cards) (ctrl' : Bool) (clock' : Clock) :
    (o'.step (.key ⟨.enter, ctrl'⟩ clock')).desk.draft =
      { o.desk.draft with stage := .configure, template := o'.desk.draft.template } ∧
    (o.desk.inflight.isPending .definition = false →
      o'.desk.draft.template = o.desk.draft.template) ∧
    (o'.desk.draft.template = none →
      ∃ token, (o'.desk.react (.key ⟨.enter, ctrl'⟩ clock')).2 = some ⟨token, .definition s⟩) ∧
    (o'.step (.key ⟨.enter, ctrl'⟩ clock')).desk.exit = none := by
  have hrun := h.step (.key ⟨.function 1, ctrl⟩ clock) trivial
  have hrevisits : o.desk.Revisits s o'.desk := hon.revisits hrun (.first hs hh hq) hs hrefresh
  have hentry := hrevisits.enter hs hcards ctrl' clock'
  rw [step_desk, hentry.draft, hentry.exit]
  refine ⟨?_, fun hsettled => ?_, fun hnone => ?_, hrevisits.exit⟩
  · change { o'.desk.draft with stage := .configure } = _
    rw [hrevisits.draft]
  · exact (hrevisits.settled (by simpa [Inflight.isPending] using hsettled)).1
  · generalize o'.desk.react (.key ⟨.enter, ctrl'⟩ clock') = r at hentry
    cases hentry with
    | choose hs' | review hs' | preview hs' => cases hs'
    | configure _ ht =>
      rcases ht with hsome | hunchosen
      · simp [hnone] at hsome
      · cases (hrevisits.selection hs).symm.trans hunchosen
    | load s' _ _ hc =>
      obtain rfl : s = s' := Option.some.inj ((hrevisits.selection hs).symm.trans hc)
      exact ⟨_, rfl⟩

end Office

/-! From the review back to the first stage, where the list is asked for anew, and on again. -/

namespace Sample

open Office

def rechoosing : Office := press previewed (.function 1)

def relisting : Office := press rechoosing (.char 'r')

def relisted : Office := relisting.step (answer backend relisting)

def relist : Past := [(relisting, answer backend relisting), (rechoosing, .key ⟨.char 'r', false⟩ clock)]

theorem onward_relist : Onward rechoosing relist relisted :=
  (Onward.here.step (.key ⟨.char 'r', false⟩ clock) trivial).step _ (allows_answer backend relisting)

theorem answer_relisting : answer backend relisting =
    .completion ⟨⟨.providers, 4, 0⟩, .providers (.ok [⟨"aws", "s3"⟩])⟩ := rfl

theorem refreshes_relist : ∀ p ∈ relist, Desk.Refreshes p.2 := by
  simp only [relist, List.forall_mem_cons, answer_relisting]
  exact ⟨.answer nofun nofun nofun, .key, by simp⟩

end Sample

namespace Office

theorem choice_revisited_sample : ∃ past, Run .empty 0 past Sample.previewed ∧
    Sample.previewed.desk.exit = none ∧ Sample.previewed.desk.helpOpen = false ∧
    Sample.previewed.desk.draft.selection = some ⟨"aws", "s3"⟩ ∧
    Onward (Sample.press Sample.previewed (.function 1)) Sample.relist Sample.relisted ∧
    (∀ p ∈ Sample.relist, Desk.Refreshes p.2) ∧
    (∀ cards, Sample.relisted.desk.picker.offer = .ready cards → ⟨"aws", "s3"⟩ ∈ cards) ∧
    (Sample.press Sample.relisted .enter).desk.draft =
      { Sample.previewed.desk.draft with stage := .configure } := by
  obtain ⟨past, h⟩ := Sample.reached_previewed
  have hselection : Sample.previewed.desk.draft.selection = some ⟨"aws", "s3"⟩ := rfl
  have hcards : ∀ cards, Sample.relisted.desk.picker.offer = .ready cards → ⟨"aws", "s3"⟩ ∈ cards := by
    intro cards hoffer
    obtain rfl : [⟨"aws", "s3"⟩] = cards := Offer.ready.inj hoffer
    exact List.mem_singleton_self _
  obtain ⟨hdraft, htemplate, -, -⟩ := choice_revisited h rfl rfl hselection Sample.onward_relist
    Sample.refreshes_relist hcards false Sample.clock
  refine ⟨past, h, rfl, rfl, hselection, Sample.onward_relist, Sample.refreshes_relist, hcards, ?_⟩
  rw [Sample.press, hdraft, htemplate rfl]

end Office

end ChangeDesk
