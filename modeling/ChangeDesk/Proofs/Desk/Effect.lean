import ChangeDesk.Desk
import ChangeDesk.Proofs.Draft.Operations

/-!
Everything that one event can do to a desk. Each reaction is one of the effects listed here, with what the
desk checked before it came about; statements about all events are settled by going through this list once.
-/
namespace ChangeDesk

def Answer.error? : Answer → Option ApiError
  | .providers (.error e) => some e
  | .definition (.error e) => some e
  | .typeahead _ (.error e) => some e
  | .preview _ (.error e) => some e
  | .submit (.error e) => some e
  | _ => none

namespace Desk

/-- Changes of the view alone. Positions in lists stay in their list or move towards its start. -/
inductive Glance (d : Desk) : Desk → Prop where
  | nothing : Glance d d
  | help (b : Bool) (h : b = true → d.editor = none) : Glance d { d with helpOpen := b }
  | notice (n : Option Notice) : Glance d { d with notice := n }
  | refusal (r : Option Refusal) : Glance d { d with refusal := r }
  | focus (f : ReviewFocus) : Glance d { d with reviewFocus := f }
  | scroll (n : Nat) : Glance d { d with scroll := n }
  | file (n : Nat) (h : n < d.draft.files.length ∨ n ≤ d.selectedFile) (he : d.editor = none) :
      Glance d { d with selectedFile := n, scroll := 0 }
  | highlight (n : Nat) (h : n < d.suggestions.length ∨ n ≤ d.suggestionSelected) :
      Glance d { d with suggestionSelected := n }
  | card (n : Nat) (h : n < d.picker.cards.length ∨ n ≤ d.picker.selected) :
      Glance d { d with picker := { d.picker with selected := n } }

inductive Picked (d : Desk) : Desk → Prop where
  | none : Picked d d
  | card (s : Integration) (hs : d.draft.stage = .choose) (hc : d.picker.selectedCard? = some s) :
      Picked d { d with draft := d.draft.choose s }

inductive Entry (d : Desk) : Reaction → Prop where
  | choose (hs : d.draft.stage = .choose) :
      Entry d (quiet { d with editor := none, scroll := 0, picker := d.picker.syncWith d.draft })
  | configure (hs : d.draft.stage = .configure)
      (ht : d.draft.template.isSome ∨ d.draft.selection = none) :
      Entry d (quiet (resetTyping { d with editor := none, scroll := 0 }))
  | load (s : Integration) (hs : d.draft.stage = .configure) (ht : d.draft.template = none)
      (hc : d.draft.selection = some s) :
      Entry d (resetTyping (issue (.definition s) { d with editor := none, scroll := 0 }).1,
        (issue (.definition s) { d with editor := none, scroll := 0 }).2)
  | review (hs : d.draft.stage = .review) (hp : d.draft.needsPreview = false) :
      Entry d (quiet { d with editor := none, scroll := 0, reviewFocus := .files })
  | preview (hs : d.draft.stage = .review) (hp : d.draft.needsPreview = true) :
      Entry d (requestPreview { d with editor := none, scroll := 0, reviewFocus := .files })

inductive Arrival (d : Desk) : Answer → Reaction → Prop where
  | offer (l : List Integration) :
      Arrival d (.providers (.ok l)) (quiet { d with picker := (d.picker.load l).syncWith d.draft })
  | noOffer {e : ApiError} (he : e ≠ .sessionExpired) :
      Arrival d (.providers (.error e)) (quiet { d with picker := d.picker.fail e.message })
  | template {t : Template} (ht : d.draft.accepts t = true) :
      Arrival d (.definition (.ok t))
        (quiet { d with draft := { d.draft with template := some t }, fieldCursor := 0 })
  | otherTemplate {t : Template} (ht : d.draft.accepts t = false) :
      Arrival d (.definition (.ok t)) (quiet { d with fieldCursor := 0 })
  | suggestions {f : Field} (hits : List Suggestion) (hf : d.currentField = some f) :
      Arrival d (.typeahead f.name (.ok hits))
        (quiet { d with suggestions := hits, suggestionSelected := 0 })
  | otherField {field : String} (hits : List Suggestion) :
      Arrival d (.typeahead field (.ok hits)) (quiet d)
  | files {fingerprint : String} (fs : List ChangedFile) (hf : fingerprint = d.draft.fingerprint) :
      Arrival d (.preview fingerprint (.ok fs))
        (quiet { d with
          draft := { d.draft with files := fs, previewed := some fingerprint }
          editor := none, selectedFile := 0, scroll := 0 })
  | otherFiles {fingerprint : String} (fs : List ChangedFile)
      (hf : fingerprint ≠ d.draft.fingerprint)
      (hn : ¬ (d.draft.stage = .review ∧ d.draft.needsPreview = true)) :
      Arrival d (.preview fingerprint (.ok fs)) (quiet d)
  | again {fingerprint : String} (fs : List ChangedFile) (hf : fingerprint ≠ d.draft.fingerprint)
      (hs : d.draft.stage = .review) (hn : d.draft.needsPreview = true) :
      Arrival d (.preview fingerprint (.ok fs)) d.requestPreview
  | receipt (r : Receipt) : Arrival d (.submit (.ok r)) (quiet (d.takeReceipt (.ok r)))
  | refused {e : ApiError} (he : e ≠ .sessionExpired) :
      Arrival d (.submit (.error e))
        (quiet { d with draft := d.draft.submitFailed, notice := some (.failure e) })
  | failure {a : Answer} {e : ApiError} (ha : a.error? = some e) (hp : a.kind ≠ .providers)
      (hs : a.kind ≠ .submit) (he : e ≠ .sessionExpired) :
      Arrival d a (quiet { d with notice := some (.failure e) })
  | expired {a : Answer} (ha : a.error? = some .sessionExpired) (hs : a.kind ≠ .submit) :
      Arrival d a (quiet (d.quit .sessionExpired))
  | expiredSubmit :
      Arrival d (.submit (.error .sessionExpired))
        (quiet (quit .sessionExpired { d with draft := d.draft.submitFailed }))

/-- The keys that leave the desk: Ctrl and c anywhere, q and, unless it dismisses a notice, Esc where an
integration is chosen, and q where the files are listed. -/
inductive Quits (d : Desk) : Key → Prop where
  | interrupt : Quits d ⟨.char 'c', true⟩
  | choosing {k : Key} (hk : k.code = .char 'q' ∨ k.code = .escape ∧ d.notice = none)
      (hs : d.draft.stage = .choose) (he : d.editor = none) (hh : d.helpOpen = false) : Quits d k
  | reviewing {k : Key} (hk : k.code = .char 'q') (hs : d.draft.stage = .review)
      (hf : d.reviewFocus = .files) (he : d.editor = none) (hh : d.helpOpen = false) : Quits d k

/-- The keys that submit the draft: S where the files are listed, and Enter on the justification. -/
inductive Submits (d : Desk) : Key → Prop where
  | files {k : Key} (hk : k.code = .char 'S') (hs : d.draft.stage = .review)
      (hf : d.reviewFocus = .files) (he : d.editor = none) (hh : d.helpOpen = false) : Submits d k
  | justification {k : Key} (hk : k.code = .enter) (hs : d.draft.stage = .review)
      (hf : d.reviewFocus = .justification) (he : d.editor = none) (hh : d.helpOpen = false) :
      Submits d k

inductive Effect (d : Desk) : Event → Reaction → Prop where
  | glance {k : Key} {clock : Clock} {d' : Desk} (h : Glance d d') : Effect d (.key k clock) (quiet d')
  | leave {k : Key} {clock : Clock} (h : Quits d k) :
      Effect d (.key k clock) (quiet (d.quit .cancelled))
  | reload {k : Key} {clock : Clock} (hs : d.draft.stage = .choose) :
      Effect d (.key k clock) d.loadProviders
  | enter {k : Key} {clock : Clock} {d' : Desk} {draft : Draft} {r : Reaction} (hd : Picked d d')
      (hm : d'.draft.Moves draft) (hr : Entry { d' with draft := draft, refusal := none } r) :
      Effect d (.key k clock) r
  | refuse {k : Key} {clock : Clock} {d' : Desk} (hd : Picked d d') (reason : Refusal) :
      Effect d (.key k clock) (quiet { d' with refusal := some reason })
  | edit {k : Key} {clock : Clock} {f : Field} (value : String) (t : Debounce)
      (hs : d.draft.stage = .configure) (hf : d.currentField = some f)
      (hv : d.draft.text f.name ≠ "" → value ≠ d.draft.text f.name) :
      Effect d (.key k clock)
        (quiet { d with draft := d.draft.setText f.name value, typing := t })
  | field {k : Key} {clock : Clock} {t : Template} (n : Nat) (hs : d.draft.stage = .configure)
      (ht : d.draft.template = some t) (hn : n < t.fields.length ∨ n ≤ d.fieldCursor) :
      Effect d (.key k clock) (quiet (resetTyping { d with fieldCursor := n }))
  | accept {k : Key} {clock : Clock} {f : Field} {hit : Suggestion}
      (hs : d.draft.stage = .configure) (hh : d.suggestions[d.suggestionSelected]? = some hit)
      (hf : d.currentField = some f) :
      Effect d (.key k clock)
        (quiet (resetTyping { d with draft := d.draft.setText f.name hit.value }))
  | acceptNone {k : Key} {clock : Clock} {hit : Suggestion} (hs : d.draft.stage = .configure)
      (hh : d.suggestions[d.suggestionSelected]? = some hit) (hf : d.currentField = none) :
      Effect d (.key k clock) (quiet (resetTyping d))
  | openFile {k : Key} {clock : Clock} {f : ChangedFile} (readOnly : Bool)
      (hs : d.draft.stage = .review) (hp : d.draft.needsPreview = false)
      (hf : d.draft.files[d.selectedFile]? = some f) (he : d.editor = none)
      (hh : d.helpOpen = false) :
      Effect d (.key k clock)
        (quiet { d with
          editor := some (.openFile f (readOnly || d.draft.submitting)), scroll := 0 })
  | act {k : Key} {clock : Clock} {e : Editor} (a : Editor.Action) (he : d.editor = some e)
      (ha : a ≠ .confirm) : Effect d (.key k clock) (quiet (d.withEditor a e))
  | confirm {clock : Clock} {e : Editor} (he : d.editor = some e) (hw : e.readOnly = false) :
      Effect d (.key ⟨.char 's', true⟩ clock) (quiet (d.confirmEdit e))
  | close {k : Key} {clock : Clock} : Effect d (.key k clock) (quiet { d with editor := none })
  | submit {k : Key} {clock : Clock} {request : ChangeRequest} {draft : Draft}
      (h : d.draft.beginSubmit = .ok (request, draft)) (he : d.editor = none) (hk : Submits d k) :
      Effect d (.key k clock) (d.submit clock)
  | preview {ctrl : Bool} {clock : Clock} (hs : d.draft.stage = .review)
      (hf : d.reviewFocus = .files) (he : d.editor = none) (hh : d.helpOpen = false) :
      Effect d (.key ⟨.char 'R', ctrl⟩ clock) d.requestPreview
  | justify {k : Key} {clock : Clock} (text : String) (hs : d.draft.stage = .review) :
      Effect d (.key k clock)
        (quiet { d with draft := d.draft.setText justificationField text })
  | pause {clock : Clock} (t : Debounce) (ht : d.typing.pending = none → t.pending = none) :
      Effect d (.tick clock) (quiet { d with typing := t })
  | lookup {clock : Clock} {s : Integration} {f : Field} {start : String} {t : Debounce}
      (hs : d.draft.stage = .configure) (hp : d.typing.poll clock.millis = (some start, t))
      (hc : d.draft.selection = some s) (hf : d.currentField = some f)
      (hb : Text.isBlank start = false) :
      Effect d (.tick clock)
        (issue (.typeahead ⟨s.provider, s.subType, f.name, start⟩) { d with typing := t })
  | silence {clock : Clock} (t : Debounce) (ht : d.typing.pending = none → t.pending = none) :
      Effect d (.tick clock)
        (quiet { d with
          typing := t, inflight := d.inflight.cancel .typeahead, suggestions := [] })
  | deliver {c : Completion} {r : Reaction} (hc : d.inflight.isCurrent c.token = true)
      (h : Arrival { d with inflight := d.inflight.cancel c.token.kind } c.answer r) :
      Effect d (.completion c) r
  | stale {c : Completion} (hc : d.inflight.isCurrent c.token = false) :
      Effect d (.completion c) (quiet d)

theorem entry_enterStage (d : Desk) : Entry d d.enterStage := by
  cases hs : d.draft.stage with
  | choose => simpa [enterStage, hs] using Entry.choose hs
  | configure =>
    cases ht : d.draft.template with
    | some t => simpa [enterStage, hs, ht, quiet] using Entry.configure hs (by simp [ht])
    | none =>
      cases hc : d.draft.selection with
      | none =>
        simpa [enterStage, hs, ht, loadTemplate, hc, quiet] using Entry.configure hs (.inr hc)
      | some s => simpa [enterStage, hs, ht, loadTemplate, hc] using Entry.load s hs ht hc
  | review =>
    cases hp : d.draft.needsPreview with
    | false => simpa [enterStage, hs, hp] using Entry.review hs hp
    | true => simpa [enterStage, hs, hp] using Entry.preview hs hp

theorem effect_moved {d d' : Desk} {k : Key} {clock : Clock} {moved : Except Refusal Draft}
    (hd : Picked d d') (hm : ∀ draft, moved = .ok draft → d'.draft.Moves draft) :
    Effect d (.key k clock) (d'.moved moved) := by
  cases moved with
  | ok draft => exact .enter hd (hm draft rfl) (entry_enterStage _)
  | error reason => exact .refuse hd reason

theorem effect_advance {d d' : Desk} (k : Key) (clock : Clock) (hd : Picked d d') :
    Effect d (.key k clock) d'.advance :=
  effect_moved hd fun _ h => .advance h

theorem effect_back (d : Desk) (k : Key) (clock : Clock) : Effect d (.key k clock) d.back :=
  effect_moved .none fun draft h => by
    obtain rfl : d.draft.back = draft := by simpa using h
    exact .back

theorem effect_jumpTo (d : Desk) (k : Key) (clock : Clock) (stage : Stage) :
    Effect d (.key k clock) (d.jumpTo stage) :=
  effect_moved .none fun _ h => .goTo h

theorem glance_selectNext (d : Desk) : Glance d { d with picker := d.picker.selectNext } := by
  unfold Picker.selectNext
  split
  · rename_i h
    exact .card _ (.inl h)
  · exact .nothing

theorem picked_choose {d : Desk} (hs : d.draft.stage = .choose) :
    Picked d { d with draft := (d.picker.choose d.draft).2 } := by
  cases hc : d.picker.selectedCard? with
  | none => simpa [Picker.choose, hc] using Picked.none
  | some s => simpa [Picker.choose, hc] using Picked.card s hs hc

theorem effect_chooseKey {d : Desk} (k : Key) (clock : Clock) (hs : d.draft.stage = .choose)
    (he : d.editor = none) (hh : d.helpOpen = false)
    (hn : ¬ (d.notice.isSome = true ∧ k.code = .escape)) :
    Effect d (.key k clock) (d.chooseKey k) := by
  unfold chooseKey
  split
  · rename_i hk
    exact .leave (.choosing (.inl hk) hs he hh)
  · rename_i hk
    have hnotice : d.notice = none := by simpa [hk] using hn
    exact .leave (.choosing (.inr ⟨hk, hnotice⟩) hs he hh)
  · exact .glance (.help true fun _ => he)
  · exact .glance (glance_selectNext d)
  · exact .glance (glance_selectNext d)
  · exact .glance (.card _ (.inr (Nat.sub_le ..)))
  · exact .glance (.card _ (.inr (Nat.sub_le ..)))
  · exact .reload hs
  · exact effect_advance k clock (picked_choose hs)
  · exact .glance .nothing

theorem effect_moveField {d : Desk} (k : Key) (clock : Clock) (forward : Bool)
    (hs : d.draft.stage = .configure) : Effect d (.key k clock) (quiet (d.moveField forward)) := by
  cases ht : d.draft.template with
  | none => simpa [moveField, ht] using Effect.glance (d := d) .nothing
  | some t =>
    simp only [moveField, ht, Option.map_some, Option.getD_some]
    split
    · exact .glance .nothing
    · refine .field _ hs ht ?_
      cases forward with
      | false => exact .inr (Nat.sub_le ..)
      | true =>
        refine .inl ?_
        simp only [↓reduceIte]
        omega

theorem push_ne (s : String) (c : Char) : s.push c ≠ s := fun h => by
  simpa using congrArg (fun t => t.toList.length) h

theorem dropLast_ne {s : String} (hs : s ≠ "") : dropLast s ≠ s := fun h => by
  have hnil : s.toList ≠ [] := by simpa using hs
  have hlength : s.toList.length - 1 = s.toList.length := by
    simpa [dropLast] using congrArg (fun t => t.toList.length) h
  have hpos : 0 < s.toList.length := List.length_pos_iff.2 hnil
  omega

theorem effect_editField {d : Desk} (k : Key) (clock : Clock) {edit : String → String}
    (hedit : ∀ s, s ≠ "" → edit s ≠ s) (now : Clock) (hs : d.draft.stage = .configure) :
    Effect d (.key k clock) (quiet (d.editField edit now)) := by
  unfold editField
  cases hf : d.currentField with
  | none => exact .glance .nothing
  | some f =>
    simp only
    split
    · exact .edit _ _ hs hf (hedit _)
    · exact .edit _ d.typing hs hf (hedit _)

theorem effect_tab {d : Desk} (k : Key) (clock : Clock) (hs : d.draft.stage = .configure) :
    Effect d (.key k clock) (quiet (d.acceptSuggestion?.getD (d.moveField true))) := by
  cases hh : d.suggestions[d.suggestionSelected]? with
  | none => simpa [acceptSuggestion?, hh] using effect_moveField k clock true hs
  | some hit =>
    cases hf : d.currentField with
    | none => simpa [acceptSuggestion?, hh, hf] using Effect.acceptNone hs hh hf
    | some f => simpa [acceptSuggestion?, hh, hf] using Effect.accept hs hh hf

theorem effect_configureChar {d : Desk} (k : Key) (c : Char) (ctrl : Bool) (clock : Clock)
    (hs : d.draft.stage = .configure) :
    Effect d (.key k clock) (quiet (d.configureChar c ctrl clock)) := by
  unfold configureChar
  split
  · split
    · split
      · rename_i h
        exact .glance (.highlight _ (.inl h))
      · exact .glance .nothing
    · split
      · exact .glance (.highlight _ (.inr (Nat.sub_le ..)))
      · exact .glance .nothing
  · exact effect_editField k clock (fun s _ => push_ne s c) clock hs

theorem effect_configureKey {d : Desk} (k : Key) (clock : Clock)
    (hs : d.draft.stage = .configure) : Effect d (.key k clock) (d.configureKey k clock) := by
  unfold configureKey
  split
  · exact effect_back d k clock
  · exact effect_advance k clock .none
  · exact effect_moveField k clock false hs
  · exact effect_moveField k clock false hs
  · exact effect_moveField k clock true hs
  · exact effect_tab k clock hs
  · exact effect_editField k clock (fun _ => dropLast_ne) clock hs
  · exact effect_configureChar k _ _ clock hs
  · exact .glance .nothing

theorem effect_openEditor {d : Desk} (k : Key) (clock : Clock) (readOnly : Bool)
    (hs : d.draft.stage = .review) (he : d.editor = none) (hh : d.helpOpen = false) :
    Effect d (.key k clock) (quiet (d.openEditor readOnly)) := by
  unfold openEditor
  split
  · exact .glance .nothing
  · rename_i hp
    split
    · rename_i f hf
      exact .openFile readOnly hs (by simpa using hp) hf he hh
    · exact .glance .nothing

theorem effect_submit {d : Desk} {k : Key} (clock : Clock) (he : d.editor = none)
    (hk : Submits d k) : Effect d (.key k clock) (d.submit clock) := by
  cases h : d.draft.beginSubmit with
  | ok result => exact .submit h he hk
  | error reason => simpa [submit, h] using Effect.glance (d := d) (.refusal (some reason))

theorem glance_nextFile {d : Desk} (he : d.editor = none) : Glance d d.nextFile := by
  unfold nextFile
  split
  · rename_i h
    exact .file _ (.inl h) he
  · exact .nothing

theorem glance_previousFile {d : Desk} (he : d.editor = none) : Glance d d.previousFile := by
  unfold previousFile
  split
  · exact .file _ (.inr (Nat.sub_le ..)) he
  · exact .nothing

theorem effect_filesKey {d : Desk} (k : Key) (clock : Clock) (hs : d.draft.stage = .review)
    (hf : d.reviewFocus = .files) (he : d.editor = none) (hh : d.helpOpen = false) :
    Effect d (.key k clock) (d.filesKey k clock) := by
  obtain ⟨code, ctrl⟩ := k
  unfold filesKey
  split
  · rename_i hk
    exact .leave (.reviewing hk hs hf he hh)
  · exact .glance (.help true fun _ => he)
  · exact effect_back d _ clock
  · exact .glance (glance_nextFile he)
  · exact .glance (glance_nextFile he)
  · exact .glance (glance_previousFile he)
  · exact .glance (glance_previousFile he)
  · exact effect_openEditor _ clock false hs he hh
  · exact effect_openEditor _ clock false hs he hh
  · exact effect_openEditor _ clock true hs he hh
  · exact .glance (.focus .justification)
  · rename_i hk
    exact effect_submit clock he (.files hk hs hf he hh)
  · rename_i h
    obtain rfl : code = .char 'R' := h
    exact .preview hs hf he hh
  · exact .glance (.scroll _)
  · exact .glance (.scroll _)
  · exact .glance .nothing

theorem effect_justificationKey {d : Desk} (k : Key) (clock : Clock) (hs : d.draft.stage = .review)
    (hf : d.reviewFocus = .justification) (he : d.editor = none) (hh : d.helpOpen = false) :
    Effect d (.key k clock) (d.justificationKey k clock) := by
  unfold justificationKey
  split
  · exact .glance (.focus .files)
  · exact .glance (.focus .files)
  · exact .glance (.focus .files)
  · rename_i hk
    exact effect_submit clock he (.justification hk hs hf he hh)
  · exact .justify _ hs
  · split
    · exact .glance .nothing
    · exact .justify _ hs
  · exact .glance .nothing

theorem effect_stageKey {d : Desk} (k : Key) (clock : Clock) (he : d.editor = none)
    (hh : d.helpOpen = false) (hn : ¬ (d.notice.isSome = true ∧ k.code = .escape)) :
    Effect d (.key k clock) (d.stageKey k clock) := by
  unfold stageKey
  split
  · rename_i hs
    exact effect_chooseKey k clock hs he hh hn
  · rename_i hs
    exact effect_configureKey k clock hs
  · rename_i hs hf
    exact effect_filesKey k clock hs hf he hh
  · rename_i hs hf
    exact effect_justificationKey k clock hs hf he hh

theorem confirmEdit_of_readOnly {d : Desk} {e : Editor} (h : e.readOnly = true) :
    d.confirmEdit e = d := by
  simp [confirmEdit, Editor.confirm, h]

theorem effect_editorChar {d : Desk} {e : Editor} (c : Char) (ctrl : Bool) (clock : Clock)
    (he : d.editor = some e) :
    Effect d (.key ⟨.char c, ctrl⟩ clock) (quiet (d.editorChar c ctrl e)) := by
  unfold editorChar
  split
  · rename_i hctrl
    subst hctrl
    split
    · rename_i hc
      subst hc
      cases hr : e.readOnly with
      | false => exact .confirm he hr
      | true =>
        rw [confirmEdit_of_readOnly hr]
        exact .glance .nothing
    · split
      · exact .act .revert he (by simp)
      · exact .glance .nothing
  · exact .act (.insert c) he (by simp)

theorem effect_editorKey {d : Desk} {e : Editor} (k : Key) (clock : Clock)
    (he : d.editor = some e) : Effect d (.key k clock) (quiet (d.editorKey k e)) := by
  obtain ⟨code, ctrl⟩ := k
  cases code with
  | escape => exact .close
  | char c => exact effect_editorChar c ctrl clock he
  | left => exact .act .left he (by simp)
  | right => exact .act .right he (by simp)
  | up => exact .act .up he (by simp)
  | down => exact .act .down he (by simp)
  | home => exact .act .home he (by simp)
  | stop => exact .act .stop he (by simp)
  | backspace => exact .act .backspace he (by simp)
  | delete => exact .act .delete he (by simp)
  | enter => exact .act .newline he (by simp)
  | pageDown => exact .glance (.scroll _)
  | pageUp => exact .glance (.scroll _)
  | tab | backTab | insert | function => exact .glance .nothing

theorem effect_press (d : Desk) (k : Key) (clock : Clock) :
    Effect d (.key k clock) (d.press k clock) := by
  unfold press
  split
  · rename_i hk
    subst hk
    exact .leave .interrupt
  · split
    · exact .glance (.help false nofun)
    · rename_i hopen
      have hh : d.helpOpen = false := by simpa using hopen
      split
      · exact .glance (.notice none)
      · rename_i hn
        split
        · exact effect_jumpTo d k clock _
        · rename_i he
          exact effect_editorKey k clock he
        · rename_i he
          exact effect_stageKey k clock he hh hn

/-- Nothing comes to be awaited by a look at the clock. -/
theorem pending_poll (t : Debounce) (now : Nat) (h : t.pending = none) :
    (t.poll now).2.pending = none := by
  simp [Debounce.poll, h]

theorem effect_requestTypeahead {d : Desk} {start : String} {t : Debounce} (clock : Clock)
    (hs : d.draft.stage = .configure) (hp : d.typing.poll clock.millis = (some start, t)) :
    Effect d (.tick clock) (requestTypeahead start { d with typing := t }) := by
  have hcur : ({ d with typing := t } : Desk).currentField = d.currentField := rfl
  have ht : d.typing.pending = none → t.pending = none := fun h => by
    simpa [hp] using pending_poll _ clock.millis h
  unfold requestTypeahead
  split
  · rename_i s f hc hf
    split
    · exact .silence t ht
    · rename_i hb
      exact .lookup hs hp hc (hcur ▸ hf) (by simpa using hb)
  · exact .pause t ht

theorem effect_tick (d : Desk) (clock : Clock) : Effect d (.tick clock) (d.tick clock) := by
  unfold tick
  split
  · rename_i hs
    split
    · rename_i hp
      exact effect_requestTypeahead clock hs hp
    · rename_i hp
      exact .pause _ fun h => by simpa [hp] using pending_poll _ clock.millis h
  · exact .pause d.typing id

theorem arrival_report {d : Desk} {a : Answer} {e : ApiError} (ha : a.error? = some e)
    (hp : a.kind ≠ .providers) (hs : a.kind ≠ .submit) : Arrival d a (quiet (d.report e)) := by
  unfold report
  split
  · rename_i he
    exact .expired (he ▸ ha) hs
  · rename_i he
    exact .failure ha hp hs he

theorem arrival_takeProviders (d : Desk) (outcome : Outcome (List Integration)) :
    Arrival d (.providers outcome) (quiet (d.takeProviders outcome)) := by
  unfold takeProviders
  split
  · exact .offer _
  · split
    · rename_i he
      subst he
      exact .expired rfl (by simp [Answer.kind])
    · rename_i he
      exact .noOffer he

theorem arrival_takeTemplate (d : Desk) (outcome : Outcome Template) :
    Arrival d (.definition outcome) (quiet (d.takeTemplate outcome)) := by
  cases outcome with
  | ok t =>
    cases ht : d.draft.accepts t with
    | true => simpa [takeTemplate, Draft.setTemplate, ht] using Arrival.template ht
    | false => simpa [takeTemplate, Draft.setTemplate, ht] using Arrival.otherTemplate ht
  | error e => exact arrival_report rfl (by simp [Answer.kind]) (by simp [Answer.kind])

theorem arrival_takeSuggestions (d : Desk) (field : String) (outcome : Outcome (List Suggestion)) :
    Arrival d (.typeahead field outcome) (quiet (d.takeSuggestions field outcome)) := by
  cases outcome with
  | ok hits =>
    cases hf : d.currentField with
    | none => simpa [takeSuggestions, hf] using Arrival.otherField hits
    | some f =>
      simp only [takeSuggestions, hf, Option.any_some]
      split
      · rename_i hn
        obtain rfl : f.name = field := by simpa using hn
        exact .suggestions hits hf
      · exact .otherField hits
  | error e => exact arrival_report rfl (by simp [Answer.kind]) (by simp [Answer.kind])

theorem arrival_takePreview (d : Desk) (fingerprint : String)
    (outcome : Outcome (List ChangedFile)) :
    Arrival d (.preview fingerprint outcome) (d.takePreview fingerprint outcome) := by
  cases outcome with
  | ok fs =>
    by_cases hf : fingerprint = d.draft.fingerprint
    · simpa [takePreview, Draft.applyPreview, hf] using Arrival.files fs hf
    · simp only [takePreview, Draft.applyPreview, hf, ↓reduceIte]
      split
      · rename_i h
        exact .again fs hf h.1 h.2
      · rename_i h
        exact .otherFiles fs hf h
  | error e => exact arrival_report rfl (by simp [Answer.kind]) (by simp [Answer.kind])

theorem arrival_takeReceipt (d : Desk) (outcome : Outcome Receipt) :
    Arrival d (.submit outcome) (quiet (d.takeReceipt outcome)) := by
  cases outcome with
  | ok r => exact .receipt r
  | error e =>
    simp only [takeReceipt, report]
    split
    · rename_i he
      subst he
      exact .expiredSubmit
    · rename_i he
      exact .refused he

theorem arrival_takeAnswer (d : Desk) (a : Answer) : Arrival d a (d.takeAnswer a) := by
  cases a with
  | providers outcome => exact arrival_takeProviders d outcome
  | definition outcome => exact arrival_takeTemplate d outcome
  | typeahead field outcome => exact arrival_takeSuggestions d field outcome
  | preview fingerprint outcome => exact arrival_takePreview d fingerprint outcome
  | submit outcome => exact arrival_takeReceipt d outcome

theorem effect_deliver (d : Desk) (c : Completion) : Effect d (.completion c) (d.deliver c) := by
  cases hc : d.inflight.isCurrent c.token with
  | true => simpa [deliver, Inflight.settle, hc] using Effect.deliver hc (arrival_takeAnswer _ c.answer)
  | false => simpa [deliver, Inflight.settle, hc] using Effect.stale hc

/-- Every reaction is one of the effects. -/
theorem effect_react (d : Desk) (e : Event) : Effect d e (d.react e) := by
  cases e with
  | key k clock => exact effect_press d k clock
  | tick clock => exact effect_tick d clock
  | completion c => exact effect_deliver d c

end Desk

end ChangeDesk
