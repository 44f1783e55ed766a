import ChangeDesk.Proofs.Desk.Viewing

/-!
Which file a confirmed edit replaces. The editor is opened on a position of the list of files, but the edit
is stored at the first file of its path. The two agree unless an earlier file has the same path; nothing
keeps a preview from listing a path twice.
-/
namespace ChangeDesk

structure ChangedFile.SameOrigin (f g : ChangedFile) : Prop where
  path : f.path = g.path
  repository : f.repository = g.repository
  previousBody : f.previousBody = g.previousBody

theorem ChangedFile.SameOrigin.refl (f : ChangedFile) : f.SameOrigin f := ⟨rfl, rfl, rfl⟩

/-- Confirming an edit changes what the file contains, not where it belongs. -/
theorem Editor.confirmed_sameOrigin {e : Editor} {f : ChangedFile} (h : e.file.SameOrigin f) :
    e.confirmed.SameOrigin f := ⟨h.path, h.repository, h.previousBody⟩

namespace Desk

variable {d : Desk} {r : Reaction} {e e' : Editor} {ev : Event}

/-- An editor comes up for the selected file, and the draft stays. -/
theorem opened_effect (h : Effect d ev r) (he : d.editor = none) (he' : r.1.editor = some e') :
    d.draft.files[d.selectedFile]? = some e'.file ∧ r.1.draft = d.draft := by
  have hclosed (hsame : r.1.editor = d.editor) : False := by simp [hsame, he] at he'
  cases h with
  | glance hg => exact (hclosed hg.editor).elim
  | leave | reload | edit | field | accept | acceptNone => exact (hclosed rfl).elim
  | preview | justify | pause | lookup | silence | stale => exact (hclosed rfl).elim
  | enter hd hm hr => simp [hr.editor] at he'
  | refuse hd => exact (hclosed hd.editor).elim
  | openFile readOnly hs hp hf =>
    obtain rfl := Option.some.inj he'
    exact ⟨hf, rfl⟩
  | act a ho => simp [he] at ho
  | confirm ho => simp [he] at ho
  | close => simp at he'
  | submit hb =>
    obtain ⟨session, hreact⟩ := submit_of_beginSubmit hb
    exact (hclosed (by rw [hreact]; rfl)).elim
  | deliver hc hd =>
    rcases hd.editor with hsame | hnone
    · exact (hclosed hsame).elim
    · simp [hnone] at he'

/-- While an editor stays open on a file of the list, the list stays or takes in the confirmed edit. -/
theorem files_of_staying (he : d.editor = some e) (he' : (d.react ev).1.editor = some e')
    (hshows : (d.react ev).1.Shows e') : (d.react ev).1.draft.files = d.draft.files ∨
      (d.react ev).1.draft.files = Draft.replaceFirst e.confirmed d.draft.files := by
  have hnil (hf : (d.react ev).1.draft.files = []) : False := by
    obtain ⟨f, hfile, -⟩ := hshows.file
    simp [hf] at hfile
  cases Refiles.of_effect (effect_react d ev) with
  | kept hc hf hp => exact .inl hf
  | dropped hd => exact (hnil hd.files).elim
  | previewed hc ha hd => simp [react_preview hc ha] at he'
  | edited ho hw hd =>
    obtain rfl := Option.some.inj (ho.symm.trans he)
    exact .inr (by rw [hd])
  | accepted hc ha hd hx => exact (hnil (by rw [hd]; rfl)).elim

theorem Accepts.editor (h : d.Accepts ev) : (d.react ev).1.editor = d.editor := by
  cases h with
  | receipt hc ha => simp [react, deliver, Inflight.settle, hc, ha, takeAnswer, takeReceipt, quit]

end Desk

namespace Office

variable {session : Session} {delay : Nat} {past : Past} {o : Office} {e : Editor} {i : Nat}
  {f : ChangedFile}

/-- An acceptance finds no editor that edits: while a request is under way editors are for reading only. -/
theorem Run.not_accepts (h : Run session delay past o) {ev : Event} (hev : o.Allows ev)
    (he : o.desk.editor = some e) (hw : e.readOnly = false) : ¬ o.desk.Accepts ev := by
  intro haccepts
  have hsubmitting := h.marksPending (h.latest_of_accepts hev haccepts)
  simp [h.locked hsubmitting e he] at hw

/-- Also when the desk was left, an editor that is not for reading only shows the selected file. -/
theorem Run.shows (h : Run session delay past o) (he : o.desk.editor = some e)
    (hw : e.readOnly = false) : o.desk.Shows e := by
  induction h generalizing e with
  | start => cases he
  | @step past o h ev hev ih =>
    have heffect := Desk.effect_react o.desk ev
    rw [step_desk] at he ⊢
    cases hopen : o.desk.editor with
    | none =>
      have hrefuse : ¬ o.desk.Accepts ev := fun ha => by simp [ha.editor, hopen] at he
      exact Desk.attached_effect (.of_closed hopen) heffect hrefuse e he
    | some e₀ =>
      -- What an acceptance would do to the files does not matter: none counts while the editor edits.
      have hw₀ : e₀.readOnly = false := (Desk.Stays.of_effect heffect hopen he).readOnly ▸ hw
      have hattached : o.desk.Attached := by
        intro e₁ he₁
        obtain rfl := Option.some.inj (hopen.symm.trans he₁)
        exact ih hopen hw₀
      exact Desk.attached_effect hattached heffect (h.not_accepts hev hopen hw₀) e he

/-- The open editor was opened on a file, at its position in the list at that time. -/
inductive Editing (i : Nat) (f : ChangedFile) : Past → Office → Prop where
  | opened {past : Past} {o : Office} {ev : Event} (hc : o.desk.editor = none)
      (ho : (o.step ev).desk.editor.isSome) (hi : o.desk.selectedFile = i)
      (hf : o.desk.draft.files[i]? = some f) : Editing i f ((o, ev) :: past) (o.step ev)
  | stays {past : Past} {o : Office} {ev : Event} (h : Editing i f past o)
      (ho : (o.step ev).desk.editor.isSome) : Editing i f ((o, ev) :: past) (o.step ev)

theorem Editing.isSome (h : Editing i f past o) : o.desk.editor.isSome := by
  cases h with
  | opened hc ho => exact ho
  | stays h ho => exact ho

/-- Every open editor was opened on a file. -/
theorem Run.editing (h : Run session delay past o) (he : o.desk.editor.isSome) :
    ∃ i f, Editing i f past o := by
  induction h with
  | start => cases he
  | @step past o h ev hev ih =>
    cases hopen : o.desk.editor with
    | none =>
      obtain ⟨e, he'⟩ := Option.isSome_iff_exists.1 he
      obtain ⟨hf, -⟩ := Desk.opened_effect (Desk.effect_react o.desk ev) hopen he'
      exact ⟨_, _, .opened hopen he rfl hf⟩
    | some e =>
      obtain ⟨i, f, hediting⟩ := ih (by simp [hopen])
      exact ⟨i, f, .stays hediting he⟩

/-- The edited file belongs where the opened one did, and so does the file at the position of that one. -/
structure InPlace (o : Office) (e : Editor) (i : Nat) (f : ChangedFile) : Prop where
  editor : e.file.SameOrigin f
  file : ∃ g, o.desk.draft.files[i]? = some g ∧ g.SameOrigin f

theorem Editing.inPlace (hediting : Editing i f past o) (h : Run session delay past o)
    (he : o.desk.editor = some e) (hw : e.readOnly = false) : o.InPlace e i f := by
  induction hediting generalizing e with
  | @opened past o ev hc ho hi hf =>
    obtain ⟨hfile, hdraft⟩ := Desk.opened_effect (Desk.effect_react o.desk ev) hc he
    rw [hi, hf, Option.some.injEq] at hfile
    subst hfile
    exact ⟨.refl _, e.file, by rw [step_desk, hdraft]; exact hf, .refl _⟩
  | @stays past o ev hediting ho ih =>
    obtain ⟨hr, hev, -⟩ := h.of_cons
    obtain ⟨e₀, hopen⟩ := Option.isSome_iff_exists.1 hediting.isSome
    have hstays := Desk.Stays.of_effect (Desk.effect_react o.desk ev) hopen he
    obtain ⟨hfile₀, g, hg, horigin⟩ := ih hr hopen (hstays.readOnly ▸ hw)
    have hconfirmed := Editor.confirmed_sameOrigin hfile₀
    constructor
    · rcases hstays.file with hsame | ⟨-, -, hstored⟩
      · rwa [hsame]
      · rwa [hstored]
    · rcases Desk.files_of_staying hopen he (h.shows he hw) with hsame | hstored
      · exact ⟨g, by rw [step_desk, hsame]; exact hg, horigin⟩
      · -- The edit may have gone to the file at `i` itself, or to one before it.
        rw [step_desk, hstored, Draft.getElem?_replaceFirst]
        split
        · exact ⟨_, rfl, hconfirmed⟩
        · exact ⟨g, hg, horigin⟩

/-- Ctrl and s in an editor that is not for reading only store the edited file, which belongs where the
opened one did, at the first position of its path and nowhere else. So the edit takes the place of the file
that was opened exactly if no file before it has the same path, or if nothing is changed by the edit. -/
theorem edit_stored_first (h : Run session delay past o) (hediting : Editing i f past o)
    (he : o.desk.editor = some e) (hw : e.readOnly = false) (clock : Clock) :
    e.confirmed.SameOrigin f ∧ e.confirmed.body = e.buffer ∧ i < o.desk.draft.files.length ∧
    ∃ j ≤ i, Draft.slot? f.path o.desk.draft.files = some j ∧
      (o.step (.key ⟨.char 's', true⟩ clock)).desk.draft.files = o.desk.draft.files.set j e.confirmed ∧
      ((o.step (.key ⟨.char 's', true⟩ clock)).desk.draft.files =
          o.desk.draft.files.set i e.confirmed ↔
        (∀ k < i, ∀ g, o.desk.draft.files[k]? = some g → g.path ≠ f.path) ∨
          (o.desk.draft.files[j]? = some e.confirmed ∧
            o.desk.draft.files[i]? = some e.confirmed)) := by
  obtain ⟨hfile, g, hg, horigin⟩ := hediting.inPlace h he hw
  have hconfirmed := Editor.confirmed_sameOrigin hfile
  obtain ⟨hlt, -⟩ := List.getElem?_eq_some_iff.1 hg
  obtain ⟨j, hji, hslot⟩ := Draft.exists_slot?_le hg
  have hfirst := Draft.slot?_eq_some_iff hg
  rw [horigin.path] at hslot hfirst
  have hstored : (o.step (.key ⟨.char 's', true⟩ clock)).desk.draft.files =
      o.desk.draft.files.set j e.confirmed := by
    rw [step_desk, Desk.react_confirm (h.shows he hw).bare he, Desk.confirmEdit_eq hw]
    exact Draft.replaceFirst_eq_set (hconfirmed.path ▸ hslot)
  refine ⟨hconfirmed, rfl, hlt, j, hji, hslot, hstored, ?_⟩
  rw [hstored, Draft.set_eq_set_iff (Nat.lt_of_le_of_lt hji hlt) hlt, ← hfirst, hslot, Option.some.injEq]

end Office

/-! A preview lists a path twice, for two repositories, and the second of the files is edited. -/

namespace Sample

open Office

def second : ChangedFile := ⟨"main.tf", some "two", "", "c", 1⟩

def twins : List ChangedFile := [⟨"main.tf", some "one", "", "b", 1⟩, second]

def twinBackend : Backend := { backend with preview := fun _ => .ok twins }

def listed : Office :=
  { previewed with
    desk := { previewed.desk with draft := { previewed.desk.draft with files := twins } } }

theorem step_reviewing_twins : reviewing.step (answer twinBackend reviewing) = listed :=
  step_reviewing_of fun _ => rfl

def selected : Office := press listed (.char 'j')

def twinOpened : Office := press selected .enter

def twinTyped : Office := press twinOpened (.char 'z')

def twinEditor : Editor := ⟨second, false, "zc", 1⟩

theorem twinOpened_eq : twinOpened = { listed with
    desk := { listed.desk with
      selectedFile := 1, editor := some (.openFile second false), scroll := 0 } } := by
  have hneeds : selected.desk.draft.needsPreview = false :=
    Draft.needsPreview_eq_false.2 ⟨by decide, rfl⟩
  have hreact : selected.desk.react (.key ⟨.enter, false⟩ clock) = Desk.quiet { selected.desk with
      editor := some (.openFile second false), scroll := 0 } :=
    Desk.react_open (.inl rfl) rfl rfl rfl rfl hneeds rfl
  rw [twinOpened, press, step, hreact]
  rfl

theorem twinTyped_eq : twinTyped = { listed with
    desk := { listed.desk with selectedFile := 1, editor := some twinEditor, scroll := 0 } } := by
  rw [twinTyped, twinOpened_eq]
  rfl

theorem editing_twinTyped :
    ∃ past, Run .empty 0 past twinTyped ∧ Editing 1 second past twinTyped := by
  obtain ⟨past, h⟩ := reached_reviewing.answer twinBackend
  rw [step_reviewing_twins] at h
  have hopened : twinOpened.desk.editor.isSome := by rw [twinOpened_eq]; rfl
  have htyped : twinTyped.desk.editor.isSome := by rw [twinTyped_eq]; rfl
  refine ⟨_, ((h.step (.key ⟨.char 'j', false⟩ clock) trivial).step (.key ⟨.enter, false⟩ clock)
    trivial).step (.key ⟨.char 'z', false⟩ clock) trivial, ?_⟩
  exact .stays (.opened rfl hopened rfl rfl) htyped

def confirmKey : Event := .key ⟨.char 's', true⟩ clock

end Sample

namespace Office

theorem edit_stored_first_sample : ∃ past, Run .empty 0 past Sample.twinTyped ∧
    Editing 1 Sample.second past Sample.twinTyped ∧
    Sample.twinTyped.desk.editor = some Sample.twinEditor ∧ Sample.twinEditor.readOnly = false ∧
    (Sample.twinTyped.step Sample.confirmKey).desk.draft.files =
      [Sample.twinEditor.confirmed, Sample.second] := by
  obtain ⟨past, h, hediting⟩ := Sample.editing_twinTyped
  have heditor : Sample.twinTyped.desk.editor = some Sample.twinEditor := by rw [Sample.twinTyped_eq]
  obtain ⟨-, -, -, j, -, hslot, hstored, -⟩ := edit_stored_first h hediting heditor rfl Sample.clock
  have hfiles : Sample.twinTyped.desk.draft.files = Sample.twins := by
    rw [Sample.twinTyped_eq]
    rfl
  rw [hfiles] at hslot hstored
  obtain rfl : 0 = j := Option.some.inj hslot
  exact ⟨past, h, hediting, heditor, rfl, hstored⟩

/-- An edit need not be stored in the place of the file that was opened. -/
theorem edit_stored_elsewhere : ¬ ∀ past o i f e clock, Run .empty 0 past o → Editing i f past o →
    o.desk.editor = some e → e.readOnly = false →
      (o.step (.key ⟨.char 's', true⟩ clock)).desk.draft.files =
        o.desk.draft.files.set i e.confirmed := by
  intro hall
  obtain ⟨past, h, hediting⟩ := Sample.editing_twinTyped
  have heditor : Sample.twinTyped.desk.editor = some Sample.twinEditor := by rw [Sample.twinTyped_eq]
  have hstored := hall _ _ _ _ _ Sample.clock h hediting heditor rfl
  rw [step_desk, Sample.twinTyped_eq, Desk.react_confirm rfl rfl, Desk.confirmEdit_eq rfl] at hstored
  have hsecond : some Sample.second = some Sample.twinEditor.confirmed := congrArg (·[1]?) hstored
  have hbody := congrArg (Option.map ChangedFile.body) hsecond
  exact absurd hbody (by decide)

end Office

end ChangeDesk
