import ChangeDesk.Draft

/-!
What the operations on a draft do: when a check succeeds, what a move or a submission leaves as it was,
and how setting one field shows in the others.
-/
namespace ChangeDesk

inductive Draft.Moves (d : Draft) : Draft → Prop where
  | advance {d' : Draft} (h : d.advance = .ok d') : Moves d d'
  | back : Moves d d.back
  | goTo {stage : Stage} {d' : Draft} (h : d.goTo stage = .ok d') : Moves d d'

namespace Draft

variable {d d' : Draft} {name : String}

/-- A field holds a value that does not count as missing. -/
def Filled (d : Draft) (name : String) : Prop :=
  ∃ v, d.form.get? name = some v ∧ v.isBlankValue = false

theorem missing_eq_nil {stage : Stage} :
    d.missing stage = [] ↔ ∀ name ∈ d.required stage, d.Filled name := by
  rw [missing, List.filter_eq_nil_iff]
  refine forall₂_congr fun name _ => ?_
  unfold Filled
  cases d.form.get? name <;> simp

theorem validate_eq_ok {stage : Stage} :
    d.validate stage = .ok () ↔ (stage = .configure → d.template.isSome) ∧
      d.missing stage = [] ∧ (stage = .review → d.files ≠ []) := by
  unfold validate
  split
  · rename_i h
    simp [h.1, Option.isNone_iff_eq_none.1 h.2]
  · rename_i h
    split
    · rename_i hm
      simp [hm]
    · rename_i hm
      simp only [not_and, Bool.not_eq_true, Option.isNone_eq_false_iff] at h
      split <;> simp_all

theorem advance_eq_ok : d.advance = .ok d' ↔
    ∃ next, d.stage.next? = some next ∧ d.validate d.stage = .ok () ∧ d' = { d with stage := next } := by
  unfold advance
  cases d.stage.next? with
  | none => simp
  | some next =>
    cases h : d.validate d.stage with
    | error r => simp [bind, Except.bind]
    | ok u => simp [bind, Except.bind, pure, Except.pure, eq_comm]

theorem goTo_eq_ok {stage : Stage} :
    d.goTo stage = .ok d' ↔ stage.index ≤ d.stage.index ∧ d' = { d with stage := stage } := by
  unfold goTo
  split
  · simp; omega
  · simp [eq_comm]; omega

theorem goTo_of_le {stage : Stage} (h : stage.index ≤ d.stage.index) :
    d.goTo stage = .ok { d with stage := stage } := goTo_eq_ok.2 ⟨h, rfl⟩

theorem goTo_of_lt {stage : Stage} (h : d.stage.index < stage.index) :
    d.goTo stage = .error (.skipAhead stage) := if_pos h

theorem beginSubmit_eq_ok {request : ChangeRequest} :
    d.beginSubmit = .ok (request, d') ↔ d.stage = .review ∧ d.submitting = false ∧
      d.validate .review = .ok () ∧ d.needsPreview = false ∧ request = d.requestWith d.files ∧
      d' = { d with submitting := true } := by
  unfold beginSubmit
  split
  · rename_i h
    simp [h]
  · rename_i h
    split
    · rename_i hs
      simp [hs]
    · rename_i hs
      cases hv : d.validate .review with
      | error r => simp [bind, Except.bind]
      | ok u =>
        cases hp : d.needsPreview with
        | true => simp [bind, Except.bind, throw, throwThe, MonadExceptOf.throw]
        | false =>
          have hstage : d.stage = .review := Decidable.not_not.1 h
          have hidle : d.submitting = false := by simpa using hs
          simp only [bind, Except.bind, pure, Except.pure, Bool.false_eq_true, ↓reduceIte,
            Except.ok.injEq, Prod.mk.injEq]
          constructor
          · rintro ⟨rfl, rfl⟩
            exact ⟨hstage, hidle, trivial, trivial, rfl, rfl⟩
          · rintro ⟨-, -, -, -, rfl, rfl⟩
            exact ⟨rfl, rfl⟩

theorem needsPreview_eq_false :
    d.needsPreview = false ↔ d.files ≠ [] ∧ d.previewed = some d.fingerprint := by
  simp [needsPreview]

/-- A move changes nothing but the stage. -/
theorem Moves.eq (h : d.Moves d') : d' = { d with stage := d'.stage } := by
  cases h with
  | advance h =>
    obtain ⟨next, -, -, rfl⟩ := advance_eq_ok.1 h
    rfl
  | back => rfl
  | goTo h =>
    obtain ⟨-, rfl⟩ := goTo_eq_ok.1 h
    rfl

theorem Moves.form (h : d.Moves d') : d'.form = d.form := by rw [h.eq]

/-- A move to a later stage is one stage on, from a stage that is complete. -/
theorem Moves.of_index_lt (h : d.Moves d') (hlt : d.stage.index < d'.stage.index) :
    d.stage.next? = some d'.stage ∧ d.validate d.stage = .ok () := by
  cases h with
  | advance h =>
    obtain ⟨next, hn, hv, rfl⟩ := advance_eq_ok.1 h
    exact ⟨hn, hv⟩
  | back =>
    change d.stage.index < (d.stage.previous?.getD d.stage).index at hlt
    cases hs : d.stage <;> simp [hs, Stage.previous?, Stage.index] at hlt
  | goTo h =>
    obtain ⟨hle, rfl⟩ := goTo_eq_ok.1 h
    exact absurd hlt (Nat.not_lt.2 hle)

@[simp] theorem setField_stage (v : Json) : (d.setField name v).stage = d.stage := by
  unfold setField
  split <;> rfl

@[simp] theorem setField_submitting (v : Json) :
    (d.setField name v).submitting = d.submitting := by
  unfold setField
  split <;> rfl

theorem get?_setField_self (v : Json) : (d.setField name v).form.get? name = some v := by
  unfold setField
  simp [SortedMap.get?_insert]

/-- Setting a field leaves the entries that are kept whenever the choice changes. -/
theorem get?_setField (v : Json) {other : String} (hne : other ≠ name)
    (ho : isConfigured other = false) :
    (d.setField name v).form.get? other = d.form.get? other := by
  unfold setField
  split <;> simp [SortedMap.get?_insert, hne, clearDependents, SortedMap.get?_filterKeys, ho]

theorem replaceFirst_of_find?_eq_none {file : ChangedFile} {files : List ChangedFile}
    (h : files.find? (fun f => f.path = file.path) = none) : replaceFirst file files = files := by
  induction files with
  | nil => rfl
  | cons f rest ih =>
    rw [List.find?_cons] at h
    by_cases hp : f.path = file.path
    · simp [hp] at h
    · have hrest : rest.find? (fun f => f.path = file.path) = none := by simpa [hp] using h
      rw [replaceFirst, if_neg hp, ih hrest]

/-- A confirmed edit is taken over in the place of the first file of its path, if there is one. -/
theorem replaceFile_snd (file : ChangedFile) :
    (d.replaceFile file).2 = { d with files := replaceFirst file d.files } := by
  unfold replaceFile
  split
  · rfl
  · rename_i h
    have hnone : d.files.find? (fun f => f.path = file.path) = none := by simpa [file?] using h
    rw [replaceFirst_of_find?_eq_none hnone]

theorem accepts_iff {t : Template} :
    d.accepts t = true ↔ d.selection = some ⟨t.provider, t.templateId⟩ := by
  simp [accepts]

theorem holds_string {text : String} :
    d.holds name (.string text) = true ↔ d.form.get? name = some (.string text) := by
  unfold holds
  cases d.form.get? name with
  | none => simp
  | some w => cases w <;> simp [Json.sameValue]

/-- A field is set in one of two ways: another value for a part of the choice drops what depends on the
choice, and anything else touches only its own entry. -/
theorem setText_cases (d : Draft) (name text : String) :
    (isChoiceField name = true ∧ d.form.get? name ≠ some (.string text) ∧ d.setText name text =
      { d.clearDependents with form := d.clearDependents.form.insert name (.string text) }) ∨
    ((isChoiceField name = true → d.form.get? name = some (.string text)) ∧ d.setText name text =
      { d with form := d.form.insert name (.string text) }) := by
  cases hn : isChoiceField name with
  | false => exact .inr ⟨by simp, by simp [setText, setField, hn]⟩
  | true =>
    cases hv : d.holds name (.string text) with
    | false =>
      refine .inl ⟨rfl, fun he => ?_, by simp [setText, setField, hn, hv]⟩
      simp [holds_string.2 he] at hv
    | true => exact .inr ⟨fun _ => holds_string.1 hv, by simp [setText, setField, hn, hv]⟩

end Draft

end ChangeDesk
