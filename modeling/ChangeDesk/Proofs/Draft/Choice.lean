import ChangeDesk.Proofs.Draft.Operations

/-!
What depends on the choice of an integration: entering a text keeps the choice with the template and the
files, or changes the choice and drops them.
-/
namespace ChangeDesk.Draft

variable {d d' : Draft}

def choice (d : Draft) : Option Json × Option Json :=
  (d.form.get? providerField, d.form.get? subTypeField)

/-- The choice stays, and with it everything that depends on it but the fields of the form. -/
structure Keeps (d d' : Draft) : Prop where
  choice : d'.choice = d.choice
  template : d'.template = d.template
  files : d'.files = d.files
  previewed : d'.previewed = d.previewed

structure Drops (d d' : Draft) : Prop where
  choice : d'.choice ≠ d.choice
  template : d'.template = none
  files : d'.files = []
  previewed : d'.previewed = none

theorem Keeps.refl (d : Draft) : d.Keeps d := ⟨rfl, rfl, rfl, rfl⟩

theorem Keeps.trans {d₁ : Draft} (h : d.Keeps d₁) (h' : d₁.Keeps d') : d.Keeps d' :=
  ⟨h'.choice.trans h.choice, h'.template.trans h.template, h'.files.trans h.files,
    h'.previewed.trans h.previewed⟩

theorem Keeps.drops {d₁ : Draft} (h : d.Keeps d₁) (h' : d₁.Drops d') : d.Drops d' :=
  ⟨h.choice ▸ h'.choice, h'.template, h'.files, h'.previewed⟩

theorem Drops.keeps {d₁ : Draft} (h : d.Drops d₁) (h' : d₁.Keeps d') : d.Drops d' :=
  ⟨h'.choice ▸ h.choice, h'.template.trans h.template, h'.files.trans h.files,
    h'.previewed.trans h.previewed⟩

theorem choice_eq (hp : d'.form.get? providerField = d.form.get? providerField)
    (hs : d'.form.get? subTypeField = d.form.get? subTypeField) : d'.choice = d.choice := by
  unfold choice
  rw [hp, hs]

theorem selection_congr (h : d'.choice = d.choice) : d'.selection = d.selection := by
  rw [choice, choice, Prod.mk.injEq] at h
  unfold selection text
  rw [h.1, h.2]

theorem isChoiceField_iff {name : String} :
    isChoiceField name = true ↔ name = providerField ∨ name = subTypeField := by
  simp [isChoiceField]

theorem choice_ne_of_get?_ne {name : String} (hn : isChoiceField name = true)
    (hne : d'.form.get? name ≠ d.form.get? name) : d'.choice ≠ d.choice := by
  intro he
  rw [choice, choice, Prod.mk.injEq] at he
  rcases isChoiceField_iff.1 hn with rfl | rfl
  · exact hne he.1
  · exact hne he.2

/-- Entering the value that a part of the choice has already, or any value elsewhere, keeps the choice. -/
theorem choice_insert {name : String} {v : Json} (hv : isChoiceField name = true → d.form.get? name = some v) :
    choice { d with form := d.form.insert name v } = d.choice := by
  have hkeep : ∀ other, isChoiceField other = true →
      (d.form.insert name v).get? other = d.form.get? other := by
    intro other ho
    rw [SortedMap.get?_insert]
    split
    · rename_i heq
      subst heq
      exact (hv ho).symm
    · rfl
  exact choice_eq (hkeep _ (by decide)) (hkeep _ (by decide))

theorem keeps_or_drops_setText (d : Draft) (name text : String) :
    d.Keeps (d.setText name text) ∨ d.Drops (d.setText name text) := by
  rcases setText_cases d name text with ⟨hn, hv, he⟩ | ⟨hv, he⟩
  · refine .inr ⟨choice_ne_of_get?_ne hn ?_, ?_, ?_, ?_⟩
    · rw [setText, get?_setField_self]
      exact hv.symm
    · rw [he]
      rfl
    · rw [he]
      rfl
    · rw [he]
      rfl
  · rw [he]
    exact .inl ⟨choice_insert hv, rfl, rfl, rfl⟩

/-- Another text in a part of the choice changes the choice. -/
theorem drops_setText {name text : String} (hn : isChoiceField name = true) (ht : text ≠ d.text name) :
    d.Drops (d.setText name text) := by
  refine (keeps_or_drops_setText d name text).resolve_left fun hk => ?_
  refine choice_ne_of_get?_ne hn (fun hsame => ht ?_) hk.choice
  rw [setText, get?_setField_self] at hsame
  rw [Draft.text, ← hsame]
  rfl

/-- Only a part of the choice drops anything. -/
theorem Drops.isChoiceField {name text : String} (h : d.Drops (d.setText name text)) :
    isChoiceField name = true := by
  cases hn : ChangeDesk.isChoiceField name with
  | true => rfl
  | false =>
    have hne : ∀ other, ChangeDesk.isChoiceField other = true → other ≠ name := by
      rintro other ho rfl
      simp [hn] at ho
    exact absurd (choice_eq (get?_setField _ (hne _ rfl) rfl) (get?_setField _ (hne _ rfl) rfl)) h.choice

theorem keeps_setText {name : String} (hn : isChoiceField name = false) (text : String) :
    d.Keeps (d.setText name text) := by
  rcases keeps_or_drops_setText d name text with h | h
  · exact h
  · simp [h.isChoiceField] at hn

theorem keeps_setText_justification (d : Draft) (text : String) :
    d.Keeps (d.setText justificationField text) := keeps_setText (by decide) text

/-- Choosing an integration changes the choice if its provider does. -/
theorem choice_choose_ne {s : Integration}
    (h : (d.setText providerField s.provider).choice ≠ d.choice) : (d.choose s).choice ≠ d.choice := by
  have hprovider : (d.choose s).form.get? providerField =
      (d.setText providerField s.provider).form.get? providerField :=
    get?_setField _ (by decide) (by decide)
  have hsubType : (d.setText providerField s.provider).form.get? subTypeField =
      d.form.get? subTypeField :=
    get?_setField _ (by decide) (by decide)
  intro he
  rw [choice, choice, Prod.mk.injEq, hprovider] at he
  exact h (choice_eq he.1 hsubType)

/-- Choosing an integration keeps everything if it is the one chosen already. -/
theorem keeps_or_drops_choose (d : Draft) (s : Integration) :
    d.Keeps (d.choose s) ∨ d.Drops (d.choose s) := by
  have hsecond := keeps_or_drops_setText (d.setText providerField s.provider) subTypeField s.subType
  rcases keeps_or_drops_setText d providerField s.provider with h | h
  · exact hsecond.imp h.trans h.drops
  · have hchoice := choice_choose_ne h.choice
    rcases hsecond with h' | h'
    · exact .inr ⟨hchoice, h'.template.trans h.template, h'.files.trans h.files,
        h'.previewed.trans h.previewed⟩
    · exact .inr ⟨hchoice, h'.template, h'.files, h'.previewed⟩

theorem Moves.keeps (h : d.Moves d') : d.Keeps d' := by
  rw [h.eq]
  exact ⟨rfl, rfl, rfl, rfl⟩

end ChangeDesk.Draft
