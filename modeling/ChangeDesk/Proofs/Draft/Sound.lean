import ChangeDesk.Proofs.Draft.Choice
import ChangeDesk.Proofs.Json.Strings
import ChangeDesk.Proofs.SortedMap

/-!
What holds of a draft through all stages when only texts are entered: the template belongs to the choice,
and on review everything that the template asks for is filled in. The operations that a desk runs keep it.
-/
namespace ChangeDesk

/-- A form in which every value is a text. -/
def SortedMap.Texts (m : SortedMap Json) : Prop := ∀ e ∈ m.entries, Json.IsText e

namespace SortedMap.Texts

variable {m : SortedMap Json}

theorem empty : Texts .empty := by simp [Texts, SortedMap.empty]

theorem insert (h : m.Texts) (name text : String) : (m.insert name (.string text)).Texts := by
  intro e he
  rcases mem_insertEntry he with rfl | he
  · exact ⟨text, rfl⟩
  · exact h e he

theorem filterKeys (h : m.Texts) (keep : String → Bool) : (m.filterKeys keep).Texts :=
  fun e he => h e (List.mem_filter.1 he).1

theorem get? (h : m.Texts) {name : String} {v : Json} (hv : m.get? name = some v) :
    ∃ s, v = .string s := by
  obtain ⟨before, behind, he, -⟩ := List.lookup_eq_some_iff.1 hv
  exact h (name, v) (by simp [he])

end SortedMap.Texts

namespace Draft

variable {d d' : Draft}

/-- Everything that the template asks for is filled in, but for the justification. -/
def Configured (d : Draft) (t : Template) : Prop :=
  ∀ f ∈ t.fields, f.required = true → f.name ≠ justificationField → d.Filled f.name

/-- The form holds texts, the template is the one of the choice, and a draft on review is configured. -/
structure Sound (d : Draft) : Prop where
  texts : d.form.Texts
  chosen : ∀ t, d.template = some t → d.selection = some ⟨t.provider, t.templateId⟩
  reviewed : d.stage = .review → ∃ t, d.template = some t ∧ d.Configured t

theorem Filled.congr {name : String} (h : d.Filled name)
    (he : d'.form.get? name = d.form.get? name) : d'.Filled name := by
  unfold Filled
  rw [he]
  exact h

theorem configured_of_validate {t : Template} (ht : d.template = some t)
    (h : d.validate .configure = .ok ()) : d.Configured t := by
  intro f hf hr _
  refine missing_eq_nil.1 (validate_eq_ok.1 h).2.1 f.name ?_
  simp only [required, ht, List.mem_map, List.mem_filter]
  exact ⟨f, ⟨hf, hr⟩, rfl⟩

namespace Sound

theorem new : Draft.new.Sound where
  texts := .empty
  chosen := by simp [Draft.new]
  reviewed := by simp [Draft.new]

theorem of_keeps (h : d.Sound) (hk : d.Keeps d') (hs : d'.stage = d.stage) (ht : d'.form.Texts)
    (hf : d.stage = .review → ∀ name, name ≠ justificationField →
      d'.form.get? name = d.form.get? name) : d'.Sound := by
  refine ⟨ht, fun t he => ?_, fun hr => ?_⟩
  · rw [selection_congr hk.choice]
    exact h.chosen t (hk.template ▸ he)
  · rw [hs] at hr
    obtain ⟨t, he, hc⟩ := h.reviewed hr
    refine ⟨t, hk.template.trans he, fun f hmem hreq hne => ?_⟩
    exact (hc f hmem hreq hne).congr (hf hr f.name hne)

theorem of_drops (hd : d.Drops d') (hs : d'.stage ≠ .review) (ht : d'.form.Texts) : d'.Sound :=
  ⟨ht, fun t he => by simp [hd.template] at he, fun hr => absurd hr hs⟩

theorem texts_setText (h : d.Sound) (name text : String) : (d.setText name text).form.Texts := by
  rcases setText_cases d name text with ⟨-, -, he⟩ | ⟨-, he⟩
  · rw [he]
    exact (h.texts.filterKeys _).insert name text
  · rw [he]
    exact h.texts.insert name text

/-- Before the review any text may be entered. -/
theorem setText (h : d.Sound) (name text : String) (hs : d.stage ≠ .review) :
    (d.setText name text).Sound := by
  have hstage : (d.setText name text).stage = d.stage := setField_stage _
  rcases keeps_or_drops_setText d name text with hk | hd
  · exact h.of_keeps hk hstage (h.texts_setText name text) (fun hr => absurd hr hs)
  · exact of_drops hd (hstage ▸ hs) (h.texts_setText name text)

theorem justify (h : d.Sound) (text : String) : (d.setText justificationField text).Sound := by
  refine h.of_keeps (keeps_setText_justification d text) (setField_stage _) (h.texts_setText _ _) ?_
  intro _ name hne
  rcases setText_cases d justificationField text with ⟨hc, -, -⟩ | ⟨-, he⟩
  · exact absurd hc (by decide)
  · rw [he, SortedMap.get?_insert, if_neg hne]

theorem choose (h : d.Sound) (s : Integration) (hs : d.stage = .choose) : (d.choose s).Sound := by
  have hfirst := h.setText providerField s.provider (by simp [hs])
  refine hfirst.setText subTypeField s.subType ?_
  simp [Draft.setText, hs]

theorem moves (h : d.Sound) (hm : d.Moves d') : d'.Sound := by
  obtain ⟨stage, form, template, files, previewed, submitting⟩ := d'
  obtain ⟨rfl, rfl, rfl, rfl, rfl⟩ : form = d.form ∧ template = d.template ∧ files = d.files ∧
      previewed = d.previewed ∧ submitting = d.submitting := by simpa using hm.eq
  refine ⟨h.texts, h.chosen, fun (hr : stage = .review) => ?_⟩
  subst hr
  cases hs : d.stage with
  | review => exact h.reviewed hs
  | choose =>
    obtain ⟨hn, -⟩ := hm.of_index_lt (by simp [hs, Stage.index])
    simp [hs, Stage.next?] at hn
  | configure =>
    obtain ⟨-, hv⟩ := hm.of_index_lt (by simp [hs, Stage.index])
    rw [hs] at hv
    obtain ⟨t, ht⟩ := Option.isSome_iff_exists.1 ((validate_eq_ok.1 hv).1 rfl)
    exact ⟨t, ht, configured_of_validate ht hv⟩

theorem template (h : d.Sound) {t : Template} (ht : d.accepts t = true) (hn : d.template = none) :
    Sound { d with template := some t } where
  texts := h.texts
  chosen := by
    rintro t' ⟨⟩
    exact accepts_iff.1 ht
  reviewed hr := by
    obtain ⟨t', ht', -⟩ := h.reviewed hr
    simp [hn] at ht'

/-- The files and the mark of a submission have no part in it. -/
theorem withFiles (h : d.Sound) (files : List ChangedFile) (previewed : Option String)
    (submitting : Bool) :
    Sound { d with files := files, previewed := previewed, submitting := submitting } :=
  ⟨h.texts, h.chosen, h.reviewed⟩

end Sound

end Draft

end ChangeDesk
