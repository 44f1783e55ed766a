import ChangeDesk.Proofs.Draft.Sound
import ChangeDesk.Proofs.Json.Injective

/-!
What a fingerprint stands for, and what becomes of the values behind it. It is the digest of a text that
determines the values of a request: provider, resource type and configuration. So two drafts have the same
fingerprint exactly if they ask for the same preview, unless two digests collide.
-/
namespace ChangeDesk

def Sha256.Collide (a b : String) : Prop := a ≠ b ∧ ofText a = ofText b

theorem Sha256.eq_of_ofText_eq {a b : String} (h : ofText a = ofText b) (hc : ¬ Collide a b) :
    a = b := Decidable.byContradiction fun hne => hc ⟨hne, h⟩

theorem Json.ofMap_inj {m n : SortedMap Json} : ofMap m = ofMap n ↔ m = n :=
  ⟨fun h => SortedMap.eq_of_entries_eq (Json.object.inj h), fun h => by rw [h]⟩

namespace ChangeRequest

/-- The text of the values that a request is made for. Its digest is the fingerprint of a preview. -/
def valuesText (r : ChangeRequest) : String :=
  (Json.object [("fields", Json.ofMap r.fields), ("provider", .string r.provider),
    ("sub_type", .string r.subType)]).compact

variable {a b : ChangeRequest}

/-- The values of a request are determined by their text. -/
theorem valuesText_eq_iff :
    a.valuesText = b.valuesText ↔ a.provider = b.provider ∧ a.subType = b.subType ∧ a.fields = b.fields := by
  have hvalues : a.valuesText = b.valuesText ↔
      a.fields = b.fields ∧ a.provider = b.provider ∧ a.subType = b.subType := by
    simp [valuesText, Json.compact_inj, Json.ofMap_inj]
  rw [hvalues, and_rotate]

theorem eq_of_valuesText_eq (h : a.valuesText = b.valuesText) :
    a.provider = b.provider ∧ a.subType = b.subType ∧ a.fields = b.fields := valuesText_eq_iff.1 h

/-- The values of a request can be told from their text. -/
theorem values_of_valuesText_eq (h : a.valuesText = b.valuesText) :
    a.provider = b.provider ∧ a.subType = b.subType ∧
      (Json.ofMap a.fields).compact = (Json.ofMap b.fields).compact := by
  obtain ⟨hprovider, hsubType, hfields⟩ := valuesText_eq_iff.1 h
  exact ⟨hprovider, hsubType, by rw [hfields]⟩

/-- Provider, resource type and configuration are the same JSON texts. -/
def SameTexts (a b : ChangeRequest) : Prop :=
  (Json.string a.provider).compact = (Json.string b.provider).compact ∧
    (Json.string a.subType).compact = (Json.string b.subType).compact ∧
      (Json.ofMap a.fields).compact = (Json.ofMap b.fields).compact

/-- Different values never have the same texts. -/
theorem sameTexts_iff :
    a.SameTexts b ↔ a.provider = b.provider ∧ a.subType = b.subType ∧ a.fields = b.fields := by
  simp only [SameTexts, Json.compact_inj, Json.string.injEq, Json.ofMap_inj]

end ChangeRequest

namespace Draft

variable {d d' : Draft}

/-- The fingerprint depends on the choice and on the configuration only. -/
theorem fingerprint_congr (hc : d'.choice = d.choice) (hf : d'.configured = d.configured) :
    d'.fingerprint = d.fingerprint := by
  rw [choice, choice, Prod.mk.injEq] at hc
  unfold fingerprint fingerprintText text
  rw [hc.1, hc.2, hf]

/-- Whether a preview is needed depends on the values as well, on whether there are files, and on what they
were previewed for. -/
theorem needsPreview_congr (hc : d'.choice = d.choice) (hv : d'.configured = d.configured)
    (hp : d'.previewed = d.previewed) (hf : d'.files = [] ↔ d.files = []) :
    d'.needsPreview = d.needsPreview := by
  have hempty : d'.files.isEmpty = d.files.isEmpty := by
    rw [Bool.eq_iff_iff, List.isEmpty_iff, List.isEmpty_iff, hf]
  rw [needsPreview, needsPreview, fingerprint_congr hc hv, hp, hempty]

theorem configured_setText_justification (d : Draft) (text : String) :
    (d.setText justificationField text).configured = d.configured :=
  SortedMap.filterKeys_insert d.form (.string text) (by decide)

theorem applyPreview_fst {fingerprint : String} {files : List ChangedFile} :
    (d.applyPreview fingerprint files).1 = true ↔ fingerprint = d.fingerprint := by
  unfold applyPreview
  split <;> simp_all

theorem fingerprintText_eq (d : Draft) : d.fingerprintText = d.previewRequest.valuesText := rfl

/-- Unless two texts have the same digest, the fingerprints of two drafts are equal exactly if the requests for
their previews have the same texts, and these are the same exactly if the values are. Files that were previewed
for one draft are accepted by the other exactly then. -/
theorem fingerprint_eq_iff (hc : ¬ Sha256.Collide d.fingerprintText d'.fingerprintText) :
    (d.fingerprint = d'.fingerprint ↔ d.previewRequest.SameTexts d'.previewRequest) ∧
    (d.previewRequest.SameTexts d'.previewRequest ↔
      d.text providerField = d'.text providerField ∧ d.text subTypeField = d'.text subTypeField ∧
        d.configured = d'.configured) ∧
    ∀ files, (d.applyPreview d'.fingerprint files).1 = true ↔ d.previewRequest.SameTexts d'.previewRequest := by
  have hdigest : d.fingerprint = d'.fingerprint ↔ d.previewRequest.SameTexts d'.previewRequest := by
    rw [ChangeRequest.sameTexts_iff, ← ChangeRequest.valuesText_eq_iff, ← fingerprintText_eq,
      ← fingerprintText_eq]
    exact ⟨fun h => Sha256.eq_of_ofText_eq h hc, fun h => by rw [fingerprint, h, fingerprint]⟩
  refine ⟨hdigest, ChangeRequest.sameTexts_iff, fun files => ?_⟩
  rw [applyPreview_fst, eq_comm]
  exact hdigest

namespace Sample

/-- A draft in which a number is entered, in an array and under a name with quotes and braces. -/
def entered (n : Number) : Draft := new.setField "\"a\",\x7b1\x7d" (.array [.number n])

def whole : Draft := entered (.integer 1 (by decide))

def floating : Draft := entered (.float ⟨false, 1 <<< 52, -52, by decide⟩)

end Sample

/-- Files for the floating point number are refused where the integer is entered. -/
theorem fingerprint_ne_of_floating :
    Sample.whole.fingerprint ≠ Sample.floating.fingerprint ∧
      ∀ files, (Sample.whole.applyPreview Sample.floating.fingerprint files).1 = false := by
  have hc : ¬ Sha256.Collide Sample.whole.fingerprintText Sample.floating.fingerprintText :=
    fun h => absurd h.2 (by decide +kernel)
  obtain ⟨hdigest, -, haccepts⟩ := fingerprint_eq_iff hc
  have hne : ¬ Sample.whole.previewRequest.SameTexts Sample.floating.previewRequest :=
    fun h => absurd h.2.2 (by decide +kernel)
  exact ⟨fun h => hne (hdigest.1 h), fun files => Bool.eq_false_iff.2 fun h => hne ((haccepts files).1 h)⟩

end Draft

end ChangeDesk

/-!
## Values

The values of the configuration. A text becomes one of them, leaves them alone, or takes them all away: this
is what another value for a part of the choice does.
-/

namespace ChangeDesk

namespace Draft

variable {d d' : Draft} {name text : String}

theorem get?_configured (d : Draft) (name : String) :
    d.configured.get? name = if isConfigured name then d.form.get? name else none :=
  SortedMap.get?_filterKeys d.form isConfigured name

/-- The choice stays with the values of the configuration, or it changes and none of them is left. -/
inductive Carries (d d' : Draft) : Prop where
  | stays (hc : d'.choice = d.choice) (hv : d'.configured = d.configured)
  | turns (hc : d'.choice ≠ d.choice) (hv : d'.configured = .empty)

theorem Carries.congr {d₁ : Draft} (h : d.Carries d₁) (hf : d'.form = d₁.form) : d.Carries d' := by
  have hchoice : d'.choice = d₁.choice := by rw [choice, choice, hf]
  have hvalues : d'.configured = d₁.configured := by rw [configured, configured, hf]
  cases h with
  | stays hc hv => exact .stays (hchoice.trans hc) (hvalues.trans hv)
  | turns hc hv => exact .turns (hchoice ▸ hc) (hvalues.trans hv)

theorem Carries.of_form (h : d'.form = d.form) : d.Carries d' := Carries.congr (.stays rfl rfl) h

theorem configured_clearDependents (d : Draft) : d.clearDependents.configured = .empty := by
  refine SortedMap.eq_of_get?_eq fun k => ?_
  rw [get?_configured, clearDependents, SortedMap.get?_filterKeys]
  cases isConfigured k <;> rfl

/-- A text beside the configuration. -/
theorem carries_setText (hn : isConfigured name = false) (text : String) :
    d.Carries (d.setText name text) := by
  rcases setText_cases d name text with ⟨hc, hv, he⟩ | ⟨hv, he⟩
  · refine .turns (choice_ne_of_get?_ne hc ?_) ?_
    · rw [setText, get?_setField_self]
      exact hv.symm
    · rw [he, configured, SortedMap.filterKeys_insert _ _ hn]
      exact d.configured_clearDependents
  · rw [he]
    exact .stays (choice_insert hv) (SortedMap.filterKeys_insert d.form _ hn)

theorem carries_choose (d : Draft) (s : Integration) : d.Carries (d.choose s) := by
  have hsecond : (d.setText providerField s.provider).Carries (d.choose s) :=
    carries_setText (by decide) s.subType
  have hfirst : d.Carries (d.setText providerField s.provider) := carries_setText (by decide) s.provider
  -- What the first part changes, the second does not change back: it is the other field.
  cases hfirst with
  | stays hc hv =>
    cases hsecond with
    | stays hc' hv' => exact .stays (hc'.trans hc) (hv'.trans hv)
    | turns hc' hv' => exact .turns (hc ▸ hc') hv'
  | turns hc hv =>
    cases hsecond with
    | stays _ hv' => exact .turns (choice_choose_ne hc) (hv'.trans hv)
    | turns _ hv' => exact .turns (choice_choose_ne hc) hv'

theorem isChoiceField_of_isConfigured (hn : isConfigured name = true) : isChoiceField name = false := by
  simp only [isConfigured, Bool.and_eq_true, Bool.not_eq_eq_eq_not, Bool.not_true] at hn
  exact hn.1

/-- A text in the configuration. -/
theorem get?_configured_setText (hn : isConfigured name = true) (text other : String) :
    (d.setText name text).configured.get? other =
      if other = name then some (.string text) else d.configured.get? other := by
  have hset : d.setText name text = { d with form := d.form.insert name (.string text) } := by
    rw [setText, setField, isChoiceField_of_isConfigured hn]
    rfl
  rw [hset, get?_configured, get?_configured, SortedMap.get?_insert]
  by_cases ho : other = name
  · simp [ho, hn]
  · simp [ho]

end Draft

end ChangeDesk
