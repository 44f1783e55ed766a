import ChangeDesk.Proofs.Desk.Files
import ChangeDesk.Proofs.Desk.Submission

/-!
Only complete requests are submitted: whatever the order of keys, ticks and answers, a submission starts on
review, with the template of its choice, with everything filled in, and with files that were previewed for
its own values.
-/
namespace ChangeDesk

/-- A request that is complete for a template: the template belongs to it, nothing that is asked for is
blank, and there are files. The values asked for are looked up in the form, and those of the configuration
in the request as well. -/
structure ChangeRequest.Complete (request : ChangeRequest) (form : SortedMap Json) (t : Template) :
    Prop where
  provider_eq : t.provider = request.provider
  template_eq : t.templateId = request.subType
  provider : Text.isBlank request.provider = false
  subType : Text.isBlank request.subType = false
  justification : Text.isBlank request.justification = false
  required : ∀ f ∈ t.fields, f.required = true →
    ∃ v, form.get? f.name = some v ∧ v.isBlankValue = false ∧
      (isConfigured f.name = true → request.fields.get? f.name = some v)
  files : request.files ≠ []

namespace Draft

variable {d : Draft}

theorem selection_eq_some {s : Integration} (h : d.selection = some s) :
    d.text providerField = s.provider ∧ d.text subTypeField = s.subType ∧
      Text.isBlank s.provider = false ∧ Text.isBlank s.subType = false := by
  simp only [selection] at h
  split at h
  · simp at h
  · rename_i hblank
    simp only [Option.some.injEq] at h
    subst h
    simpa using hblank

/-- A field that is filled in with a text is not blank. -/
theorem Filled.text_not_blank {name : String} (h : d.Filled name) (ht : d.form.Texts) :
    Text.isBlank (d.text name) = false := by
  obtain ⟨v, hv, hblank⟩ := h
  obtain ⟨s, rfl⟩ := ht.get? hv
  simpa [text, hv, Json.text?, Json.isBlankValue] using hblank

/-- What a sound draft hands out on review is complete. -/
theorem Sound.complete (h : d.Sound) (hs : d.stage = .review) (hv : d.validate .review = .ok ()) :
    ∃ t, d.template = some t ∧ (d.requestWith d.files).Complete d.form t := by
  obtain ⟨t, ht, hconfigured⟩ := h.reviewed hs
  obtain ⟨-, hmissing, hfiles⟩ := validate_eq_ok.1 hv
  have hjust : d.Filled justificationField := missing_eq_nil.1 hmissing _ (by simp [required])
  obtain ⟨hprovider, hsubType, hp, hs'⟩ := selection_eq_some (h.chosen t ht)
  refine ⟨t, ht, hprovider.symm, hsubType.symm, ?_, ?_, hjust.text_not_blank h.texts, ?_, hfiles rfl⟩
  · rw [requestWith, hprovider]
    exact hp
  · rw [requestWith, hsubType]
    exact hs'
  · intro f hf hr
    have hfilled : d.Filled f.name := by
      by_cases hn : f.name = justificationField
      · rw [hn]
        exact hjust
      · exact hconfigured f hf hr hn
    obtain ⟨v, hget, hblank⟩ := hfilled
    refine ⟨v, hget, hblank, fun hc => ?_⟩
    rw [requestWith, configured, SortedMap.get?_filterKeys, if_pos hc, hget]

end Draft

namespace Office

variable {session : Session} {delay : Nat} {past : Past} {o : Office}

/-- Every submitted request is complete, and its files go back to a preview: unless the digests of two
different texts collide, one of the very same values. -/
theorem submitted_complete (h : Run session delay past o) {e : Event} (he : o.Allows e) {token : Token}
    {payload : ChangeRequest} (hi : (o.desk.react e).2 = some ⟨token, .submit payload⟩) :
    o.desk.draft.stage = .review ∧
    (∃ t, o.desk.draft.template = some t ∧ payload.Complete o.desk.draft.form t) ∧
    payload.files = o.desk.draft.files ∧
    ∃ request, FilesFrom request past o ∧
      (¬ Sha256.Collide request.valuesText payload.valuesText → request.provider = payload.provider ∧
        request.subType = payload.subType ∧ request.fields = payload.fields) := by
  obtain ⟨⟨hs, hv, hp⟩, rfl, -⟩ := (h.bearing he).eq_issue hi
  obtain ⟨request, hfrom, hdigest, -⟩ := h.filesFrom (Draft.needsPreview_eq_false.1 hp).2
  refine ⟨hs, h.sound.draft.complete hs hv, rfl, request, hfrom, fun hc => ?_⟩
  have hvalues : request.valuesText = (o.desk.draft.requestWith o.desk.draft.files).valuesText :=
    Sha256.eq_of_ofText_eq hdigest.symm hc
  exact ChangeRequest.eq_of_valuesText_eq hvalues

theorem submitted_complete_sample : ∃ past, Run .empty 0 past Sample.ready ∧
    Sample.ready.Allows Sample.submit ∧
    (Sample.ready.desk.react Sample.submit).2 = some ⟨⟨.submit, 4, 0⟩, .submit Sample.request⟩ ∧
    (∃ t, Sample.ready.desk.draft.template = some t ∧
      Sample.request.Complete Sample.ready.desk.draft.form t) ∧
    ∃ request, FilesFrom request past Sample.ready ∧
      (¬ Sha256.Collide request.valuesText Sample.request.valuesText →
        request.provider = "aws" ∧ request.subType = "s3" ∧ request.fields = Sample.request.fields) := by
  obtain ⟨past, h⟩ := Sample.reached_ready
  have hallows : Sample.ready.Allows Sample.submit := trivial
  obtain ⟨-, hcomplete, -, hfrom⟩ := submitted_complete h hallows Sample.issued_submit
  exact ⟨past, h, hallows, Sample.issued_submit, hcomplete, hfrom⟩

end Office

end ChangeDesk
