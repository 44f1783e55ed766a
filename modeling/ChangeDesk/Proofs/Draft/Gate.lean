import ChangeDesk.Proofs.Draft.Dependents

/-!
The check of a stage against the texts that are read off the draft. The check passes any value that is not
empty, and a number or a boolean never is; the chosen integration and the request are read as texts. On review
a request is checked for its justification only. So a part of the choice is blank in a request exactly if
something blank was entered for it since the review was reached.
-/
namespace ChangeDesk.Draft

variable {d d' : Draft} {past : Past} {name : String} {op : Operation}

def HoldsText (d : Draft) (name : String) : Prop := ∃ s, d.form.get? name = some (.string s)

/-- The text of an entry of a form; empty if nothing is there or no text. -/
def entryText (entry : Option Json) : String := (entry.bind Json.text?).getD ""

theorem text_eq_entryText (d : Draft) (name : String) : d.text name = entryText (d.form.get? name) := rfl

/-- A field shows more than blanks if it passes the check and holds a text. -/
theorem text_not_blank_iff :
    Text.isBlank (d.text name) = false ↔ d.Filled name ∧ d.HoldsText name := by
  unfold Filled HoldsText text
  cases d.form.get? name with
  | none => simp [Text.isBlank_empty]
  | some v => cases v <;> simp [Json.text?, Json.isBlankValue, Text.isBlank_empty]

theorem selection_isSome_iff_texts :
    d.selection.isSome = true ↔
      Text.isBlank (d.text providerField) = false ∧ Text.isBlank (d.text subTypeField) = false := by
  simp only [selection]
  split
  · rename_i h
    simpa [Classical.or_iff_not_imp_left] using h
  · rename_i h
    simpa using h

/-- With an integration chosen, neither part of the choice is blank. -/
theorem text_not_blank_of_selection (h : d.selection.isSome = true) (hname : isChoiceField name = true) :
    Text.isBlank (d.text name) = false := by
  obtain ⟨hprovider, hsubType⟩ := selection_isSome_iff_texts.1 h
  rcases isChoiceField_iff.1 hname with rfl | rfl
  · exact hprovider
  · exact hsubType

theorem text_ne_of_selection (h : d.selection.isSome = true) (hname : isChoiceField name = true) :
    d.text name ≠ "" := fun hempty => by
  simpa [hempty, Text.isBlank_empty] using text_not_blank_of_selection h hname

theorem validate_choose_iff :
    d.validate .choose = .ok () ↔ d.Filled providerField ∧ d.Filled subTypeField := by
  rw [validate_eq_ok, missing_eq_nil]
  simp [required]

/-- An integration is chosen if the first stage is complete and both of its fields hold texts. -/
theorem selection_isSome_iff :
    d.selection.isSome = true ↔
      d.validate .choose = .ok () ∧ ∀ name, isChoiceField name = true → d.HoldsText name := by
  rw [selection_isSome_iff_texts, text_not_blank_iff, text_not_blank_iff, validate_choose_iff]
  constructor
  · rintro ⟨⟨hp, hpText⟩, hs, hsText⟩
    refine ⟨⟨hp, hs⟩, fun name hname => ?_⟩
    rcases isChoiceField_iff.1 hname with rfl | rfl
    · exact hpText
    · exact hsText
  · rintro ⟨⟨hp, hs⟩, htext⟩
    exact ⟨⟨hp, htext _ rfl⟩, hs, htext _ rfl⟩

/-- What was done on review since it was reached last. -/
def onReview (past : Past) : Past := past.takeWhile fun p => p.1.stage = .review

theorem onReview_cons_of_pos (h : d.stage = .review) :
    onReview ((d, op) :: past) = (d, op) :: onReview past := by
  simp [onReview, h]

theorem onReview_cons_of_neg (h : d.stage ≠ .review) : onReview ((d, op) :: past) = [] := by
  simp [onReview, h]

def Operation.navigates : Operation → Bool
  | .advance | .back | .goTo _ => true
  | _ => false

theorem moves_or_eq_unlessRefused {r : Except Refusal Draft} (h : ∀ d', r = .ok d' → d.Moves d') :
    d.Moves (d.unlessRefused r) ∨ d.unlessRefused r = d := by
  cases r with
  | ok d' => exact .inl (h d' rfl)
  | error _ => exact .inr rfl

/-- An operation for moving moves, or is refused and changes nothing. -/
theorem moves_or_eq_perform (h : op.navigates = true) : d.Moves (d.perform op) ∨ d.perform op = d := by
  cases op with
  | advance => exact moves_or_eq_unlessRefused fun _ => .advance
  | back => exact .inl .back
  | goTo stage => exact moves_or_eq_unlessRefused fun _ => .goTo
  | _ => cases h

/-- The other operations leave the stage, unless they end the draft. -/
theorem stage_perform (h : op.navigates = false) (hends : ends op = false) :
    (d.perform op).stage = d.stage := by
  cases op with
  | setField name v => exact setField_stage v
  | setTemplate t =>
    simp only [perform, setTemplate]
    split <;> rfl
  | applyPreview fingerprint files =>
    simp only [perform, applyPreview]
    split <;> rfl
  | replaceFile file => rw [perform, replaceFile_snd]
  | beginSubmit =>
    obtain ⟨submitting, he⟩ := d.unlessRefused_beginSubmit
    rw [perform, he]
  | submitFailed => rfl
  | submitSucceeded => cases hends
  | advance | back | goTo => cases h

/-- An operation moves between the stages, or leaves the stage, or ends the draft. -/
theorem moves_or_stage_perform (d : Draft) (op : Operation) :
    d.Moves (d.perform op) ∨ (d.perform op).stage = d.stage ∨ ends op = true := by
  cases hends : ends op with
  | true => exact .inr (.inr rfl)
  | false =>
    cases hn : op.navigates with
    | false => exact .inr (.inl (stage_perform hn hends))
    | true => exact (moves_or_eq_perform hn).imp_right fun he => .inl (congrArg Draft.stage he)

/-- The review is reached from the stage before it, with the template of the chosen integration. -/
theorem Run.selection_reaching (h : Run past d) (hs : d.stage ≠ .review)
    (hreview : (d.perform op).stage = .review) : d.Moves (d.perform op) ∧ d.selection.isSome = true := by
  rcases d.moves_or_stage_perform op with hm | hstage | hends
  · have hlt : d.stage.index < (d.perform op).stage.index := by
      rw [hreview]
      cases hd : d.stage <;> simp_all [Stage.index]
    obtain ⟨hnext, hvalid⟩ := hm.of_index_lt hlt
    have hconfigure : d.stage = .configure := by
      rw [hreview] at hnext
      cases hd : d.stage <;> simp_all [Stage.next?]
    rw [hconfigure] at hvalid
    obtain ⟨t, ht⟩ := Option.isSome_iff_exists.1 ((validate_eq_ok.1 hvalid).1 rfl)
    exact ⟨hm, by rw [h.selection_eq ht, Option.isSome_some]⟩
  · exact absurd (hstage ▸ hreview) hs
  · obtain rfl : op = .submitSucceeded := by cases op <;> simp_all [ends]
    cases hreview

/-- The entries beside the configuration are what was entered last, unless the draft has ended. -/
theorem get?_perform_of_not_configured (hname : isConfigured name = false) (hends : ends op = false) :
    (d.perform op).form.get? name = (entered name op).or (d.form.get? name) := by
  cases d.touches op with
  | field other v =>
    by_cases he : name = other
    · rw [he, perform, get?_setField_self, entered, if_pos rfl, Option.some_or]
    · rw [perform, get?_setField v he hname, entered, if_neg (Ne.symm he), Option.none_or]
  | template t => rw [form_setTemplate]; rfl
  | finish => cases hends
  | nothing hentered _ _ hsame => rw [hsame.1, hentered, Option.none_or]

/-- On review, the parts of the choice are what was entered there last, and before that they are those of a
draft with a chosen integration. -/
theorem Run.choice_onReview (h : Run past d) (hs : d.stage = .review) :
    ∃ reached : Draft, reached.selection.isSome = true ∧ ∀ name, isChoiceField name = true →
      d.form.get? name = (lastEntered name (onReview past)).or (reached.form.get? name) := by
  -- Only the stretch on review counts; it begins where the operation before it was not on review.
  induction h with
  | new => cases hs
  | @step past d h op ih =>
    by_cases hbefore : d.stage = .review
    · obtain ⟨reached, hreached, hentries⟩ := ih hbefore
      refine ⟨reached, hreached, fun name hname => ?_⟩
      have hends : ends op = false := by
        cases op with
        | submitSucceeded => cases hs
        | _ => rfl
      rw [get?_perform_of_not_configured (by simp [isConfigured, hname]) hends, hentries name hname,
        onReview_cons_of_pos hbefore, lastEntered_cons, Option.or_assoc]
    · obtain ⟨hm, hselection⟩ := h.selection_reaching hbefore hs
      refine ⟨d, hselection, fun name _ => ?_⟩
      rw [hm.sameEntries.1, onReview_cons_of_neg hbefore]
      rfl

/-- On review a part of the choice is blank exactly if something blank was entered for it there. -/
theorem Run.text_blank_iff (h : Run past d) (hs : d.stage = .review) (hname : isChoiceField name = true) :
    Text.isBlank (d.text name) = true ↔
      ∃ v, lastEntered name (onReview past) = some v ∧ Text.isBlank (entryText (some v)) = true := by
  obtain ⟨reached, hselection, hentries⟩ := h.choice_onReview hs
  have hreached : Text.isBlank (reached.text name) = false :=
    text_not_blank_of_selection hselection hname
  rw [text_eq_entryText, hentries name hname]
  cases lastEntered name (onReview past) with
  | some v => simp
  | none => simpa [← text_eq_entryText] using hreached

/-- The check and the texts. An integration is chosen exactly if the first stage is complete and its two
fields hold texts. In a request that is handed out, the justification is not blank exactly if its field holds a
text, and a part of the choice is blank exactly if something blank was entered for it on review, since it was
reached last. -/
theorem gate_texts (h : Run past d) :
    (d.selection.isSome = true ↔
      d.validate .choose = .ok () ∧ ∀ name, isChoiceField name = true → d.HoldsText name) ∧
    ∀ request d', d.beginSubmit = .ok (request, d') →
      (Text.isBlank request.justification = false ↔ d.HoldsText justificationField) ∧
      (Text.isBlank request.provider = true ↔ ∃ v,
        lastEntered providerField (onReview past) = some v ∧ Text.isBlank (entryText (some v)) = true) ∧
      (Text.isBlank request.subType = true ↔ ∃ v,
        lastEntered subTypeField (onReview past) = some v ∧ Text.isBlank (entryText (some v)) = true) := by
  refine ⟨selection_isSome_iff, fun request d' hsubmit => ?_⟩
  obtain ⟨hs, -, hvalid, -, rfl, -⟩ := beginSubmit_eq_ok.1 hsubmit
  have hfilled : d.Filled justificationField :=
    missing_eq_nil.1 (validate_eq_ok.1 hvalid).2.1 _ (by simp [required])
  exact ⟨text_not_blank_iff.trans (and_iff_right hfilled), h.text_blank_iff hs rfl,
    h.text_blank_iff hs rfl⟩

/-! A draft whose fields hold booleans where a text is asked for: the choice of the first stage, and on review
the provider and the justification. -/

namespace Sample

/-- A choice that is made of booleans. -/
def marked : Draft :=
  (new.perform (.setField providerField (.bool true))).perform (.setField subTypeField (.bool false))

theorem run_marked : ∃ past, Run past marked := ⟨_, (Run.new.step _).step _⟩

/-- The review is reached; then its provider and its justification are replaced by booleans. -/
def overwritten : Draft :=
  ((configuring.perform .advance).perform (.setField providerField (.bool true))).perform
    (.setField justificationField (.bool false))

def previewed : Draft := overwritten.perform (.applyPreview overwritten.fingerprint [file])

theorem previewed_eq : previewed =
    { overwritten with files := [file], previewed := some overwritten.fingerprint } := by
  rw [previewed, perform, applyPreview, if_pos rfl]

theorem run_previewed : ∃ past, Run past previewed ∧
    lastEntered providerField (onReview past) = some (.bool true) ∧
    lastEntered subTypeField (onReview past) = none := by
  refine ⟨_, ((((((((Run.new.step (.setField providerField (.string "aws"))).step
    (.setField subTypeField (.string "s3"))).step (.setField justificationField (.string "audit"))).step
    (.setTemplate template)).step .advance).step .advance).step (.setField providerField (.bool true))).step
    (.setField justificationField (.bool false))).step
    (.applyPreview overwritten.fingerprint [file]), rfl, rfl⟩

theorem beginSubmit_previewed :
    previewed.beginSubmit = .ok (overwritten.requestWith [file], { previewed with submitting := true }) := by
  have hfingerprint : previewed.fingerprint = overwritten.fingerprint := by
    rw [previewed_eq]
    exact fingerprint_congr rfl rfl
  have hneeds : previewed.needsPreview = false := by
    rw [needsPreview_eq_false, hfingerprint, previewed_eq]
    exact ⟨by simp, rfl⟩
  refine beginSubmit_eq_ok.2 ⟨?_, ?_, ?_, hneeds, ?_, rfl⟩ <;> rw [previewed_eq] <;> rfl

end Sample

theorem gate_texts_sample : ∃ past request d', Run past Sample.previewed ∧
    Sample.previewed.beginSubmit = .ok (request, d') ∧
    Text.isBlank request.provider = true ∧ Text.isBlank request.subType = false ∧
    ¬ Sample.previewed.HoldsText justificationField := by
  obtain ⟨past, h, hprovider, hsubType⟩ := Sample.run_previewed
  obtain ⟨hjustification, hp, hs⟩ := (gate_texts h).2 _ _ Sample.beginSubmit_previewed
  refine ⟨past, _, _, h, Sample.beginSubmit_previewed, hp.2 ⟨_, hprovider, by decide⟩, ?_, fun htext => ?_⟩
  · rw [← Bool.not_eq_true, hs, hsubType]
    simp
  · exact absurd (hjustification.2 htext) (by decide)

/-- The first stage is complete without a chosen integration, and a request without a provider and a
justification is handed out. -/
theorem gate_passes_booleans :
    (∃ past, Run past Sample.marked ∧ Sample.marked.validate .choose = .ok () ∧
      Sample.marked.selection = none) ∧
    ∃ past request d', Run past Sample.previewed ∧ Sample.previewed.beginSubmit = .ok (request, d') ∧
      Text.isBlank request.provider = true ∧ Text.isBlank request.justification = true := by
  obtain ⟨marked, hmarked⟩ := Sample.run_marked
  obtain ⟨past, h, -⟩ := Sample.run_previewed
  exact ⟨⟨marked, hmarked, rfl, by decide⟩,
    past, _, _, h, Sample.beginSubmit_previewed, by decide, by decide⟩

end ChangeDesk.Draft
