import ChangeDesk.Proofs.Draft.History

/-!
What depends on the choice of an integration, over whole histories. A field of the template, the template
itself and the files go back to operations after the last one that changed the choice; of what was there
before, nothing is left. Only the justification outlasts a change of the choice.
-/
namespace ChangeDesk

namespace Json

mutual

theorem sameValue_refl : ∀ v : Json, v.sameValue v = true
  | .null => rfl
  | .bool b => by simp [sameValue]
  | .number (.integer n h) => by simp [sameValue, Number.sameValue]
  | .number (.float x) => by simp [sameValue, Number.sameValue, Binary64.sameValue]
  | .string s => by simp [sameValue]
  | .array items => sameItems_refl items
  | .object members => sameMembers_refl members

theorem sameItems_refl : ∀ items : List Json, sameItems items items = true
  | [] => rfl
  | v :: rest => by simp [sameItems, sameValue_refl v, sameItems_refl rest]

theorem sameMembers_refl : ∀ members : List (String × Json), sameMembers members members = true
  | [] => rfl
  | (k, v) :: rest => by simp [sameMembers, sameValue_refl v, sameMembers_refl rest]

end

/-- Values that are equal are the same text, or neither of them is a text. -/
theorem text?_of_sameValue {v w : Json} (h : v.sameValue w = true) : w.text? = v.text? := by
  cases v <;> cases w <;> simp_all [sameValue, text?]

end Json

namespace Draft

variable {d : Draft} {past : Past} {name : String} {op : Operation}

/-- Whether two entries of a form hold equal values, or neither is there. -/
def sameEntry : Option Json → Option Json → Bool
  | some v, some w => v.sameValue w
  | none, none => true
  | _, _ => false

def changesChoice (d : Draft) (op : Operation) : Bool :=
  !(sameEntry (d.form.get? providerField) ((d.perform op).form.get? providerField) &&
    sameEntry (d.form.get? subTypeField) ((d.perform op).form.get? subTypeField))

def ends : Operation → Bool
  | .submitSucceeded => true
  | _ => false

/-- Whether an operation leaves nothing of what depended on the choice: another choice, and the end. -/
def startsOver (d : Draft) (op : Operation) : Bool := d.changesChoice op || ends op

/-- What was done since the choice changed last, or since the draft was begun. -/
def sinceChoice (past : Past) : Past := past.takeWhile fun p => !p.1.startsOver p.2

def sinceStart (past : Past) : Past := past.takeWhile fun p => !ends p.2

def entered (name : String) : Operation → Option Json
  | .setField other v => if other = name then some v else none
  | _ => none

def lastEntered (name : String) (past : Past) : Option Json := past.findSome? fun p => entered name p.2

def installed (d : Draft) : Operation → Option Template
  | .setTemplate t => if (d.setTemplate t).1 then some t else none
  | _ => none

def lastInstalled (past : Past) : Option Template := past.findSome? fun p => p.1.installed p.2

theorem sameEntry_refl (entry : Option Json) : sameEntry entry entry = true := by
  cases entry with
  | none => rfl
  | some v => exact v.sameValue_refl

theorem text_congr {d' : Draft} (h : sameEntry (d.form.get? name) (d'.form.get? name) = true) :
    d'.text name = d.text name := by
  unfold text
  cases hd : d.form.get? name with
  | none => cases hd' : d'.form.get? name <;> simp_all [sameEntry]
  | some v =>
    cases hd' : d'.form.get? name with
    | none => simp_all [sameEntry]
    | some w =>
      rw [hd, hd'] at h
      rw [Option.bind_some, Option.bind_some, Json.text?_of_sameValue h]

/-- An operation that leaves the choice as it is leaves the chosen integration. -/
theorem selection_perform (h : d.changesChoice op = false) : (d.perform op).selection = d.selection := by
  simp only [changesChoice, Bool.not_eq_eq_eq_not, Bool.not_false, Bool.and_eq_true] at h
  unfold selection
  rw [text_congr h.1, text_congr h.2]

theorem sameEntry_holds (d : Draft) (name : String) (v : Json) :
    sameEntry (d.form.get? name) (some v) = d.holds name v := by
  unfold sameEntry holds
  cases d.form.get? name <;> rfl

/-- The choice changes exactly where setting a field drops what depends on it. -/
theorem changesChoice_setField (d : Draft) (name : String) (v : Json) :
    d.changesChoice (.setField name v) = (isChoiceField name && !d.holds name v) := by
  have hother : ∀ other, other ≠ name → isConfigured other = false →
      sameEntry (d.form.get? other) ((d.setField name v).form.get? other) = true := by
    intro other hne hc
    rw [get?_setField v hne hc]
    exact sameEntry_refl _
  have hself : sameEntry (d.form.get? name) ((d.setField name v).form.get? name) = d.holds name v := by
    rw [get?_setField_self, sameEntry_holds]
  rw [changesChoice, perform]
  by_cases hp : name = providerField
  · subst hp
    rw [hself, hother subTypeField (by decide) (by decide)]
    simp [isChoiceField]
  · by_cases hs : name = subTypeField
    · subst hs
      rw [hself, hother providerField (by decide) (by decide)]
      simp [isChoiceField]
    · rw [hother providerField (Ne.symm hp) (by decide), hother subTypeField (Ne.symm hs) (by decide)]
      simp [isChoiceField, hp, hs]

def SameEntries (d d' : Draft) : Prop := d'.form = d.form ∧ d'.template = d.template

theorem sameEntries_unlessRefused {r : Except Refusal Draft} (h : ∀ d', r = .ok d' → d.SameEntries d') :
    d.SameEntries (d.unlessRefused r) := by
  cases r with
  | ok d' => exact h d' rfl
  | error _ => exact ⟨rfl, rfl⟩

theorem Moves.sameEntries {d' : Draft} (h : d.Moves d') : d.SameEntries d' := by
  rw [h.eq]
  exact ⟨rfl, rfl⟩

theorem sameEntries_beginSubmit : d.SameEntries (d.unlessRefused (d.beginSubmit.map Prod.snd)) := by
  obtain ⟨submitting, he⟩ := d.unlessRefused_beginSubmit
  rw [he]
  exact ⟨rfl, rfl⟩

/-- What an operation does to the form and the template: only setting a field, installing a template and the
end of the draft touch them. -/
inductive Touches (d : Draft) : Operation → Prop where
  | field (name : String) (v : Json) : Touches d (.setField name v)
  | template (t : Template) : Touches d (.setTemplate t)
  | finish : Touches d .submitSucceeded
  | nothing {op : Operation} (hentered : ∀ name, entered name op = none)
      (hinstalled : d.installed op = none) (hends : ends op = false)
      (hsame : d.SameEntries (d.perform op)) : Touches d op

theorem touches (d : Draft) (op : Operation) : d.Touches op := by
  cases op with
  | setField name v => exact .field name v
  | setTemplate t => exact .template t
  | submitSucceeded => exact .finish
  | back => exact .nothing (fun _ => rfl) rfl rfl Moves.back.sameEntries
  | beginSubmit => exact .nothing (fun _ => rfl) rfl rfl sameEntries_beginSubmit
  | submitFailed => exact .nothing (fun _ => rfl) rfl rfl ⟨rfl, rfl⟩
  | applyPreview fingerprint files =>
    refine .nothing (fun _ => rfl) rfl rfl ?_
    simp only [perform, applyPreview]
    split <;> exact ⟨rfl, rfl⟩
  | replaceFile file =>
    refine .nothing (fun _ => rfl) rfl rfl ?_
    rw [perform, replaceFile_snd]
    exact ⟨rfl, rfl⟩
  | advance =>
    exact .nothing (fun _ => rfl) rfl rfl
      (sameEntries_unlessRefused fun _ h => (Moves.advance h).sameEntries)
  | goTo stage =>
    exact .nothing (fun _ => rfl) rfl rfl
      (sameEntries_unlessRefused fun _ h => (Moves.goTo h).sameEntries)

theorem startsOver_setField (d : Draft) (name : String) (v : Json) :
    d.startsOver (.setField name v) = (isChoiceField name && !d.holds name v) := by
  simp [startsOver, changesChoice_setField, ends]

theorem startsOver_of_form_eq (h : (d.perform op).form = d.form) : d.startsOver op = ends op := by
  simp [startsOver, changesChoice, h, sameEntry_refl]

theorem form_setTemplate (d : Draft) (t : Template) : (d.perform (.setTemplate t)).form = d.form := by
  rw [perform, setTemplate]
  split <;> rfl

/-- The operations that start over, one by one. -/
theorem startsOver_iff : d.startsOver op = true ↔
    (∃ name v, op = .setField name v ∧ isChoiceField name = true ∧ d.holds name v = false) ∨
      op = .submitSucceeded := by
  cases d.touches op with
  | field name v =>
    rw [startsOver_setField, Bool.and_eq_true, Bool.not_eq_true']
    refine ⟨fun h => .inl ⟨name, v, rfl, h⟩, ?_⟩
    rintro (⟨_, _, ⟨⟩, h⟩ | h)
    · exact h
    · cases h
  | template t => simp [startsOver_of_form_eq (d.form_setTemplate t), ends]
  | finish => simp [startsOver, ends]
  | nothing hentered _ hends hsame =>
    rw [startsOver_of_form_eq hsame.1, hends]
    refine iff_of_false (by simp) ?_
    rintro (⟨name, v, rfl, -⟩ | rfl)
    · simp [entered] at hentered
    · cases hends

theorem perform_of_startsOver (h : d.startsOver op = true) :
    (∀ name, isConfigured name = true → (d.perform op).form.get? name = none) ∧
      (d.perform op).template = none ∧ (d.perform op).files = [] := by
  obtain ⟨name, v, rfl, hname, hv⟩ | rfl := startsOver_iff.1 h
  · have hset : d.perform (.setField name v) =
        { d.clearDependents with form := d.clearDependents.form.insert name v } := by
      simp [perform, setField, hname, hv]
    rw [hset]
    refine ⟨fun other hc => ?_, rfl, rfl⟩
    have hne : other ≠ name := by
      rintro rfl
      simp [isConfigured, hname] at hc
    rw [SortedMap.get?_insert, if_neg hne, clearDependents, SortedMap.get?_filterKeys]
    simp [hc]
  · exact ⟨fun _ _ => rfl, rfl, rfl⟩

/-- Any other operation enters one value in the form, installs a template, or leaves both alone. -/
theorem perform_of_not_startsOver (h : d.startsOver op = false) :
    (∀ name, (d.perform op).form.get? name = (entered name op).or (d.form.get? name)) ∧
      (d.perform op).template = (d.installed op).or d.template := by
  cases d.touches op with
  | field name v =>
    rw [startsOver_setField] at h
    have hset : d.perform (.setField name v) = { d with form := d.form.insert name v } := by
      simp [perform, setField, h]
    rw [hset]
    refine ⟨fun other => ?_, rfl⟩
    rw [SortedMap.get?_insert, entered]
    by_cases he : other = name
    · rw [if_pos he, if_pos he.symm, Option.some_or]
    · rw [if_neg he, if_neg (Ne.symm he), Option.none_or]
  | template t =>
    refine ⟨fun _ => by rw [form_setTemplate]; rfl, ?_⟩
    rw [perform, installed, setTemplate]
    split <;> rfl
  | finish => simp [startsOver, ends] at h
  | nothing hentered hinstalled _ hsame =>
    exact ⟨fun name => by rw [hsame.1, hentered, Option.none_or],
      by rw [hsame.2, hinstalled, Option.none_or]⟩

/-- Another choice leaves the justification. -/
theorem get?_perform_justification (h : ends op = false) :
    (d.perform op).form.get? justificationField =
      (entered justificationField op).or (d.form.get? justificationField) := by
  cases hs : d.startsOver op with
  | false => exact (perform_of_not_startsOver hs).1 justificationField
  | true =>
    obtain ⟨name, v, rfl, hname, -⟩ | rfl := startsOver_iff.1 hs
    · have hne : justificationField ≠ name := by
        rintro rfl
        exact absurd hname (by decide)
      rw [perform, get?_setField v hne (by decide), entered, if_neg (Ne.symm hne), Option.none_or]
    · cases h

theorem resets_of_startsOver (h : d.startsOver op = true) : d.resets op = true := by
  obtain ⟨name, v, rfl, hname, hv⟩ | rfl := startsOver_iff.1 h
  · simp [resets, hname, hv]
  · rfl

theorem sinceChoice_cons_of_pos (h : d.startsOver op = true) : sinceChoice ((d, op) :: past) = [] := by
  simp [sinceChoice, h]

theorem sinceChoice_cons_of_neg (h : d.startsOver op = false) :
    sinceChoice ((d, op) :: past) = (d, op) :: sinceChoice past := by
  simp [sinceChoice, h]

theorem lastEntered_cons (name : String) (d : Draft) (op : Operation) (past : Past) :
    lastEntered name ((d, op) :: past) = (entered name op).or (lastEntered name past) := by
  rw [lastEntered, List.findSome?_cons]
  cases entered name op <;> rfl

theorem lastInstalled_cons (d : Draft) (op : Operation) (past : Past) :
    lastInstalled ((d, op) :: past) = (d.installed op).or (lastInstalled past) := by
  rw [lastInstalled, List.findSome?_cons]
  cases d.installed op <;> rfl

/-- The fields of the template are as they were entered after the choice changed last. -/
theorem Run.get?_configured (h : Run past d) (hname : isConfigured name = true) :
    d.form.get? name = lastEntered name (sinceChoice past) := by
  induction h with
  | new => rfl
  | @step past d h op ih =>
    cases hs : d.startsOver op with
    | true =>
      rw [sinceChoice_cons_of_pos hs, (perform_of_startsOver hs).1 name hname]
      rfl
    | false =>
      rw [sinceChoice_cons_of_neg hs, (perform_of_not_startsOver hs).1 name, ih, lastEntered_cons]

/-- The template was installed after the choice changed last. -/
theorem Run.template_eq (h : Run past d) : d.template = lastInstalled (sinceChoice past) := by
  induction h with
  | new => rfl
  | @step past d h op ih =>
    cases hs : d.startsOver op with
    | true =>
      rw [sinceChoice_cons_of_pos hs, (perform_of_startsOver hs).2.1]
      rfl
    | false =>
      rw [sinceChoice_cons_of_neg hs, (perform_of_not_startsOver hs).2, ih, lastInstalled_cons]

/-- The justification is what was entered last since the draft was begun. -/
theorem Run.get?_justification (h : Run past d) :
    d.form.get? justificationField = lastEntered justificationField (sinceStart past) := by
  induction h with
  | new => rfl
  | @step past d h op ih =>
    cases he : ends op with
    | true =>
      obtain rfl : op = .submitSucceeded := by cases op <;> simp_all [ends]
      rfl
    | false =>
      have hsince : sinceStart ((d, op) :: past) = (d, op) :: sinceStart past := by simp [sinceStart, he]
      rw [hsince, get?_perform_justification he, ih, lastEntered_cons]

theorem setTemplate_fst (d : Draft) (t : Template) : (d.setTemplate t).1 = d.accepts t := by
  unfold setTemplate
  cases d.accepts t <;> rfl

theorem accepts_of_installed {t : Template} (h : d.installed op = some t) : d.accepts t = true := by
  cases op with
  | setTemplate t' =>
    rw [installed, setTemplate_fst, Option.ite_none_right_eq_some] at h
    obtain ⟨ha, ht⟩ := h
    exact Option.some.inj ht ▸ ha
  | _ => cases h

/-- The template is the one of the chosen integration. -/
theorem Run.selection_eq (h : Run past d) {t : Template} (ht : d.template = some t) :
    d.selection = some ⟨t.provider, t.templateId⟩ := by
  induction h with
  | new => cases ht
  | @step past d h op ih =>
    cases hs : d.startsOver op with
    | true =>
      rw [(perform_of_startsOver hs).2.1] at ht
      cases ht
    | false =>
      have hchoice : d.changesChoice op = false := (Bool.or_eq_false_iff.1 hs).1
      rw [selection_perform hchoice]
      rw [(perform_of_not_startsOver hs).2] at ht
      cases hi : d.installed op with
      | none => exact ih (by simpa [hi] using ht)
      | some t' =>
        obtain rfl : t' = t := by simpa [hi] using ht
        exact accepts_iff.1 (accepts_of_installed hi)

theorem startsOver_applyPreview (d : Draft) (fingerprint : String) (files : List ChangedFile) :
    d.startsOver (.applyPreview fingerprint files) = false := by
  rw [← Bool.not_eq_true, startsOver_iff]
  simp

/-- The last preview was installed after the choice changed last. -/
theorem LastPreview.sinceChoice {shown : Draft} {fingerprint : String} {files : List ChangedFile}
    {since : Past} (h : LastPreview past shown fingerprint files since) :
    LastPreview (Draft.sinceChoice past) shown fingerprint files since where
  past_eq := by
    obtain ⟨earlier, rfl⟩ := h.past_eq
    have hkeep : ∀ p ∈ since, (!p.1.startsOver p.2) = true := by
      intro p hp
      cases hs : p.1.startsOver p.2 with
      | false => rfl
      | true => exact absurd (resets_of_startsOver hs) (by simp [h.last p hp])
    refine ⟨Draft.sinceChoice earlier, ?_⟩
    rw [Draft.sinceChoice, List.takeWhile_append_of_pos hkeep, ← Draft.sinceChoice,
      sinceChoice_cons_of_neg (shown.startsOver_applyPreview fingerprint files)]
  installed := h.installed
  last := h.last

/-- The template of a draft is the one of the chosen integration. The fields of the template, the template
and the files are what was entered, installed and previewed after the choice changed last. The justification
is what was entered last for it in the whole draft, whatever became of the choice since then. -/
theorem dependents_sinceChoice (h : Run past d) :
    (∀ t, d.template = some t → d.selection = some ⟨t.provider, t.templateId⟩) ∧
      (∀ name, isConfigured name = true →
        d.form.get? name = lastEntered name (sinceChoice past)) ∧
      d.template = lastInstalled (sinceChoice past) ∧
      (d.files ≠ [] → ∃ shown fingerprint files since,
        LastPreview (sinceChoice past) shown fingerprint files since ∧
          d.files.length = files.length ∧ ∀ i, d.files[i]? = (lastStored i since).or files[i]?) ∧
      d.form.get? justificationField = lastEntered justificationField (sinceStart past) := by
  refine ⟨fun t ht => h.selection_eq ht, fun name hname => h.get?_configured hname, h.template_eq,
    fun hf => ?_, h.get?_justification⟩
  obtain ⟨shown, fingerprint, files, since, hlast, -, hpaths, hget⟩ := h.lastPreview hf
  exact ⟨shown, fingerprint, files, since, hlast.sinceChoice, by simpa using congrArg List.length hpaths,
    hget⟩

/-- Choosing an integration is two operations: each of its parts is set. -/
theorem Run.choose (h : Run past d) (s : Integration) : ∃ past', Run past' (d.choose s) :=
  ⟨_, (h.step (.setField providerField (.string s.provider))).step
    (.setField subTypeField (.string s.subType))⟩

/-! A draft whose choice is changed when a field of the first template and the justification are entered. -/

namespace Sample

def first : Draft :=
  (((new.perform (.setField providerField (.string "gcp"))).perform
    (.setField subTypeField (.string "gcs"))).perform
    (.setField "zone" (.string "b"))).perform (.setField justificationField (.string "audit"))

def rechosen : Draft :=
  ((first.perform (.setField providerField (.string "aws"))).perform
    (.setField subTypeField (.string "s3"))).perform (.setTemplate template)

theorem run_rechosen : ∃ past, Run past rechosen ∧ sinceChoice past =
    [((first.perform (.setField providerField (.string "aws"))).perform
      (.setField subTypeField (.string "s3")), .setTemplate template)] :=
  ⟨_, ((((((Run.new.step _).step _).step _).step _).step _).step _).step _, rfl⟩

end Sample

theorem dependents_sinceChoice_sample : ∃ past, Run past Sample.rechosen ∧
    Sample.rechosen.template = some Sample.template ∧
    Sample.rechosen.selection = some ⟨"aws", "s3"⟩ ∧
    Sample.rechosen.form.get? "zone" = none ∧
    Sample.rechosen.form.get? justificationField = some (.string "audit") ∧
    lastEntered justificationField (sinceStart past) = some (.string "audit") := by
  obtain ⟨past, h, hsince⟩ := Sample.run_rechosen
  obtain ⟨hselection, hfields, htemplate, -, hjustification⟩ := dependents_sinceChoice h
  have hinstalled : Sample.rechosen.template = some Sample.template := by
    rw [htemplate, hsince]
    rfl
  have hzone : Sample.rechosen.form.get? "zone" = none := by
    rw [hfields "zone" rfl, hsince]
    rfl
  have haudit : Sample.rechosen.form.get? justificationField = some (.string "audit") := rfl
  exact ⟨past, h, hinstalled, hselection _ hinstalled, hzone, haudit, hjustification ▸ haudit⟩

end Draft

end ChangeDesk
