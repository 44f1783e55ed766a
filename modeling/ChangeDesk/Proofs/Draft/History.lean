import ChangeDesk.Proofs.Draft.Fingerprint
import ChangeDesk.Proofs.Draft.Slots

/-!
Drafts over whole histories. Whatever is done to a draft and in whatever order, a request that it hands out
goes back to one installed preview: of the values of the request, and with its files where they were, each
as the preview brought it or as it was stored last in its place.
-/
namespace ChangeDesk.Draft

variable {d d' : Draft}

inductive Operation where
  | setField (name : String) (v : Json)
  | setTemplate (t : Template)
  | applyPreview (fingerprint : String) (files : List ChangedFile)
  | replaceFile (file : ChangedFile)
  | advance
  | back
  | goTo (stage : Stage)
  | beginSubmit
  | submitFailed
  | submitSucceeded

/-- The draft that a step yields; a refused step leaves it as it was. -/
def unlessRefused (d : Draft) : Except Refusal Draft → Draft
  | .ok d' => d'
  | .error _ => d

def perform (d : Draft) : Operation → Draft
  | .setField name v => d.setField name v
  | .setTemplate t => (d.setTemplate t).2
  | .applyPreview fingerprint files => (d.applyPreview fingerprint files).2
  | .replaceFile file => (d.replaceFile file).2
  | .advance => d.unlessRefused d.advance
  | .back => d.back
  | .goTo stage => d.unlessRefused (d.goTo stage)
  | .beginSubmit => d.unlessRefused (d.beginSubmit.map Prod.snd)
  | .submitFailed => d.submitFailed
  | .submitSucceeded => d.submitSucceeded

/-- What has been done: each operation with the draft it was performed on, last one first. -/
abbrev Past := List (Draft × Operation)

/-- The drafts that come about from a new one, with the past that leads to each. -/
inductive Run : Past → Draft → Prop where
  | new : Run [] new
  | step {past : Past} {d : Draft} (h : Run past d) (op : Operation) :
      Run ((d, op) :: past) (d.perform op)

/-- Whether an operation brings in files or takes them away: a preview of the current values, another value
for a part of the choice, and the end of the draft. -/
def resets (d : Draft) : Operation → Bool
  | .setField name v => isChoiceField name && !d.holds name v
  | .applyPreview fingerprint files => (d.applyPreview fingerprint files).1
  | .submitSucceeded => true
  | _ => false

/-- The file that an operation stores at a position, if any. -/
def storedAt (d : Draft) (i : Nat) : Operation → Option ChangedFile
  | .replaceFile file => if slot? file.path d.files = some i then some file else none
  | _ => none

def SameFiles (d d' : Draft) : Prop := d'.files = d.files ∧ d'.previewed = d.previewed

theorem sameFiles_unlessRefused {r : Except Refusal Draft} (h : ∀ d', r = .ok d' → d.SameFiles d') :
    d.SameFiles (d.unlessRefused r) := by
  cases r with
  | ok d' => exact h d' rfl
  | error _ => exact ⟨rfl, rfl⟩

theorem Moves.sameFiles (h : d.Moves d') : d.SameFiles d' := ⟨h.keeps.files, h.keeps.previewed⟩

/-- A submission sets the mark of a submission, or is refused. -/
theorem unlessRefused_beginSubmit (d : Draft) :
    ∃ submitting, d.unlessRefused (d.beginSubmit.map Prod.snd) = { d with submitting := submitting } := by
  cases hb : d.beginSubmit with
  | error r => exact ⟨d.submitting, rfl⟩
  | ok result =>
    obtain ⟨request, d'⟩ := result
    obtain ⟨-, -, -, -, -, rfl⟩ := beginSubmit_eq_ok.1 hb
    exact ⟨true, rfl⟩

theorem sameFiles_beginSubmit : d.SameFiles (d.unlessRefused (d.beginSubmit.map Prod.snd)) := by
  obtain ⟨submitting, he⟩ := d.unlessRefused_beginSubmit
  rw [he]
  exact ⟨rfl, rfl⟩

/-- An operation that does not reset the files leaves them, or stores one edit among them. -/
theorem perform_cases {op : Operation} (hr : d.resets op = false) :
    (∃ file, op = .replaceFile file ∧
      d.perform op = { d with files := replaceFirst file d.files }) ∨
    ((∀ i, d.storedAt i op = none) ∧ d.SameFiles (d.perform op)) := by
  cases op with
  | setField name v =>
    refine .inr ⟨fun _ => rfl, ?_⟩
    simp only [resets] at hr
    simp [SameFiles, perform, setField, hr]
  | setTemplate t =>
    refine .inr ⟨fun _ => rfl, ?_⟩
    simp only [perform, setTemplate]
    split <;> exact ⟨rfl, rfl⟩
  | applyPreview fingerprint files =>
    refine .inr ⟨fun _ => rfl, ?_⟩
    simp only [resets, applyPreview] at hr
    split at hr
    · simp at hr
    · rename_i hf
      simp [SameFiles, perform, applyPreview, hf]
  | replaceFile file => exact .inl ⟨file, rfl, replaceFile_snd file⟩
  | advance => exact .inr ⟨fun _ => rfl, sameFiles_unlessRefused fun _ h => (Moves.advance h).sameFiles⟩
  | back => exact .inr ⟨fun _ => rfl, Moves.back.sameFiles⟩
  | goTo stage =>
    exact .inr ⟨fun _ => rfl, sameFiles_unlessRefused fun _ h => (Moves.goTo h).sameFiles⟩
  | beginSubmit => exact .inr ⟨fun _ => rfl, sameFiles_beginSubmit⟩
  | submitFailed => exact .inr ⟨fun _ => rfl, rfl, rfl⟩
  | submitSucceeded => simp [resets] at hr

/-- An operation that resets the files installs a preview, or leaves none. -/
theorem perform_of_resets {op : Operation} (hr : d.resets op = true) :
    (∃ fingerprint files, op = .applyPreview fingerprint files ∧
      d.perform op = { d with files := files, previewed := some fingerprint }) ∨
    (d.perform op).files = [] := by
  cases op with
  | setField name v =>
    simp only [resets] at hr
    simp [perform, setField, hr, clearDependents]
  | applyPreview fingerprint files =>
    simp only [resets, applyPreview] at hr
    split at hr
    · rename_i hf
      exact .inl ⟨fingerprint, files, rfl, by simp [perform, applyPreview, hf]⟩
    · simp at hr
  | submitSucceeded => exact .inr rfl
  | setTemplate | replaceFile | advance | back | goTo | beginSubmit | submitFailed => simp [resets] at hr

/-- The last preview that was installed: `files` on the draft `shown`. Since then, neither another preview has
been installed, nor the choice changed, nor the draft come to its end. -/
structure LastPreview (past : Past) (shown : Draft) (fingerprint : String) (files : List ChangedFile)
    (since : Past) : Prop where
  past_eq : ∃ earlier, past = since ++ (shown, .applyPreview fingerprint files) :: earlier
  installed : (shown.applyPreview fingerprint files).1 = true
  last : ∀ p ∈ since, p.1.resets p.2 = false

def lastStored (i : Nat) (past : Past) : Option ChangedFile := past.findSome? (fun p => p.1.storedAt i p.2)

theorem LastPreview.cons {past since : Past} {shown : Draft} {fingerprint : String}
    {files : List ChangedFile} (h : LastPreview past shown fingerprint files since) {op : Operation}
    (hr : d.resets op = false) :
    LastPreview ((d, op) :: past) shown fingerprint files ((d, op) :: since) where
  past_eq := by
    obtain ⟨earlier, rfl⟩ := h.past_eq
    exact ⟨earlier, rfl⟩
  installed := h.installed
  last := List.forall_mem_cons.2 ⟨hr, h.last⟩

/-- Files in a draft are those of the last installed preview, each as it was stored last in its place. -/
theorem Run.lastPreview {past : Past} (h : Run past d) (hf : d.files ≠ []) :
    ∃ shown fingerprint files since, LastPreview past shown fingerprint files since ∧
      d.previewed = some fingerprint ∧ d.files.map ChangedFile.path = files.map ChangedFile.path ∧
      ∀ i, d.files[i]? = (lastStored i since).or files[i]? := by
  induction h with
  | new => exact absurd rfl hf
  | @step past d h op ih =>
    cases hr : d.resets op with
    | true =>
      rcases perform_of_resets hr with ⟨fingerprint, files, rfl, he⟩ | hnil
      · rw [he]
        exact ⟨d, fingerprint, files, [], ⟨⟨past, rfl⟩, hr, by simp⟩, rfl, rfl, fun _ => rfl⟩
      · exact absurd hnil hf
    | false =>
      rcases perform_cases hr with ⟨file, rfl, he⟩ | ⟨hstored, hfiles, hpreviewed⟩
      · rw [he] at hf ⊢
        obtain ⟨shown, fingerprint, files, since, hlast, hp, hpaths, hget⟩ :=
          ih (fun hnil => hf (replaceFirst_eq_nil.2 hnil))
        refine ⟨shown, fingerprint, files, _, hlast.cons hr, hp, ?_, fun i => ?_⟩
        · rw [map_path_replaceFirst, hpaths]
        · rw [getElem?_replaceFirst, lastStored, List.findSome?_cons, storedAt]
          split
          · rfl
          · exact hget i
      · rw [hfiles, hpreviewed]
        obtain ⟨shown, fingerprint, files, since, hlast, hp, hpaths, hget⟩ := ih (hfiles ▸ hf)
        refine ⟨shown, fingerprint, files, _, hlast.cons hr, hp, hpaths, fun i => ?_⟩
        rw [lastStored, List.findSome?_cons, hstored]
        exact hget i

/-- A request that is handed out goes back to the last installed preview, which was made for its values:
unless the digests of two different texts collide, for those with the very same JSON text. The request has
the files of this preview in their order, each as it was brought in or as it was stored last in its place. -/
theorem request_of_lastPreview {past : Past} (h : Run past d) {request : ChangeRequest}
    (hs : d.beginSubmit = .ok (request, d')) :
    ∃ shown fingerprint files since, LastPreview past shown fingerprint files since ∧
      files ≠ [] ∧ fingerprint = d.fingerprint ∧
      (¬ Sha256.Collide shown.fingerprintText request.valuesText →
        request.provider = shown.text providerField ∧ request.subType = shown.text subTypeField ∧
        (Json.ofMap request.fields).compact = (Json.ofMap shown.configured).compact) ∧
      request.files.length = files.length ∧
      request.files.map ChangedFile.path = files.map ChangedFile.path ∧
      ∀ i, request.files[i]? = (lastStored i since).or files[i]? := by
  obtain ⟨-, -, -, hp, rfl, -⟩ := beginSubmit_eq_ok.1 hs
  obtain ⟨hfiles, hpreviewed⟩ := needsPreview_eq_false.1 hp
  obtain ⟨shown, fingerprint, files, since, hlast, hinstalled, hpaths, hget⟩ := h.lastPreview hfiles
  have hfingerprint : fingerprint = d.fingerprint := by
    rw [hinstalled] at hpreviewed
    exact Option.some.inj hpreviewed
  have hlength : d.files.length = files.length := by simpa using congrArg List.length hpaths
  refine ⟨shown, fingerprint, files, since, hlast, ?_, hfingerprint, fun hc => ?_, hlength, hpaths, hget⟩
  · rintro rfl
    exact hfiles (List.length_eq_zero_iff.1 hlength)
  · have hdigest : Sha256.ofText shown.fingerprintText = Sha256.ofText d.fingerprintText :=
      (applyPreview_fst.1 hlast.installed).symm.trans hfingerprint
    exact ChangeRequest.values_of_valuesText_eq (a := d.requestWith d.files) (b := shown.requestWith [])
      (Sha256.eq_of_ofText_eq hdigest hc).symm

/-! One draft from its start to its submission, with one file that is previewed and edited. -/

namespace Sample

def template : Template := ⟨"s3", "aws", none, []⟩

def configuring : Draft :=
  ((((new.perform (.setField providerField (.string "aws"))).perform
    (.setField subTypeField (.string "s3"))).perform
    (.setField justificationField (.string "audit"))).perform (.setTemplate template)).perform .advance

def file : ChangedFile := ⟨"main.tf", none, "", "a", 1⟩

def edited : ChangedFile := { file with body := "b" }

/-- A preview has been installed, its file edited, and the review reached. -/
def ready : Draft :=
  ((configuring.perform (.applyPreview configuring.fingerprint [file])).perform
    (.replaceFile edited)).perform .advance

theorem run_ready : ∃ past, Run past ready :=
  ⟨_, (((((((Run.new.step _).step _).step _).step _).step _).step _).step _).step _⟩

theorem ready_eq : ready = { configuring with
    stage := .review, files := [edited], previewed := some configuring.fingerprint } := by
  have hinstalled : configuring.applyPreview configuring.fingerprint [file] = (true, { configuring with
      files := [file], previewed := some configuring.fingerprint }) := by
    rw [applyPreview, if_pos rfl]
  rw [ready, perform, hinstalled]
  rfl

def request : ChangeRequest := configuring.requestWith [edited]

theorem beginSubmit_ready : ready.beginSubmit = .ok (request, { ready with submitting := true }) := by
  have hfingerprint : ready.fingerprint = configuring.fingerprint := by
    rw [ready_eq]
    exact fingerprint_congr rfl rfl
  have hneeds : ready.needsPreview = false := by
    rw [needsPreview_eq_false, hfingerprint, ready_eq]
    exact ⟨by simp, rfl⟩
  refine beginSubmit_eq_ok.2 ⟨?_, ?_, ?_, hneeds, ?_, rfl⟩ <;> rw [ready_eq] <;> rfl

end Sample

theorem request_of_lastPreview_sample : ∃ past d', Run past Sample.ready ∧
    Sample.ready.beginSubmit = .ok (Sample.request, d') ∧
    ∃ shown fingerprint files since, LastPreview past shown fingerprint files since ∧
      files.map ChangedFile.path = ["main.tf"] ∧
      (lastStored 0 since).or files[0]? = some Sample.edited := by
  obtain ⟨past, h⟩ := Sample.run_ready
  obtain ⟨shown, fingerprint, files, since, hlast, -, -, -, -, hpaths, hget⟩ :=
    request_of_lastPreview h Sample.beginSubmit_ready
  exact ⟨past, _, h, Sample.beginSubmit_ready, shown, fingerprint, files, since, hlast, hpaths.symm,
    (hget 0).symm⟩

end ChangeDesk.Draft
