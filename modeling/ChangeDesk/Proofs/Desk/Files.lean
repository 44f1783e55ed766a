import ChangeDesk.Proofs.Desk.Jobs
import ChangeDesk.Proofs.Desk.Tokens
import ChangeDesk.Proofs.Draft.Fingerprint

/-!
Where the files of a draft come from: the answer to a preview brings them, confirmed edits replace some of
them, and another choice or an accepted submission drops them. Nothing else touches them.
-/
namespace ChangeDesk

namespace Desk

inductive Refiles (d : Desk) : Event → Desk → Prop where
  | kept {e : Event} {d' : Desk} (hc : d'.draft.choice = d.draft.choice)
      (hf : d'.draft.files = d.draft.files) (hp : d'.draft.previewed = d.draft.previewed) :
      Refiles d e d'
  | dropped {k : Key} {clock : Clock} {d' : Desk} (h : d.draft.Drops d'.draft) :
      Refiles d (.key k clock) d'
  | previewed {c : Completion} {files : List ChangedFile} {d' : Desk}
      (hc : d.inflight.isCurrent c.token = true)
      (ha : c.answer = .preview d.draft.fingerprint (.ok files))
      (hd : d'.draft = { d.draft with files := files, previewed := some d.draft.fingerprint }) :
      Refiles d (.completion c) d'
  | edited {clock : Clock} {e : Editor} {d' : Desk} (he : d.editor = some e)
      (hw : e.readOnly = false)
      (hd : d'.draft = { d.draft with files := Draft.replaceFirst e.confirmed d.draft.files }) :
      Refiles d (.key ⟨.char 's', true⟩ clock) d'
  | accepted {c : Completion} {receipt : Receipt} {d' : Desk}
      (hc : d.inflight.isCurrent c.token = true) (ha : c.answer = .submit (.ok receipt))
      (hd : d'.draft = .new) (hx : d'.exit = some (.submitted receipt)) : Refiles d (.completion c) d'

namespace Refiles

variable {d d' : Desk} {r : Reaction}

theorem of_draft_eq {e : Event} (h : d'.draft = d.draft) : Refiles d e d' := by
  refine .kept ?_ ?_ ?_ <;> rw [h]

theorem of_keeps {e : Event} (h : d.draft.Keeps d'.draft) : Refiles d e d' :=
  .kept h.choice h.files h.previewed

theorem of_keeps_or_drops {k : Key} {clock : Clock}
    (h : d.draft.Keeps d'.draft ∨ d.draft.Drops d'.draft) : Refiles d (.key k clock) d' :=
  h.elim of_keeps .dropped

theorem keeps_or_drops_of_picked (h : Picked d d') :
    d.draft.Keeps d'.draft ∨ d.draft.Drops d'.draft := by
  cases h with
  | none => exact .inl (.refl _)
  | card s hs hc => exact Draft.keeps_or_drops_choose d.draft s

theorem of_arrival {c : Completion} (hc : d.inflight.isCurrent c.token = true) {k : RequestKind}
    (h : Arrival { d with inflight := d.inflight.cancel k } c.answer r) :
    Refiles d (.completion c) r.1 := by
  obtain ⟨token, answer⟩ := c
  cases h with
  | offer | noOffer | otherTemplate | suggestions | otherField => exact .of_draft_eq rfl
  | otherFiles | again | failure | expired => exact .of_draft_eq rfl
  | template | refused | expiredSubmit => exact .kept rfl rfl rfl
  | files fs hf =>
    subst hf
    exact .previewed hc rfl rfl
  | receipt => exact .accepted hc rfl rfl rfl

theorem of_effect {e : Event} (h : Effect d e r) : Refiles d e r.1 := by
  cases h with
  | glance hg => exact .of_draft_eq hg.draft
  | leave | reload | field | acceptNone | openFile | act | close => exact .of_draft_eq rfl
  | preview | lookup | pause | silence | stale => exact .of_draft_eq rfl
  | @enter k clock d₁ draft _ hd hm hr =>
    have hdraft : r.1.draft = draft := hr.draft
    have hpicked := keeps_or_drops_of_picked hd
    refine .of_keeps_or_drops ?_
    rw [hdraft]
    exact hpicked.imp (fun h => h.trans hm.keeps) (fun h => h.keeps hm.keeps)
  | refuse hd =>
    have hpicked := keeps_or_drops_of_picked hd
    exact .of_keeps_or_drops hpicked
  | edit | accept => exact .of_keeps_or_drops (Draft.keeps_or_drops_setText ..)
  | confirm he hw => exact .edited he hw (confirmEdit_draft hw)
  | submit hb =>
    obtain ⟨-, session, he⟩ := submit_of_begun hb
    rw [he]
    exact .kept rfl rfl rfl
  | justify => exact .of_keeps (Draft.keeps_setText_justification ..)
  | deliver hc ha => exact .of_arrival hc ha

end Refiles

end Desk

theorem Backend.answer_eq_preview {b : Backend} {j : Job} {fingerprint : String}
    {outcome : Outcome (List ChangedFile)} (h : b.answer j = .preview fingerprint outcome) :
    ∃ request, j = .preview fingerprint request := by
  cases j with
  | preview fingerprint' request =>
    simp only [answer, Answer.preview.injEq] at h
    exact ⟨request, by rw [h.1]⟩
  | providers | definition | typeahead | submit => simp [answer] at h

namespace Office

/-- The files of the draft go back to the answer to a preview of a request; since it came in, nothing but
confirmed edits has touched them. -/
inductive FilesFrom (request : ChangeRequest) : Past → Office → Prop where
  | previewed {past : Past} {o : Office} {c : Completion} {i : Issued} {fingerprint : String}
      {files : List ChangedFile} (hi : i ∈ o.awaited) (hj : i.job = .preview fingerprint request)
      (ht : c.token = i.token) (ha : c.answer = .preview fingerprint (.ok files))
      (hf : (o.step (.completion c)).desk.draft.files = files) :
      FilesFrom request ((o, .completion c) :: past) (o.step (.completion c))
  | kept {past : Past} {o : Office} {e : Event} (h : FilesFrom request past o)
      (hf : (o.step e).desk.draft.files = o.desk.draft.files) :
      FilesFrom request ((o, e) :: past) (o.step e)
  | edited {past : Past} {o : Office} {clock : Clock} {e : Editor} (h : FilesFrom request past o)
      (he : o.desk.editor = some e) (hw : e.readOnly = false)
      (hf : (o.step (.key ⟨.char 's', true⟩ clock)).desk.draft.files =
        Draft.replaceFirst e.confirmed o.desk.draft.files) :
      FilesFrom request ((o, .key ⟨.char 's', true⟩ clock) :: past)
        (o.step (.key ⟨.char 's', true⟩ clock))

/-- An awaited preview was asked for with the fingerprint of its own values, which are texts. -/
def PreviewsSuit (awaited : List Issued) : Prop :=
  ∀ i ∈ awaited, ∀ fingerprint request, i.job = .preview fingerprint request →
    fingerprint = Sha256.ofText request.valuesText ∧ request.fields.Texts

variable {session : Session} {delay : Nat} {past : Past} {o : Office}

theorem Run.sound (h : Run session delay past o) : o.desk.Sound := by
  induction h with
  | start => exact ⟨.new, fun _ => rfl⟩
  | step h e he ih => exact Desk.sound_effect (h.kind_eq he) ih (Desk.effect_react _ e)

theorem Run.previewsSuit (h : Run session delay past o) : PreviewsSuit o.awaited := by
  induction h with
  | start =>
    intro i hi fingerprint request hj
    obtain rfl : i = ⟨_, .providers⟩ := List.mem_singleton.1 hi
    simp at hj
  | step h e he ih =>
    intro i hi fingerprint request hj
    rcases mem_awaited_step hi with hi | hi
    · have hsuits := Desk.suited_effect (Desk.effect_react _ e) i hi
      rw [hj] at hsuits
      obtain ⟨rfl, rfl⟩ := hsuits
      exact ⟨rfl, ((h.step e he).sound).draft.texts.filterKeys _⟩
    · exact ih i hi fingerprint request hj

/-- Previewed files go back to a preview with the fingerprint that is kept beside them. -/
theorem Run.filesFrom (h : Run session delay past o) {fingerprint : String}
    (hp : o.desk.draft.previewed = some fingerprint) :
    ∃ request, FilesFrom request past o ∧ fingerprint = Sha256.ofText request.valuesText ∧
      request.fields.Texts := by
  induction h with
  | start => simp [Office.start, Desk.start, Desk.loadProviders, Desk.idle, Draft.new] at hp
  | @step past o h e he ih =>
    cases Desk.Refiles.of_effect (Desk.effect_react o.desk e) with
    | kept hc hf hq =>
      obtain ⟨request, hfrom, hrest⟩ := ih (hq ▸ hp)
      exact ⟨request, .kept hfrom hf, hrest⟩
    | dropped hd => simp [hd.previewed] at hp
    | previewed hc ha hd =>
      obtain ⟨i, hi, b, rfl⟩ := he
      obtain ⟨request, hj⟩ := Backend.answer_eq_preview ha
      have hsuit := h.previewsSuit i hi _ request hj
      simp only [step_desk, hd, Option.some.injEq] at hp
      subst hp
      refine ⟨request, .previewed hi hj rfl ha ?_, hsuit⟩
      rw [step_desk, hd]
    | edited heditor hw hd =>
      simp only [step_desk, hd] at hp
      obtain ⟨request, hfrom, hrest⟩ := ih hp
      refine ⟨request, .edited hfrom heditor hw ?_, hrest⟩
      rw [step_desk, hd]
    | accepted hc ha hd hx => simp [hd, Draft.new] at hp

end Office

end ChangeDesk
