import ChangeDesk.Proofs.Desk.Previewing
import ChangeDesk.Proofs.Picker
import ChangeDesk.Rehearsal

/-!
Nothing is waited for in vain. A kind is pending exactly while one of the awaited jobs of that kind has an
answer that counts, and the list of integrations is loading exactly while it is waited for. No completion asks
for anything, so that with the last awaited job everything that was pending has come in.
-/
namespace ChangeDesk

namespace Registered

variable {t : Inflight} {awaited : List Issued}

/-- An answer of a kind is waited for exactly if that of some awaited job of the kind counts. -/
theorem isPending_iff (h : Registered t awaited) (kind : RequestKind) :
    t.isPending kind = true ↔ ∃ i ∈ awaited, i.token.kind = kind ∧ t.isCurrent i.token = true := by
  constructor
  · intro hp
    obtain ⟨s, hl⟩ := Option.isSome_iff_exists.1 hp
    obtain ⟨i, hi, ht⟩ := h.latest kind s hl
    exact ⟨i, hi, by rw [ht], by simp [ht, Inflight.isCurrent, hl]⟩
  · rintro ⟨i, -, rfl, hc⟩
    rw [Inflight.isPending, Inflight.latest_of_isCurrent hc]
    rfl

theorem hasPending_of_nil (h : Registered t []) : t.hasPending = false := by
  refine List.any_eq_false.2 fun kind _ hp => ?_
  obtain ⟨i, hi, -⟩ := (h.isPending_iff kind).1 hp
  exact absurd hi List.not_mem_nil

end Registered

namespace Desk

variable {d d' : Desk} {r : Reaction} {ev : Event}

/-- The list of integrations is loading exactly while it is waited for. -/
def Loads (d : Desk) : Prop := d.picker.offer = .loading ↔ d.inflight.isPending .providers = true

theorem Glance.offer (h : Glance d d') : d'.picker.offer = d.picker.offer := by cases h <;> rfl

theorem Picked.picker (h : Picked d d') : d'.picker = d.picker := by cases h <;> rfl

namespace Loads

theorem of_eq (h : d.Loads) (ho : d'.picker.offer = d.picker.offer)
    (hl : d'.inflight.latest .providers = d.inflight.latest .providers) : d'.Loads := by
  rw [Loads, Inflight.isPending, ho, hl]
  exact h

theorem of_settled (ho : d.picker.offer ≠ .loading) (hl : d.inflight.latest .providers = none) : d.Loads := by
  simp [Loads, Inflight.isPending, ho, hl]

theorem of_entry (h : d.Loads) (he : Entry d r) : r.1.Loads := by
  cases he with
  | choose => exact h.of_eq (Picker.offer_syncWith _ _) rfl
  | configure | load | review | preview => exact h.of_eq rfl rfl

theorem of_arrival {a : Answer} (h : d.Loads)
    (ha : Arrival { d with inflight := d.inflight.cancel a.kind } a r) (hq : r.1.exit = none) :
    r.1.Loads := by
  cases ha with
  | offer l =>
    refine .of_settled ?_ rfl
    rw [quiet_fst, Picker.offer_syncWith]
    exact Picker.offer_load_ne _ l
  | noOffer => exact .of_settled (by simp [Picker.fail]) rfl
  | template | otherTemplate | suggestions | otherField => exact h.of_eq rfl rfl
  | files | otherFiles | again | refused => exact h.of_eq rfl rfl
  | failure _ hp => exact h.of_eq rfl (if_neg hp.symm)
  | receipt | expired | expiredSubmit => simp [takeReceipt, quit] at hq

end Loads

theorem loads_effect (h : d.Loads) (hk : ∀ c, ev = .completion c → c.token.kind = c.answer.kind)
    (he : Effect d ev r) (hq : r.1.exit = none) : r.1.Loads := by
  cases he with
  | glance hg => exact h.of_eq hg.offer (by rw [quiet_fst, hg.inflight])
  | leave => simp [quit] at hq
  | reload => exact iff_of_true rfl rfl
  | @enter _ _ d₁ draft _ hd hm hr =>
    have hmoved : Loads { d₁ with draft := draft, refusal := none } :=
      h.of_eq (congrArg Picker.offer hd.picker) (congrArg (·.latest .providers) hd.inflight)
    exact hmoved.of_entry hr
  | refuse hd => exact h.of_eq (congrArg Picker.offer hd.picker) (congrArg (·.latest .providers) hd.inflight)
  | confirm _ hw =>
    rw [confirmEdit_eq hw]
    exact h.of_eq rfl rfl
  | submit hb =>
    obtain ⟨session, hs⟩ := submit_of_beginSubmit hb
    rw [hs]
    exact h.of_eq rfl rfl
  | edit | field | accept | acceptNone | openFile | act | close => exact h.of_eq rfl rfl
  | preview | justify | pause | lookup | silence | stale => exact h.of_eq rfl rfl
  | @deliver c _ _ ha =>
    rw [hk c rfl] at ha
    exact h.of_arrival ha hq

end Desk

/-- A list of completions has one answer to each awaited job, in some order. -/
def Answers (completions : List Completion) (awaited : List Issued) : Prop :=
  ∃ backend : Issued → Backend, completions.Perm (awaited.map fun i => (backend i).complete i)

theorem Answers.nil {awaited : List Issued} (h : Answers [] awaited) : awaited = [] := by
  obtain ⟨backend, hperm⟩ := h
  exact List.map_eq_nil_iff.1 hperm.symm.eq_nil

/-- The first completion answers one job, and the rest those that are left. -/
theorem Answers.cons {c : Completion} {rest : List Completion} {awaited : List Issued}
    {t : Inflight} (h : Answers (c :: rest) awaited) (hr : Registered t awaited) :
    (∃ i ∈ awaited, ∃ b : Backend, c = b.complete i) ∧
      Answers rest (awaited.eraseP fun i => i.token == c.token) := by
  obtain ⟨backend, hperm⟩ := h
  obtain ⟨i, hi, rfl⟩ := List.mem_map.1 (hperm.subset List.mem_cons_self)
  obtain ⟨before, behind, rfl⟩ := List.append_of_mem hi
  -- Numbers differ, so the job that is taken off the list is the one that was answered.
  have hothers : ∀ j ∈ before, ¬ (j.token == i.token) = true := by
    intro j hj he
    rw [beq_iff_eq] at he
    have hdistinct := hr.distinct
    rw [List.map_append, List.nodup_append] at hdistinct
    exact hdistinct.2.2 _ (List.mem_map_of_mem hj) _ (List.mem_map_of_mem List.mem_cons_self) (by rw [he])
  refine ⟨⟨i, hi, backend i, rfl⟩, backend, ?_⟩
  have herase : (before ++ i :: behind).eraseP (fun j => j.token == i.token) = before ++ behind := by
    rw [List.eraseP_append_right _ hothers, List.eraseP_cons_of_pos (by simp)]
  have hrest := hperm.trans (List.perm_middle.map fun j => (backend j).complete j)
  change rest.Perm (List.map _ ((before ++ i :: behind).eraseP fun j => j.token == i.token))
  rw [herase]
  exact hrest.cons_inv

namespace Office

variable {session : Session} {delay : Nat} {past : Past} {o : Office}

theorem Run.loads (h : Run session delay past o) (hq : o.desk.exit = none) : o.desk.Loads := by
  induction h with
  | start => exact iff_of_true rfl rfl
  | step h ev he ih =>
    have hbefore := ih (Desk.exit_bearing (h.bearing he) hq)
    exact Desk.loads_effect hbefore (h.kind_eq he) (Desk.effect_react _ ev) hq

/-- The first of the answers to all awaited jobs may come in, and the rest answers what is awaited then. -/
theorem Run.allows_answers (h : Run session delay past o) {c : Completion} {rest : List Completion}
    (ha : Answers (c :: rest) o.awaited) :
    o.Allows (.completion c) ∧ Answers rest (o.step (.completion c)).awaited := by
  obtain ⟨he, hrest⟩ := ha.cons h.registered
  exact ⟨he, h.awaited_completion he ▸ hrest⟩

end Office

namespace Rehearsal

open Office

variable {session : Session} {delay : Nat} {past : Past} {o : Office} {r : Rehearsal}

def deliver (completions : List Completion) (r : Rehearsal) : Rehearsal :=
  completions.foldl (fun r c => r.happen (.completion c)) r

theorem happen_of_issued {ev : Event} (h : (r.desk.react ev).2 = none) :
    r.happen ev = { r with desk := (r.desk.react ev).1 } := by
  simp [happen, follow, h]

/-- A delivery of one of the answers to come makes a step of the office, and nothing is asked for. -/
theorem happen_completion (h : Run session delay past o) (hd : r.desk = o.desk) {c : Completion}
    (he : o.Allows (.completion c)) :
    r.happen (.completion c) = { r with desk := (o.step (.completion c)).desk } := by
  have hissued := h.issued_completion he
  rw [← hd] at hissued
  rw [happen_of_issued hissued, step_desk, hd]

/-- With its answers delivered, an office has nothing left that is awaited. -/
theorem deliver_answers (h : Run session delay past o) (hd : r.desk = o.desk) {cs : List Completion}
    (ha : Answers cs o.awaited) : ∃ past' o', Run session delay past' o' ∧ o'.awaited = [] ∧
      r.deliver cs = { r with desk := o'.desk } := by
  induction cs generalizing past o r with
  | nil => exact ⟨past, o, h, ha.nil, by rw [← hd]; rfl⟩
  | cons c rest ih =>
    obtain ⟨he, hrest⟩ := h.allows_answers ha
    obtain ⟨past', o', hrun, hnil, hfold⟩ :=
      ih (h.step _ he) (r := { r with desk := (o.step (.completion c)).desk }) rfl hrest
    exact ⟨past', o', hrun, hnil, by rw [deliver, List.foldl_cons, happen_completion h hd he]; exact hfold⟩

theorem hasPending_of_answers_nil (h : Run session delay past o) (hd : r.desk = o.desk)
    (ha : Answers [] o.awaited) : r.desk.inflight.hasPending = false := by
  have hregistered := h.registered
  rw [ha.nil, ← hd] at hregistered
  exact hregistered.hasPending_of_nil

/-- The induction is on the number of steps, of which there are as many as queued answers, so that they do not
run out while anything is pending. -/
theorem settleWithin_answers (h : Run session delay past o) (hd : r.desk = o.desk)
    (ha : Answers r.queue o.awaited) {steps : Nat} (hn : r.queue.length ≤ steps) :
    (settleWithin steps r).desk.inflight.hasPending = false := by
  induction steps generalizing past o r with
  | zero =>
    rw [List.eq_nil_of_length_eq_zero (Nat.le_zero.1 hn)] at ha
    exact hasPending_of_answers_nil h hd ha
  | succ steps ih =>
    cases hqueue : r.queue with
    | nil =>
      rw [hqueue] at ha
      rw [settleWithin, hqueue]
      exact hasPending_of_answers_nil h hd ha
    | cons c queue =>
      rw [hqueue] at ha hn
      obtain ⟨he, hrest⟩ := h.allows_answers ha
      simp only [settleWithin, hqueue]
      split
      · rw [happen_completion (r := { r with queue := queue }) h hd he]
        exact ih (h.step _ he) rfl hrest (Nat.le_of_succ_le_succ hn)
      · rename_i hp
        exact Bool.eq_false_iff.2 hp

end Rehearsal

namespace Office

variable {session : Session} {delay : Nat} {past : Past} {o : Office}

/-- A kind is pending exactly if the completion of some awaited job of the kind would count, and then there is
one such job. Until the desk is left, the list of integrations is loading exactly while it is pending. And when
all awaited jobs are answered, in whatever order, the deliveries ask for nothing and leave nothing pending,
whether all of them are made at once or one after another for as long as anything is pending. -/
theorem pending_iff_awaited (h : Run session delay past o) :
    (∀ kind, (o.desk.inflight.isPending kind = true ↔
        ∃ i ∈ o.awaited, i.token.kind = kind ∧ o.desk.inflight.isCurrent i.token = true) ∧
      (o.desk.inflight.isPending kind = true → ∃ i, o.awaited.filter
        (fun i => i.token.kind == kind && o.desk.inflight.isCurrent i.token) = [i])) ∧
    (o.desk.exit = none →
      (o.desk.picker.offer = .loading ↔ o.desk.inflight.isPending .providers = true)) ∧
    ∀ r : Rehearsal, r.desk = o.desk → Answers r.queue o.awaited →
      (∃ d, r.process = { r with desk := d, queue := [] } ∧ d.inflight.hasPending = false) ∧
      r.settle.desk.inflight.hasPending = false := by
  refine ⟨fun kind => ⟨h.registered.isPending_iff kind, fun hp => ?_⟩, h.loads, fun r hd ha => ⟨?_, ?_⟩⟩
  · obtain ⟨s, hl⟩ := Option.isSome_iff_exists.1 hp
    exact h.registered.filter_current hl
  · obtain ⟨past', o', hrun, hnil, hfold⟩ :=
      Rehearsal.deliver_answers h (r := { r with queue := [] }) hd ha
    exact ⟨o'.desk, hfold, (hnil ▸ hrun.registered).hasPending_of_nil⟩
  · exact Rehearsal.settleWithin_answers h hd ha (by omega)

end Office

/-! A list of integrations that is asked for twice, while a template is awaited. -/

namespace Sample

open Office

/-- The list was asked for anew, twice, after the template. -/
def reloading : Office := press (press (press loading (.function 1)) (.char 'r')) (.char 'r')

def rehearsed : Rehearsal where
  desk := reloading.desk
  script := ⟨.ok [], [], [], .ok [], .error (.timeout 30)⟩
  held := []
  queue := reloading.awaited.map backend.complete
  aside := []
  calls := []

theorem reached_reloading : Reached reloading := by
  have hchoosing : Reached choosing := Reached.answer ⟨[], .start⟩ backend
  exact (((hchoosing.press .enter).press (.function 1)).press (.char 'r')).press (.char 'r')

end Sample

namespace Office

theorem pending_iff_awaited_sample : ∃ past, Run .empty 0 past Sample.reloading ∧
    Sample.reloading.desk.exit = none ∧ Sample.reloading.awaited.length = 3 ∧
    Sample.reloading.desk.inflight.isPending .providers = true ∧
    Sample.reloading.desk.picker.offer = .loading ∧
    (∃ i, Sample.reloading.awaited.filter (fun i => i.token.kind == .providers &&
      Sample.reloading.desk.inflight.isCurrent i.token) = [i]) ∧
    Answers Sample.rehearsed.queue Sample.reloading.awaited ∧
    Sample.rehearsed.settle.desk.inflight.hasPending = false := by
  obtain ⟨past, h⟩ := Sample.reached_reloading
  have hpending : Sample.reloading.desk.inflight.isPending .providers = true := rfl
  have hanswers : Answers Sample.rehearsed.queue Sample.reloading.awaited :=
    ⟨fun _ => Sample.backend, .refl _⟩
  obtain ⟨hkinds, hloading, hdelivered⟩ := pending_iff_awaited h
  exact ⟨past, h, rfl, rfl, hpending, (hloading rfl).2 hpending, (hkinds .providers).2 hpending, hanswers,
    (hdelivered Sample.rehearsed rfl hanswers).2⟩

end Office

end ChangeDesk
