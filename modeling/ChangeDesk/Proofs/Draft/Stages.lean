import ChangeDesk.Proofs.Draft.Gate

/-!
The stages of a draft over whole histories. A draft gets to a stage only through the ones before it, each left
by a step ahead while it was complete. Going back and forth costs nothing: the moves and the refusals of a
whole sequence of them show in the stage alone, so a review that is come back to is submitted as it would
have been before.
-/
namespace ChangeDesk

namespace Stage

theorem eq_of_index_eq {s t : Stage} (h : s.index = t.index) : s = t := by
  cases s <;> cases t <;> first | rfl | cases h

theorem index_of_next? {s t : Stage} (h : s.next? = some t) : t.index = s.index + 1 := by
  cases s <;> cases h <;> rfl

theorem index_previous (s : Stage) : (s.previous?.getD s).index = s.index - 1 := by
  cases s <;> rfl

theorem isSome_next?_iff {s : Stage} : s.next?.isSome = true ↔ s ≠ .review := by
  cases s <;> simp [next?]

end Stage

namespace Draft

variable {d d' : Draft} {past since : Past} {op : Operation} {s : Stage}

theorem index_back (d : Draft) : d.back.stage.index = d.stage.index - 1 := d.stage.index_previous

/-- Nothing but a step ahead leads to a later stage. -/
theorem index_perform_le (h : op ≠ .advance) : (d.perform op).stage.index ≤ d.stage.index := by
  cases hends : ends op with
  | true =>
    obtain rfl : op = .submitSucceeded := by cases op <;> simp_all [ends]
    exact Nat.zero_le _
  | false =>
    cases hn : op.navigates with
    | false => exact (congrArg Stage.index (stage_perform hn hends)).le
    | true =>
      cases op with
      | advance => exact absurd rfl h
      | back => exact (index_back d).le.trans (Nat.sub_le ..)
      | goTo s =>
        rw [perform]
        rcases Nat.lt_or_ge d.stage.index s.index with hlt | hle
        · rw [goTo_of_lt hlt, unlessRefused]
        · rw [goTo_of_le hle, unlessRefused]
          exact hle
      | _ => cases hn

/-- A step ahead is taken on every stage but the last one, if the stage is complete. -/
theorem exists_advance_iff :
    (∃ d', d.advance = .ok d') ↔ d.stage ≠ .review ∧ d.validate d.stage = .ok () := by
  simp only [advance_eq_ok, ← Stage.isSome_next?_iff, Option.isSome_iff_exists]
  constructor
  · rintro ⟨-, next, hnext, hvalid, -⟩
    exact ⟨⟨next, hnext⟩, hvalid⟩
  · rintro ⟨⟨next, hnext⟩, hvalid⟩
    exact ⟨_, next, hnext, hvalid, rfl⟩

theorem index_perform_advance (h : d.advance = .ok d') :
    (d.perform .advance).stage.index = d.stage.index + 1 := by
  obtain ⟨next, hnext, -, rfl⟩ := advance_eq_ok.1 h
  rw [perform, h, unlessRefused]
  exact Stage.index_of_next? hnext

/-- The stage rises exactly by a step ahead from a stage that is complete and not the last one. -/
theorem index_lt_perform_iff : d.stage.index < (d.perform op).stage.index ↔
    op = .advance ∧ d.stage ≠ .review ∧ d.validate d.stage = .ok () := by
  rw [← exists_advance_iff]
  constructor
  · intro hlt
    obtain rfl : op = .advance := Classical.byContradiction fun h => (index_perform_le h).not_gt hlt
    refine ⟨rfl, ?_⟩
    rw [perform] at hlt
    cases h : d.advance with
    | ok d' => exact ⟨d', rfl⟩
    | error reason => exact absurd (h ▸ hlt) (Nat.lt_irrefl _)
  · rintro ⟨rfl, d', h⟩
    exact (index_perform_advance h).symm ▸ Nat.lt_succ_self _

theorem index_perform_le_succ (d : Draft) (op : Operation) :
    (d.perform op).stage.index ≤ d.stage.index + 1 := by
  rcases Nat.lt_or_ge d.stage.index (d.perform op).stage.index with hlt | hle
  · obtain ⟨rfl, hadvance⟩ := index_lt_perform_iff.1 hlt
    obtain ⟨d', h⟩ := exists_advance_iff.2 hadvance
    exact (index_perform_advance h).le
  · exact hle.trans (Nat.le_succ _)

/-- A stage was left by a step ahead from the draft `left`, in which it was complete; the draft has stood on
later stages since. -/
structure Passed (s : Stage) (past : Past) (left : Draft) (since : Past) : Prop where
  past_eq : ∃ earlier, past = since ++ (left, .advance) :: earlier
  stage : left.stage = s
  complete : left.validate s = .ok ()
  behind : ∀ p ∈ since, s.index < p.1.stage.index

theorem Passed.cons {left : Draft} (h : Passed s past left since) (hs : s.index < d.stage.index) :
    Passed s ((d, op) :: past) left ((d, op) :: since) where
  past_eq := by
    obtain ⟨earlier, rfl⟩ := h.past_eq
    exact ⟨earlier, rfl⟩
  stage := h.stage
  complete := h.complete
  behind := List.forall_mem_cons.2 ⟨hs, h.behind⟩

/-- Every stage before the current one has been passed. -/
theorem Run.passed (h : Run past d) (hs : s.index < d.stage.index) :
    ∃ left since, Passed s past left since := by
  induction h with
  | new => exact absurd hs (Nat.not_lt_zero _)
  | @step past d h op ih =>
    rcases Nat.lt_or_ge s.index d.stage.index with hlt | hle
    · obtain ⟨left, since, hpassed⟩ := ih hlt
      exact ⟨left, _, hpassed.cons hlt⟩
    · -- The operation rose above the stage, which is therefore the one that it left.
      obtain ⟨rfl, -, hvalid⟩ := index_lt_perform_iff.1 (hle.trans_lt hs)
      have hle' : s.index ≤ d.stage.index := Nat.lt_succ_iff.1 (hs.trans_le (index_perform_le_succ d _))
      obtain rfl : d.stage = s := Stage.eq_of_index_eq (hle.antisymm hle')
      exact ⟨d, [], ⟨past, rfl⟩, rfl, hvalid, by simp⟩

def performAll (d : Draft) (ops : List Operation) : Draft := ops.foldl perform d

theorem performAll_cons (d : Draft) (op : Operation) (ops : List Operation) :
    d.performAll (op :: ops) = (d.perform op).performAll ops := rfl

theorem perform_navigates (h : op.navigates = true) :
    d.perform op = { d with stage := (d.perform op).stage } := by
  rcases moves_or_eq_perform h with hm | he
  · exact hm.eq
  · rw [he]

/-- Going back and forth shows in the stage alone. -/
theorem performAll_navigating {ops : List Operation} (h : ∀ op ∈ ops, op.navigates = true) :
    d.performAll ops = { d with stage := (d.performAll ops).stage } := by
  induction ops generalizing d with
  | nil => rfl
  | cons op ops ih =>
    obtain ⟨hop, hops⟩ := List.forall_mem_cons.1 h
    rw [performAll_cons]
    calc (d.perform op).performAll ops
        = { d.perform op with stage := ((d.perform op).performAll ops).stage } := ih hops
      _ = { d with stage := ((d.perform op).performAll ops).stage } := by
        rw [perform_navigates hop]

/-- The gates between the stages. The stage rises by a step ahead only, by one, and exactly if the stage that
is left is complete at that moment; so every stage before the current one was complete when it was left last.
An integration is chosen by setting its two fields. A step back and a way back are never refused, and a way
ahead always is. However often a draft goes back and forth, nothing but its stage changes, and wherever it ends
up it is submitted as after any other way there. -/
theorem stages_gated (h : Run past d) :
    (∀ op, (d.stage.index < (d.perform op).stage.index ↔
        op = .advance ∧ d.stage ≠ .review ∧ d.validate d.stage = .ok ()) ∧
      (d.perform op).stage.index ≤ d.stage.index + 1) ∧
    (∀ i : Integration, d.choose i = d.performAll
      [.setField providerField (.string i.provider), .setField subTypeField (.string i.subType)]) ∧
    (∀ s : Stage, s.index < d.stage.index → ∃ left since, Passed s past left since) ∧
    (d.back = { d with stage := d.back.stage } ∧ d.back.stage.index = d.stage.index - 1) ∧
    (∀ s : Stage, s.index ≤ d.stage.index → d.goTo s = .ok { d with stage := s }) ∧
    (∀ s : Stage, d.stage.index < s.index →
      d.goTo s = .error (.skipAhead s) ∧ d.perform (.goTo s) = d) ∧
    ∀ ops : List Operation, (∀ op ∈ ops, op.navigates = true) →
      d.performAll ops = { d with stage := (d.performAll ops).stage } ∧
      ∀ ops' : List Operation, (∀ op ∈ ops', op.navigates = true) →
        (d.performAll ops).stage = (d.performAll ops').stage →
        (d.performAll ops).beginSubmit = (d.performAll ops').beginSubmit := by
  refine ⟨fun op => ⟨index_lt_perform_iff, index_perform_le_succ d op⟩, fun _ => rfl,
    fun s => h.passed, ⟨rfl, index_back d⟩, fun s => goTo_of_le,
    fun s hs => ⟨goTo_of_lt hs, ?_⟩, fun ops hops => ?_⟩
  · rw [perform, goTo_of_lt hs, unlessRefused]
  · refine ⟨performAll_navigating hops, fun ops' hops' hstage => congrArg beginSubmit ?_⟩
    rw [performAll_navigating hops, performAll_navigating hops', hstage]

/-- The review was reached with one file; it is left twice, once as far as the first stage. -/
theorem stages_gated_sample : ∃ past, Run past Sample.ready ∧
    (∃ left since, Passed .choose past left since) ∧
    Sample.ready.goTo .choose = .ok { Sample.ready with stage := .choose } ∧
    (Sample.ready.performAll
      [.back, .goTo .review, .advance, .goTo .choose, .back, .advance, .advance]).beginSubmit =
      .ok (Sample.request, { Sample.ready with submitting := true }) := by
  obtain ⟨past, h⟩ := Sample.run_ready
  obtain ⟨-, -, hpassed, -, hback, -, hall⟩ := stages_gated h
  have hstage : Sample.ready.stage = .review := by rw [Sample.ready_eq]
  refine ⟨past, h, hpassed .choose (by rw [hstage]; decide), hback .choose (Nat.zero_le _), ?_⟩
  rw [(hall _ (by decide)).2 [] (by simp) ?_]
  · exact Sample.beginSubmit_ready
  · rw [Sample.ready_eq]
    rfl

end Draft

end ChangeDesk
