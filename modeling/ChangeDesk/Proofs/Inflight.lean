import ChangeDesk.Inflight

/-!
The table of awaited answers over whole histories. Numbers are given out once and in order, so that a token
that has stopped counting never counts again. A token that was issued counts until the first action that
ends the waiting for its answer; actions on other kinds of request make no difference to it.
-/
namespace ChangeDesk.Inflight

variable {t : Inflight} {token : Token}

theorem latest_cancel (kind k : RequestKind) :
    (t.cancel kind).latest k = if k = kind then none else t.latest k := rfl

theorem latest_cancel_eq_none (kind : RequestKind) {k : RequestKind} (h : t.latest k = none) :
    (t.cancel kind).latest k = none := by
  rw [latest_cancel]
  split
  · rfl
  · exact h

theorem cancel_comm (kind k : RequestKind) : (t.cancel kind).cancel k = (t.cancel k).cancel kind := by
  have hlatest : ((t.cancel kind).cancel k).latest = ((t.cancel k).cancel kind).latest := by
    funext x
    simp only [latest_cancel]
    split <;> split <;> rfl
  exact congrArg (Inflight.mk t.lastSeq t.generation) hlatest

theorem latest_issue (kind k : RequestKind) :
    (t.issue kind).2.latest k = if k = kind then some (t.lastSeq + 1) else t.latest k := rfl

/-- What is waited for of a kind: the generation and the number, if there is one. -/
def awaits (t : Inflight) (kind : RequestKind) : Nat × Option Nat := (t.generation, t.latest kind)

theorem isCurrent_iff :
    t.isCurrent token = true ↔ t.awaits token.kind = (token.generation, some token.seq) := by
  simp only [isCurrent, awaits, Bool.and_eq_true, beq_iff_eq, Prod.mk.injEq]
  exact and_congr_left' eq_comm

theorem latest_of_isCurrent (h : t.isCurrent token = true) : t.latest token.kind = some token.seq :=
  congrArg Prod.snd (isCurrent_iff.1 h)

/-- The answer that counts is waited for. -/
theorem latest_ne_of_isCurrent {kind : RequestKind} (h : t.isCurrent token = true)
    (hk : token.kind = kind) : t.latest kind ≠ none := by
  rw [← hk, latest_of_isCurrent h]
  simp

theorem isCurrent_issue (kind : RequestKind) : (t.issue kind).2.isCurrent (t.issue kind).1 = true := by
  simp [isCurrent_iff, awaits, issue, withLatest]

theorem awaits_cancel {kind k : RequestKind} (h : k ≠ kind) : (t.cancel kind).awaits k = t.awaits k := by
  rw [awaits, awaits, latest_cancel, if_neg h]
  rfl

theorem awaits_issue {kind k : RequestKind} (h : k ≠ kind) :
    (t.issue kind).2.awaits k = t.awaits k := by
  rw [awaits, awaits, latest_issue, if_neg h]
  rfl

theorem settle_fst : (t.settle token).1 = t.isCurrent token := by
  unfold settle
  split
  · rename_i h
    exact h.symm
  · rename_i h
    exact (Bool.eq_false_iff.2 h).symm

inductive Action where
  | issue (kind : RequestKind)
  | settle (token : Token)
  | cancel (kind : RequestKind)
  | nextGeneration
deriving DecidableEq, Repr

def act (t : Inflight) : Action → Inflight
  | .issue kind => (t.issue kind).2
  | .settle token => (t.settle token).2
  | .cancel kind => t.cancel kind
  | .nextGeneration => t.nextGeneration

def run (t : Inflight) (actions : List Action) : Inflight := actions.foldl act t

def issued? (t : Inflight) : Action → Option Token
  | .issue kind => some (t.issue kind).1
  | _ => none

def accepted? (t : Inflight) : Action → Option Token
  | .settle token => if (t.settle token).1 then some token else none
  | _ => none

/-- The tokens that a list of actions yields, from the first action to the last. -/
def yields (yield? : Inflight → Action → Option Token) : Inflight → List Action → List Token
  | _, [] => []
  | t, a :: rest => (yield? t a).toList ++ yields yield? (t.act a) rest

def issued (t : Inflight) (actions : List Action) : List Token := yields issued? t actions

def accepted (t : Inflight) (actions : List Action) : List Token := yields accepted? t actions

namespace Action

/-- Whether an action ends the waiting for the answer of a token. -/
def ends (token : Token) : Action → Bool
  | issue kind => kind == token.kind
  | settle other => other == token
  | cancel kind => kind == token.kind
  | nextGeneration => true

def concerns (kind : RequestKind) : Action → Bool
  | issue k => k == kind
  | settle token => token.kind == kind
  | cancel k => k == kind
  | nextGeneration => true

theorem ends_eq_false {a : Action} :
    a.ends token = false ↔ a ≠ issue token.kind ∧ a ≠ cancel token.kind ∧ a ≠ nextGeneration ∧
      a ≠ settle token := by
  cases a <;> simp [ends]

theorem concerns_of_ends {a : Action} (h : a.ends token = true) : a.concerns token.kind = true := by
  cases a with
  | issue kind | cancel kind => exact h
  | settle other =>
    obtain rfl : other = token := by simpa [ends] using h
    simp [concerns]
  | nextGeneration => rfl

/-- What ends the waiting for a token is to be found among the actions on its kind. -/
theorem forall_filter_concerns (token : Token) (actions : List Action) :
    (∀ a ∈ actions.filter (concerns token.kind), a.ends token = false) ↔
      ∀ a ∈ actions, a.ends token = false := by
  refine ⟨fun h a ha => ?_, fun h a ha => h a (List.mem_filter.1 ha).1⟩
  cases he : a.ends token with
  | false => rfl
  | true =>
    have hfalse := h a (List.mem_filter.2 ⟨ha, concerns_of_ends he⟩)
    rwa [he] at hfalse

end Action

theorem lastSeq_settle (token : Token) : (t.settle token).2.lastSeq = t.lastSeq := by
  unfold settle
  split <;> rfl

theorem lastSeq_le_act (t : Inflight) (a : Action) : t.lastSeq ≤ (t.act a).lastSeq := by
  cases a with
  | issue kind => exact Nat.le_succ _
  | settle token => exact Nat.le_of_eq (lastSeq_settle token).symm
  | cancel | nextGeneration => exact Nat.le_refl _

theorem lastSeq_le_run (t : Inflight) (actions : List Action) : t.lastSeq ≤ (t.run actions).lastSeq := by
  induction actions generalizing t with
  | nil => exact Nat.le_refl _
  | cons a rest ih => exact Nat.le_trans (lastSeq_le_act t a) (ih (t.act a))

/-- Two tokens of one kind that both count are the same. -/
theorem eq_of_isCurrent {other : Token} (h : t.isCurrent token = true)
    (ho : t.isCurrent other = true) (hk : other.kind = token.kind) : other = token := by
  obtain ⟨kind, seq, generation⟩ := token
  obtain ⟨kind', seq', generation'⟩ := other
  obtain rfl : kind' = kind := hk
  rw [isCurrent_iff] at h ho
  simp only [h, Prod.mk.injEq, Option.some.injEq] at ho
  rw [← ho.1, ← ho.2]

theorem isCurrent_cancel {kind : RequestKind} :
    (t.cancel kind).isCurrent token = true ↔ t.isCurrent token = true ∧ kind ≠ token.kind := by
  rw [isCurrent_iff, isCurrent_iff]
  by_cases hk : token.kind = kind
  · simp [awaits, latest_cancel, hk]
  · simp [awaits_cancel hk, Ne.symm hk]

/-- One action on a token that was issued: it goes on counting unless the waiting for it ends. -/
theorem isCurrent_act (h : token.seq ≤ t.lastSeq) (a : Action) :
    (t.act a).isCurrent token = true ↔ t.isCurrent token = true ∧ a.ends token = false := by
  cases a with
  | issue kind =>
    rw [act, isCurrent_iff, isCurrent_iff]
    by_cases hk : token.kind = kind
    · -- The new number was not given out before, so the token of an earlier one is superseded.
      have hne : t.lastSeq + 1 ≠ token.seq := by omega
      simp [awaits, latest_issue, hk, hne, Action.ends]
    · simp [awaits_issue hk, Action.ends, Ne.symm hk]
  | settle other =>
    simp only [act, settle]
    split
    · rename_i hc
      rw [isCurrent_cancel]
      refine and_congr_right fun ht => ?_
      rw [Action.ends, beq_eq_false_iff_ne]
      exact not_congr ⟨eq_of_isCurrent ht hc, congrArg Token.kind⟩
    · rename_i hc
      refine (and_iff_left_of_imp fun ht => ?_).symm
      rw [Action.ends, beq_eq_false_iff_ne]
      rintro rfl
      exact hc ht
  | cancel kind => rw [act, isCurrent_cancel, Action.ends, beq_eq_false_iff_ne]
  | nextGeneration => simp [act, nextGeneration, isCurrent, Action.ends]

/-- A token that was issued counts until the waiting for its answer ends, and never again. -/
theorem isCurrent_run (h : token.seq ≤ t.lastSeq) (actions : List Action) :
    (t.run actions).isCurrent token = true ↔
      t.isCurrent token = true ∧ ∀ a ∈ actions, a.ends token = false := by
  induction actions generalizing t with
  | nil => simp [run]
  | cons a rest ih =>
    have hrest := ih (Nat.le_trans h (lastSeq_le_act t a))
    rw [isCurrent_act h] at hrest
    rw [List.forall_mem_cons, ← and_assoc]
    exact hrest

theorem accepted?_eq_some {a : Action} :
    t.accepted? a = some token ↔ a = .settle token ∧ t.isCurrent token = true := by
  cases a with
  | settle other =>
    simp only [accepted?, settle_fst]
    split
    · rename_i hc
      simp only [Option.some.injEq, Action.settle.injEq]
      exact ⟨fun he => ⟨he, he ▸ hc⟩, And.left⟩
    · rename_i hc
      simp only [reduceCtorEq, Action.settle.injEq, false_iff, not_and]
      rintro rfl
      exact hc
  | issue | cancel | nextGeneration => simp [accepted?]

theorem mem_accepted_cons {a : Action} {rest : List Action} :
    token ∈ t.accepted (a :: rest) ↔
      (a = .settle token ∧ t.isCurrent token = true) ∨ token ∈ (t.act a).accepted rest := by
  simp [accepted, yields, accepted?_eq_some]

/-- Without a supersession, a cancelling or a new generation, only an accepted answer ends the waiting. -/
theorem forall_ends_eq_false_iff (h : token.seq ≤ t.lastSeq) (hc : t.isCurrent token = true)
    (actions : List Action) :
    (∀ a ∈ actions, a.ends token = false) ↔
      .issue token.kind ∉ actions ∧ .cancel token.kind ∉ actions ∧ .nextGeneration ∉ actions ∧
        token ∉ t.accepted actions := by
  induction actions generalizing t with
  | nil => simp [accepted, yields]
  | cons a rest ih =>
    have hrest (he : a.ends token = false) :=
      ih (Nat.le_trans h (lastSeq_le_act t a)) ((isCurrent_act h a).2 ⟨hc, he⟩)
    rw [List.forall_mem_cons]
    simp only [List.mem_cons, mem_accepted_cons, hc, and_true, not_or]
    constructor
    · rintro ⟨he, hall⟩
      obtain ⟨hi, hk, hn, hs⟩ := Action.ends_eq_false.1 he
      obtain ⟨hri, hrk, hrn, hrs⟩ := (hrest he).1 hall
      exact ⟨⟨hi.symm, hri⟩, ⟨hk.symm, hrk⟩, ⟨hn.symm, hrn⟩, hs, hrs⟩
    · rintro ⟨⟨hi, hri⟩, ⟨hk, hrk⟩, ⟨hn, hrn⟩, hs, hrs⟩
      have he := Action.ends_eq_false.2 ⟨Ne.symm hi, Ne.symm hk, Ne.symm hn, hs⟩
      exact ⟨he, (hrest he).2 ⟨hri, hrk, hrn, hrs⟩⟩

/-- The numbers waited for are among those given out. -/
def Numbered (t : Inflight) : Prop := ∀ k s, t.latest k = some s → s ≤ t.lastSeq

theorem numbered_new : Numbered new := by
  intro k s hk
  simp [new] at hk

theorem Numbered.cancel (h : t.Numbered) (kind : RequestKind) : (t.cancel kind).Numbered := by
  intro k s hk
  rw [latest_cancel] at hk
  split at hk
  · simp at hk
  · exact h k s hk

theorem Numbered.act (h : t.Numbered) (a : Action) : (t.act a).Numbered := by
  cases a with
  | issue kind =>
    intro k s hk
    rw [Inflight.act, latest_issue] at hk
    split at hk
    · exact Nat.le_of_eq (Option.some.inj hk).symm
    · exact Nat.le_succ_of_le (h k s hk)
  | settle other =>
    simp only [Inflight.act, settle]
    split
    · exact h.cancel other.kind
    · exact h
  | cancel kind => exact h.cancel kind
  | nextGeneration =>
    intro k s hk
    simp [Inflight.act, nextGeneration] at hk

theorem Numbered.seq_le (h : t.Numbered) (hc : t.isCurrent token = true) : token.seq ≤ t.lastSeq := by
  rw [isCurrent_iff, awaits, Prod.mk.injEq] at hc
  exact h token.kind token.seq hc.2

theorem not_mem_accepted (h : token.seq ≤ t.lastSeq) (hc : t.isCurrent token = false)
    (actions : List Action) : token ∉ t.accepted actions := by
  induction actions generalizing t with
  | nil => simp [accepted, yields]
  | cons a rest ih =>
    have hstill : (t.act a).isCurrent token = false := by
      rw [Bool.eq_false_iff, ne_eq, isCurrent_act h]
      simp [hc]
    simp only [mem_accepted_cons, hc, Bool.false_eq_true, and_false, false_or]
    exact ih (Nat.le_trans h (lastSeq_le_act t a)) hstill

/-- No answer is accepted twice. -/
theorem Numbered.nodup_accepted (h : t.Numbered) (actions : List Action) :
    (t.accepted actions).Nodup := by
  induction actions generalizing t with
  | nil => simp [accepted, yields]
  | cons a rest ih =>
    have hrest : ((t.act a).accepted rest).Nodup := ih (h.act a)
    change ((t.accepted? a).toList ++ (t.act a).accepted rest).Nodup
    cases ha : t.accepted? a with
    | none => exact hrest
    | some token =>
      obtain ⟨rfl, hc⟩ := accepted?_eq_some.1 ha
      refine List.nodup_cons.2 ⟨not_mem_accepted ?_ ?_ rest, hrest⟩
      · exact Nat.le_trans (h.seq_le hc) (lastSeq_le_act t _)
      · rw [Bool.eq_false_iff, ne_eq, isCurrent_act (h.seq_le hc)]
        simp [Action.ends]

/-- Numbers are given out one after another. -/
theorem seq_issued (t : Inflight) (actions : List Action) :
    (t.issued actions).map Token.seq = List.range' (t.lastSeq + 1) (t.issued actions).length := by
  induction actions generalizing t with
  | nil => rfl
  | cons a rest ih =>
    have hrest := ih (t.act a)
    change ((t.issued? a).toList ++ (t.act a).issued rest).map Token.seq =
      List.range' (t.lastSeq + 1) ((t.issued? a).toList ++ (t.act a).issued rest).length
    cases a with
    | issue kind => exact congrArg (List.cons (t.lastSeq + 1)) hrest
    | settle token =>
      rw [act, lastSeq_settle] at hrest
      exact hrest
    | cancel | nextGeneration => exact hrest

theorem run_append (first second : List Action) :
    t.run (first ++ second) = (t.run first).run second := List.foldl_append

/-- The answer to an issued token is accepted exactly if since then neither has a request of its kind been
issued or cancelled, nor a new generation begun, nor its answer been accepted. Actions on other kinds make
no difference to that, no answer is accepted twice, and the numbers given out grow by one each. -/
theorem settle_issued_iff (before since : List Action) (kind : RequestKind) :
    let token := ((new.run before).issue kind).1
    let opened := new.run (before ++ [.issue kind])
    let whole := before ++ .issue kind :: since
    (((new.run whole).settle token).1 = true ↔
      .issue kind ∉ since ∧ .cancel kind ∉ since ∧ .nextGeneration ∉ since ∧
        token ∉ opened.accepted since) ∧
    ((opened.run (since.filter (Action.concerns kind))).settle token).1 =
      ((new.run whole).settle token).1 ∧
    (new.accepted whole).Nodup ∧
    ((new.issued whole).map Token.seq).Pairwise (· < ·) ∧
    (new.issued whole).map Token.seq = List.range' 1 (new.issued whole).length := by
  intro token opened whole
  have hopen : opened = ((new.run before).issue kind).2 := run_append before [.issue kind]
  have hwhole : new.run whole = opened.run since := by
    rw [hopen]
    exact run_append before (.issue kind :: since)
  have hc : opened.isCurrent token = true := by
    rw [hopen]
    exact isCurrent_issue kind
  have hle : token.seq ≤ opened.lastSeq := by
    rw [hopen]
    exact Nat.le_refl _
  have hcurrent (actions : List Action) : (opened.run actions).isCurrent token = true ↔
      ∀ a ∈ actions, a.ends token = false := by
    rw [isCurrent_run hle, and_iff_right hc]
  refine ⟨?_, ?_, numbered_new.nodup_accepted whole, ?_, seq_issued new whole⟩
  · rw [settle_fst, hwhole, hcurrent]
    exact forall_ends_eq_false_iff hle hc since
  · rw [settle_fst, settle_fst, hwhole, Bool.eq_iff_iff, hcurrent, hcurrent]
    exact Action.forall_filter_concerns token since
  · rw [seq_issued]
    exact List.pairwise_lt_range'

end ChangeDesk.Inflight
