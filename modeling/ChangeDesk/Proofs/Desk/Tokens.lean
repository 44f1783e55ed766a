import ChangeDesk.Proofs.Desk.Frame
import ChangeDesk.Proofs.Desk.Office
import Mathlib.Data.List.Nodup

/-!
Tokens and awaited jobs agree: numbers are given out once, and whatever number a kind waits for belongs to
one awaited job. A completion that counts therefore answers the latest job of its kind.
-/
namespace ChangeDesk

/-- The numbers of the awaited jobs differ and were given out, and each number waited for is one of them. -/
structure Registered (t : Inflight) (awaited : List Issued) : Prop where
  kind_eq : ∀ i ∈ awaited, i.token.kind = i.job.kind
  seq_le : ∀ i ∈ awaited, i.token.seq ≤ t.lastSeq
  distinct : (awaited.map (fun i => i.token.seq)).Nodup
  latest : ∀ k s, t.latest k = some s → ∃ i ∈ awaited, i.token = ⟨k, s, t.generation⟩

namespace Registered

variable {t : Inflight} {awaited : List Issued}

theorem new : Registered .new [] where
  kind_eq := by simp
  seq_le := by simp
  distinct := by simp
  latest := by simp [Inflight.new]

theorem eq_of_token_eq (h : Registered t awaited) {i j : Issued} (hi : i ∈ awaited)
    (hj : j ∈ awaited) (he : i.token = j.token) : i = j :=
  List.inj_on_of_nodup_map h.distinct hi hj (by rw [he])

/-- A job whose answer counts is the one that its kind waits for. -/
theorem latest_of_isCurrent (h : Registered t awaited) {i : Issued} (hi : i ∈ awaited)
    (hc : t.isCurrent i.token = true) : t.latest i.job.kind = some i.token.seq := by
  rw [← h.kind_eq i hi]
  exact Inflight.latest_of_isCurrent hc

theorem cancel (h : Registered t awaited) (kind : RequestKind) :
    Registered (t.cancel kind) awaited where
  kind_eq := h.kind_eq
  seq_le := h.seq_le
  distinct := h.distinct
  latest k s hk := by
    by_cases he : k = kind
    · simp [Inflight.cancel, Inflight.withLatest, he] at hk
    · simp only [Inflight.cancel, Inflight.withLatest, he, ↓reduceIte] at hk
      exact h.latest k s hk

theorem nextGeneration (h : Registered t awaited) : Registered t.nextGeneration awaited where
  kind_eq := h.kind_eq
  seq_le := h.seq_le
  distinct := h.distinct
  latest k s hk := by simp [Inflight.nextGeneration] at hk

theorem issue (h : Registered t awaited) (job : Job) :
    Registered (t.issue job.kind).2 (⟨(t.issue job.kind).1, job⟩ :: awaited) where
  kind_eq := by
    intro i hi
    rcases List.mem_cons.1 hi with rfl | hi
    · rfl
    · exact h.kind_eq i hi
  seq_le := by
    intro i hi
    rcases List.mem_cons.1 hi with rfl | hi
    · exact Nat.le_refl _
    · exact Nat.le_succ_of_le (h.seq_le i hi)
  distinct := by
    refine List.nodup_cons.2 ⟨fun hmem => ?_, h.distinct⟩
    obtain ⟨i, hi, hs⟩ := List.mem_map.1 hmem
    have hle := h.seq_le i hi
    simp only [Inflight.issue] at hs
    omega
  latest k s hk := by
    by_cases he : k = job.kind
    · subst he
      obtain rfl : t.lastSeq + 1 = s := by simpa [Inflight.issue, Inflight.withLatest] using hk
      exact ⟨_, List.mem_cons_self, rfl⟩
    · simp only [Inflight.issue, Inflight.withLatest, he, ↓reduceIte] at hk
      obtain ⟨i, hi, ht⟩ := h.latest k s hk
      exact ⟨i, List.mem_cons_of_mem _ hi, ht⟩

theorem erase (h : Registered t awaited) {token : Token}
    (hne : ∀ k s, t.latest k = some s → token ≠ ⟨k, s, t.generation⟩) :
    Registered t (awaited.eraseP (fun i => i.token == token)) where
  kind_eq i hi := h.kind_eq i (List.mem_of_mem_eraseP hi)
  seq_le i hi := h.seq_le i (List.mem_of_mem_eraseP hi)
  distinct := h.distinct.sublist (List.eraseP_sublist.map _)
  latest k s hk := by
    obtain ⟨i, hi, ht⟩ := h.latest k s hk
    refine ⟨i, ?_, ht⟩
    rw [List.mem_eraseP_of_neg]
    · exact hi
    · rw [ht, beq_iff_eq]
      exact (hne k s hk).symm

/-- A completion that does not count takes nothing from the jobs that are waited for. -/
theorem stale (h : Registered t awaited) {token : Token} (hc : t.isCurrent token = false) :
    Registered t (awaited.eraseP (fun i => i.token == token)) := by
  refine h.erase fun k s hk he => ?_
  subst he
  simp [Inflight.isCurrent, hk] at hc

/-- A completion that counts ends the waiting for its kind. -/
theorem settled (h : Registered t awaited) (token : Token) :
    Registered (t.cancel token.kind) (awaited.eraseP (fun i => i.token == token)) := by
  refine (h.cancel token.kind).erase fun k s hk he => ?_
  have hkind : k = token.kind := by rw [he]
  simp [Inflight.cancel, Inflight.withLatest, hkind] at hk

/-- What is waited for of a kind is the completion of exactly one job. -/
theorem filter_current (h : Registered t awaited) {k : RequestKind} {s : Nat}
    (hk : t.latest k = some s) :
    ∃ i, awaited.filter (fun i => i.token.kind == k && t.isCurrent i.token) = [i] := by
  obtain ⟨i, hi, ht⟩ := h.latest k s hk
  have hnodup := h.distinct.of_map.filter (fun i => i.token.kind == k && t.isCurrent i.token)
  refine ⟨i, (((List.perm_ext_iff_of_nodup hnodup (List.nodup_singleton i)).2 fun j => ?_)).eq_singleton⟩
  rw [List.mem_filter, List.mem_singleton]
  constructor
  · rintro ⟨hj, hcur⟩
    simp only [Inflight.isCurrent, Bool.and_eq_true, beq_iff_eq] at hcur
    obtain ⟨hkind, hgen, hseq⟩ := hcur
    rw [hkind, hk] at hseq
    have htoken : j.token = ⟨k, s, t.generation⟩ := by
      rw [← hkind, ← hgen, Option.some.inj hseq]
    exact h.eq_of_token_eq hj hi (htoken.trans ht.symm)
  · rintro rfl
    exact ⟨hi, by simp [ht, Inflight.isCurrent, hk]⟩

end Registered

namespace Desk

variable {d d' : Desk} {awaited : List Issued} {r : Reaction}

def Registers (r : Reaction) (awaited : List Issued) : Prop :=
  Registered r.1.inflight (r.2.toList ++ awaited)

theorem registers_quiet (h : Registered d.inflight awaited) (he : d'.inflight = d.inflight) :
    Registers (quiet d') awaited := by
  rw [← he] at h
  exact h

theorem registers_issue (h : Registered d.inflight awaited) (job : Job) :
    Registers (d.issue job) awaited := h.issue job

theorem registers_requestPreview (h : Registered d.inflight awaited) :
    Registers d.requestPreview awaited := registers_issue h _

theorem registers_entry (h : Registered d.inflight awaited) (he : Entry d r) :
    Registers r awaited := by
  cases he with
  | choose hs => exact h
  | configure hs ht => exact h.cancel _
  | load s hs ht hc => exact (h.issue (.definition s)).cancel _
  | review hs hp => exact h
  | preview hs hp => exact registers_requestPreview h

theorem registers_arrival (h : Registered d.inflight awaited) {a : Answer} (ha : Arrival d a r) :
    Registers r awaited := by
  cases ha with
  | offer | noOffer | template | otherTemplate | suggestions | otherField => exact h
  | files | otherFiles | refused | failure => exact h
  | again => exact registers_requestPreview h
  | receipt | expired | expiredSubmit => exact h.nextGeneration

theorem registers_submit (h : Registered d.inflight awaited) (clock : Clock) :
    Registers (d.submit clock) awaited := by
  unfold submit
  split
  · exact registers_issue h _
  · exact h

/-- Every reaction keeps the tokens and the awaited jobs in agreement. -/
theorem registers_effect (h : Registered d.inflight awaited) {e : Event} (he : Effect d e r) :
    Registers r (Office.remaining awaited e) := by
  cases he with
  | glance hg => exact registers_quiet h hg.inflight
  | leave => exact h.nextGeneration
  | reload => exact h.issue .providers
  | enter hd hm hr => exact registers_entry (hd.inflight ▸ h) hr
  | refuse hd =>
    have hinflight := hd.inflight
    exact registers_quiet h hinflight
  | edit | openFile | act | close | justify | pause => exact h
  | field | accept | acceptNone => exact h.cancel _
  | confirm => exact registers_quiet h (confirmEdit_inflight _)
  | submit => exact registers_submit h _
  | preview => exact registers_requestPreview h
  | lookup => exact registers_issue h _
  | silence => exact h.cancel _
  | deliver hc ha => exact registers_arrival (h.settled _) ha
  | stale hc => exact h.stale hc

end Desk

namespace Office

variable {session : Session} {delay : Nat} {past : Past} {o : Office}

theorem registered_step (h : Registered o.desk.inflight o.awaited) (e : Event) :
    Registered (o.step e).desk.inflight (o.step e).awaited :=
  Desk.registers_effect h (Desk.effect_react o.desk e)

/-- In every reachable office the tokens and the awaited jobs agree. -/
theorem Run.registered (h : Run session delay past o) : Registered o.desk.inflight o.awaited :=
  h.invariant (P := fun o => Registered o.desk.inflight o.awaited)
    (Registered.new.issue .providers) (fun _ e h _ => registered_step h e)

/-- The completion of an awaited job carries a token of its answer's kind. -/
theorem Run.kind_eq (h : Run session delay past o) {e : Event} (he : o.Allows e) (c : Completion)
    (hc : e = .completion c) : c.token.kind = c.answer.kind := by
  subst hc
  obtain ⟨i, hi, b, rfl⟩ := he
  exact (h.registered.kind_eq i hi).trans (b.kind_answer i.job).symm

end Office

end ChangeDesk
