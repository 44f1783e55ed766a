import ChangeDesk.Proofs.Desk.Onward
import ChangeDesk.Proofs.Desk.Pending

/-!
Once the desk is left, what was asked for before does not matter any more. Every way of leaving begins a new
generation of tokens, so that no completion of an earlier job counts again: neither the rest of a batch of
which one completion has ended the desk, nor anything that comes in later.
-/
namespace ChangeDesk

namespace Desk

variable {d : Desk} {r : Reaction} {ev : Event} {reason : Exit}

inductive Leaves (d : Desk) : Event → Exit → Prop where
  | key {k : Key} {clock : Clock} (h : d.Quits k) : Leaves d (.key k clock) .cancelled
  | expired {c : Completion} (hc : d.inflight.isCurrent c.token = true)
      (ha : c.answer.error? = some .sessionExpired) : Leaves d (.completion c) .sessionExpired
  | accepted {c : Completion} {receipt : Receipt} (hc : d.inflight.isCurrent c.token = true)
      (ha : c.answer = .submit (.ok receipt)) : Leaves d (.completion c) (.submitted receipt)

structure Left (d : Desk) (reason : Exit) : Prop where
  exit : d.exit = some reason
  latest : ∀ kind, d.inflight.latest kind = none

theorem left_quit (d : Desk) (reason : Exit) : (d.quit reason).Left reason := ⟨rfl, fun _ => rfl⟩

theorem press_of_quits {k : Key} {clock : Clock} (h : d.Quits k) :
    d.press k clock = quiet (d.quit .cancelled) := by
  obtain ⟨code, ctrl⟩ := k
  cases h with
  | interrupt => exact if_pos rfl
  | choosing hk hs he hh =>
    rcases hk with hk | ⟨hk, hn⟩
    · obtain rfl : code = .char 'q' := hk
      simp [press, hh, he, stageOfKey?, stageKey, hs, chooseKey]
    · obtain rfl : code = .escape := hk
      simp [press, hh, he, hn, stageOfKey?, stageKey, hs, chooseKey]
  | reviewing hk hs hf he hh =>
    obtain rfl : code = .char 'q' := hk
    simp [press, hh, he, stageOfKey?, stageKey, hs, hf, filesKey]

theorem left_arrival_expired {a : Answer} (h : Arrival d a r) (ha : a.error? = some .sessionExpired) :
    ∃ d', r = quiet d' ∧ d'.Left .sessionExpired := by
  cases h with
  | offer | template | otherTemplate | suggestions | otherField => cases ha
  | files | otherFiles | again | receipt => cases ha
  | noOffer he | refused he => exact absurd (Option.some.inj ha) he
  | failure he _ _ hne => exact absurd (Option.some.inj (he.symm.trans ha)) hne
  | expired | expiredSubmit => exact ⟨_, rfl, left_quit _ _⟩

theorem left_arrival_accepted {receipt : Receipt} (h : Arrival d (.submit (.ok receipt)) r) :
    ∃ d', r = quiet d' ∧ d'.Left (.submitted receipt) := by
  cases h with
  | receipt => exact ⟨_, rfl, left_quit _ _⟩
  | failure he | expired he => cases he

theorem arrival_react {c : Completion} (hc : d.inflight.isCurrent c.token = true) :
    Arrival { d with inflight := d.inflight.cancel c.token.kind } c.answer
      (d.react (.completion c)) := by
  simpa [react, deliver, Inflight.settle, hc] using arrival_takeAnswer _ c.answer

/-- Leaving the desk issues nothing and orphans everything that is waited for. -/
theorem Leaves.left (h : d.Leaves ev reason) : ∃ d', d.react ev = quiet d' ∧ d'.Left reason := by
  cases h with
  | key hk => exact ⟨_, press_of_quits hk, left_quit d _⟩
  | expired hc ha => exact left_arrival_expired (arrival_react hc) ha
  | accepted hc ha => exact left_arrival_accepted (ha ▸ arrival_react hc)

theorem Entry.exit (h : Entry d r) : r.1.exit = d.exit := by cases h <;> rfl

theorem leaves_of_arrival {c : Completion} (hc : d.inflight.isCurrent c.token = true)
    (h : Arrival { d with inflight := d.inflight.cancel c.token.kind } c.answer r) :
    r.1.exit = d.exit ∨ ∃ reason, d.Leaves (.completion c) reason := by
  obtain ⟨token, answer⟩ := c
  cases h with
  | offer | noOffer | template | otherTemplate | suggestions | otherField => exact .inl rfl
  | files | otherFiles | again | refused | failure => exact .inl rfl
  | receipt => exact .inr ⟨_, .accepted hc rfl⟩
  | expired ha => exact .inr ⟨_, .expired hc ha⟩
  | expiredSubmit => exact .inr ⟨_, .expired hc rfl⟩

/-- There is no other way of leaving the desk. -/
theorem leaves_of_effect (h : Effect d ev r) :
    r.1.exit = d.exit ∨ ∃ reason, d.Leaves ev reason := by
  cases h with
  | leave hk => exact .inr ⟨_, .key hk⟩
  | deliver hc ha => exact leaves_of_arrival hc ha
  | glance hg => exact .inl hg.exit
  | enter hd hm hr =>
    have hexit := hd.exit
    exact .inl (hr.exit.trans hexit)
  | refuse hd => exact .inl hd.exit
  | confirm => exact .inl (confirmEdit_exit _)
  | submit hb =>
    obtain ⟨session, he⟩ := submit_of_beginSubmit hb
    rw [he]
    exact .inl rfl
  | reload | edit | field | accept | acceptNone | openFile | act | close => exact .inl rfl
  | preview | justify | pause | lookup | silence | stale => exact .inl rfl

end Desk

namespace Office

variable {session : Session} {delay : Nat} {past since : Past} {o o' : Office} {ev : Event}
  {i : Issued} {reason : Exit}

/-- A job has been issued, when the desk was opened or since. -/
def WasIssued (session : Session) (delay : Nat) (past : Past) (i : Issued) : Prop :=
  (Desk.start session delay).2 = some i ∨ ∃ p ∈ past, (p.1.desk.react p.2).2 = some i

theorem WasIssued.later (h : WasIssued session delay past i) (p : Office × Event) :
    WasIssued session delay (p :: past) i := by
  rcases h with h | ⟨q, hq, hi⟩
  · exact .inl h
  · exact .inr ⟨q, List.mem_cons_of_mem _ hq, hi⟩

theorem Run.wasIssued (h : Run session delay past o) (hi : i ∈ o.awaited) :
    WasIssued session delay past i := by
  induction h with
  | start => exact .inl (by rw [List.mem_singleton.1 hi]; rfl)
  | @step past o h ev he ih =>
    rcases mem_awaited_step hi with hissued | hi
    · exact .inr ⟨(o, ev), List.mem_cons_self, hissued⟩
    · exact (ih hi).later _

/-- The numbers of all jobs issued so far were given out. -/
theorem Run.seq_le_of_wasIssued (h : Run session delay past o) (hi : WasIssued session delay past i) :
    i.token.seq ≤ o.desk.inflight.lastSeq := by
  induction h with
  | start =>
    rcases hi with hi | ⟨p, hp, -⟩
    · obtain rfl := Option.some.inj hi
      exact Nat.le_refl _
    · exact absurd hp List.not_mem_nil
  | @step past o h ev he ih =>
    have hbefore (hi : WasIssued session delay past i) :
        i.token.seq ≤ (o.step ev).desk.inflight.lastSeq :=
      Nat.le_trans (ih hi) (Desk.lastSeq_le_effect (Desk.effect_react o.desk ev))
    rcases hi with hi | ⟨p, hp, hi⟩
    · exact hbefore (.inl hi)
    · rcases List.mem_cons.1 hp with rfl | hp
      · have hawaited : i ∈ (o.step ev).awaited :=
          List.mem_append_left _ (Option.mem_toList.2 hi)
        exact (h.step ev he).registered.seq_le i hawaited
      · exact hbefore (.inr ⟨p, hp, hi⟩)

/-- A token that was given out and does not count never counts again. -/
theorem Onward.stale (h : Onward o since o') {token : Token}
    (hs : token.seq ≤ o.desk.inflight.lastSeq) (hc : o.desk.inflight.isCurrent token = false) :
    token.seq ≤ o'.desk.inflight.lastSeq ∧ o'.desk.inflight.isCurrent token = false := by
  induction h with
  | here => exact ⟨hs, hc⟩
  | @step since o₁ h ev he ih =>
    obtain ⟨hle, hstale⟩ := ih
    have heffect := Desk.effect_react o₁.desk ev
    exact ⟨Nat.le_trans hle (Desk.lastSeq_le_effect heffect), Desk.stale_of_effect heffect hle hstale⟩

/-- Completions of issued jobs, with any answers, in any number and order. -/
def OfIssued (session : Session) (delay : Nat) (past : Past) (completions : List Completion) : Prop :=
  ∀ c ∈ completions, ∃ i, WasIssued session delay past i ∧ c.token = i.token

/-- No job that was issued before the desk was left counts afterwards. -/
theorem Run.stale_after_leaving (h : Run session delay past o) (hl : o.desk.Leaves ev reason)
    (hon : Onward (o.step ev) since o') {completions : List Completion}
    (hc : OfIssued session delay past completions) :
    ∀ c ∈ completions, o'.desk.inflight.isCurrent c.token = false := by
  intro c hmem
  obtain ⟨i, hi, htoken⟩ := hc c hmem
  obtain ⟨d', hreact, hleft⟩ := hl.left
  have hstale : (o.step ev).desk.inflight.isCurrent c.token = false := by
    rw [step_desk, hreact, Desk.quiet_fst, Inflight.isCurrent, hleft.latest]
    exact Bool.and_false _
  have hgiven : c.token.seq ≤ (o.step ev).desk.inflight.lastSeq := by
    rw [htoken]
    exact Nat.le_trans (h.seq_le_of_wasIssued hi) (Desk.lastSeq_le_effect (Desk.effect_react o.desk ev))
  -- Jobs issued after leaving have higher numbers, so they do not bring an earlier token back.
  exact (hon.stale hgiven hstale).2

end Office

namespace Rehearsal

variable {r : Rehearsal}

theorem happen_stale {c : Completion} (hc : r.desk.inflight.isCurrent c.token = false) :
    r.happen (.completion c) = r := by
  rw [happen, Desk.react_stale hc]
  rfl

theorem deliver_stale {completions : List Completion}
    (hc : ∀ c ∈ completions, r.desk.inflight.isCurrent c.token = false) : r.deliver completions = r := by
  induction completions with
  | nil => rfl
  | cons c rest ih =>
    have hfirst := happen_stale (hc c List.mem_cons_self)
    have hrest := ih fun c' hmem => hc c' (List.mem_cons_of_mem _ hmem)
    rw [deliver, List.foldl_cons, hfirst]
    exact hrest

end Rehearsal

namespace Office

variable {session : Session} {delay : Nat} {past : Past} {o : Office} {ev : Event} {reason : Exit}

/-- The desk is left in no other than the known ways, and each of them says why it was left. From then on,
whatever else happens, deliveries of jobs issued before change nothing, with any answers, in any number and
order. If a completion ends the desk in the middle of a batch, that goes for the rest of the batch. -/
theorem deliver_after_leaving (h : Run session delay past o) (hl : o.desk.Leaves ev reason) :
    (∀ ev', (o.step ev').desk.exit = o.desk.exit ∨ ∃ reason', o.desk.Leaves ev' reason') ∧
    (o.step ev).desk.exit = some reason ∧
    (∀ since o', Onward (o.step ev) since o' → ∀ completions, OfIssued session delay past completions →
      ∀ r : Rehearsal, r.desk = o'.desk → r.deliver completions = r) ∧
    ∀ c rest, ev = .completion c → OfIssued session delay past rest →
      ∀ r : Rehearsal, r.desk = o.desk → r.deliver (c :: rest) = { r with desk := (o.step ev).desk } := by
  obtain ⟨d', hreact, hleft⟩ := hl.left
  have hafter (since : Past) (o' : Office) (hon : Onward (o.step ev) since o')
      (completions : List Completion) (hc : OfIssued session delay past completions) (r : Rehearsal)
      (hr : r.desk = o'.desk) : r.deliver completions = r := by
    refine Rehearsal.deliver_stale fun c hmem => ?_
    rw [hr]
    exact h.stale_after_leaving hl hon hc c hmem
  refine ⟨fun ev' => Desk.leaves_of_effect (Desk.effect_react o.desk ev'), ?_, hafter, ?_⟩
  · rw [step_desk, hreact]
    exact hleft.exit
  · rintro c rest rfl hc r hr
    have hfirst : r.happen (.completion c) = { r with desk := (o.step (.completion c)).desk } := by
      rw [Rehearsal.happen_of_issued (by rw [hr, hreact]; rfl), step_desk, hr]
    rw [Rehearsal.deliver, List.foldl_cons, hfirst]
    exact hafter [] _ .here rest hc _ rfl

end Office

/-! The session has expired when the list comes in, before the answers to the two jobs issued earlier. -/

namespace Sample

open Office

def expired : Completion := ⟨⟨.providers, 4, 0⟩, .providers (.error .sessionExpired)⟩

def late : List Completion :=
  [backend.complete ⟨⟨.providers, 3, 0⟩, .providers⟩,
    backend.complete ⟨⟨.definition, 2, 0⟩, .definition ⟨"aws", "s3"⟩⟩]

theorem awaited_reloading : reloading.awaited = [⟨⟨.providers, 4, 0⟩, .providers⟩,
    ⟨⟨.providers, 3, 0⟩, .providers⟩, ⟨⟨.definition, 2, 0⟩, .definition ⟨"aws", "s3"⟩⟩] := rfl

theorem ofIssued_late {past : Past} (h : Run .empty 0 past reloading) : OfIssued .empty 0 past late := by
  intro c hc
  rcases List.mem_cons.1 hc with rfl | hc
  · exact ⟨_, h.wasIssued (List.mem_of_getElem? (i := 1) (by rw [awaited_reloading]; rfl)), rfl⟩
  · obtain rfl := List.mem_singleton.1 hc
    exact ⟨_, h.wasIssued (List.mem_of_getElem? (i := 2) (by rw [awaited_reloading]; rfl)), rfl⟩

end Sample

namespace Office

theorem deliver_after_leaving_sample : ∃ past, Run .empty 0 past Sample.reloading ∧
    Sample.reloading.desk.Leaves (.completion Sample.expired) .sessionExpired ∧
    OfIssued .empty 0 past Sample.late ∧
    (Sample.rehearsed.deliver (Sample.expired :: Sample.late)).desk.exit = some .sessionExpired := by
  obtain ⟨past, h⟩ := Sample.reached_reloading
  have hlate := Sample.ofIssued_late h
  have hleaves : Sample.reloading.desk.Leaves (.completion Sample.expired) .sessionExpired :=
    .expired rfl rfl
  obtain ⟨-, hexit, -, hbatch⟩ := deliver_after_leaving h hleaves
  refine ⟨past, h, hleaves, hlate, ?_⟩
  rw [hbatch _ _ rfl hlate Sample.rehearsed rfl]
  exact hexit

end Office

end ChangeDesk
