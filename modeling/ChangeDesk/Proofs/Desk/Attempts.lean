import ChangeDesk.Proofs.Desk.Viewing
import ChangeDesk.Proofs.Session.Values

/-!
The last attempt to submit, in memory and in the session store. Both tell the same in every run: an attempt is
noted when a submission begins and forgotten when a request is accepted, and nothing else that happens to a
desk concerns the store.
-/
namespace ChangeDesk

def Timestamp.ReadsBack (t : Timestamp) : Prop := read? t.write = some t

namespace Session

variable {s : Session} {feature : String} {last : Option Timestamp}

def entry? (s : Session) (key : String) : Option Stored := s.table.bind (·.get? key)

/-- The attempts of a feature can be read only while there is a table. -/
theorem exists_table (h : s.lastAttempt feature = .ok last) : ∃ t, s = ⟨some t⟩ := by
  obtain ⟨_ | t⟩ := s
  · cases h
  · exact ⟨t, rfl⟩

theorem timestampOfText_compact {t : Timestamp} (h : t.ReadsBack) :
    timestampOfText (Json.string t.write).compact = some t := by
  have hparse : Json.parse? (Json.string t.write).compact = some (.string t.write) :=
    Json.parse?_compact trivial
  rw [timestampOfText, hparse]
  exact h

theorem isSome_entry?_of_lastAttempt (h : s.lastAttempt feature = .ok last) :
    (s.entry? (attemptKey feature)).isSome = last.isSome := by
  obtain ⟨table, rfl⟩ := exists_table h
  change (table.get? (attemptKey feature)).isSome = _
  cases hentry : table.get? (attemptKey feature) with
  | none =>
    have htext : text? ⟨some table⟩ (attemptKey feature) = .ok none := text?_of_get? hentry
    rw [lastAttempt, read_eq htext, readText] at h
    cases h
    rfl
  | some entry =>
    cases entry with
    | text v =>
      have htext : text? ⟨some table⟩ (attemptKey feature) = .ok (some v) := text?_of_get? hentry
      rw [lastAttempt, read_eq htext, readText] at h
      cases hread : timestampOfText v <;> rw [hread] at h <;> cases h
      rfl
    | binary =>
      have htext : text? ⟨some table⟩ (attemptKey feature) = .error .storage := by
        simp [text?, withTable, hentry]
      rw [lastAttempt, read, htext] at h
      cases h

/-- An attempt that is noted is the last one, and no other entry changes. -/
theorem exists_recordAttempt (h : s.lastAttempt feature = .ok last) {t : Timestamp} (hback : t.ReadsBack) :
    ∃ s', s.recordAttempt feature t = .ok s' ∧ s'.lastAttempt feature = .ok (some t) ∧
      ∀ key, key ≠ attemptKey feature → s'.entry? key = s.entry? key := by
  obtain ⟨table, rfl⟩ := exists_table h
  refine ⟨⟨some (table.insert (attemptKey feature) (.text (Json.string t.write).compact))⟩, rfl, ?_,
    fun key hkey => ?_⟩
  · have htext : text? ⟨some (table.insert (attemptKey feature) (.text (Json.string t.write).compact))⟩
        (attemptKey feature) = .ok (some (Json.string t.write).compact) :=
      text?_of_get? (by rw [SortedMap.get?_insert, if_pos rfl, Option.map_some])
    rw [lastAttempt, read_eq htext, readText, timestampOfText_compact hback]
  · change (table.insert _ _).get? key = table.get? key
    rw [SortedMap.get?_insert, if_neg hkey]

/-- An attempt is forgotten if there was one; then there is none, and no other entry changes. -/
theorem exists_clearAttempt (h : s.lastAttempt feature = .ok last) :
    ∃ s', s.clearAttempt feature = .ok (last.isSome, s') ∧ s'.lastAttempt feature = .ok none ∧
      ∀ key, key ≠ attemptKey feature → s'.entry? key = s.entry? key := by
  obtain ⟨table, rfl⟩ := exists_table h
  refine ⟨⟨some (table.erase (attemptKey feature))⟩, ?_, ?_, fun key hkey => ?_⟩
  · rw [← isSome_entry?_of_lastAttempt h]
    rfl
  · have htext : text? ⟨some (table.erase (attemptKey feature))⟩ (attemptKey feature) = .ok none :=
      text?_of_get? (by rw [SortedMap.get?_erase, if_pos rfl, Option.map_none])
    rw [lastAttempt, read_eq htext, readText]
  · change (table.erase _).get? key = table.get? key
    rw [SortedMap.get?_erase, if_neg hkey]

end Session

namespace Desk

variable {d d' : Desk} {r : Reaction} {ev : Event}

/-- An event begins a submission at a time: a key that submits, pressed on a draft that can be submitted. -/
inductive Begins (d : Desk) : Event → Timestamp → Prop where
  | key {k : Key} {clock : Clock} {request : ChangeRequest} {draft : Draft} (hk : d.Submits k)
      (h : d.draft.beginSubmit = .ok (request, draft)) : Begins d (.key k clock) clock.wall

/-- Neither the session store nor the last attempt in memory changes. -/
structure Remembers (d d' : Desk) : Prop where
  session : d'.session = d.session
  lastAttempt : d'.lastAttempt = d.lastAttempt

namespace Remembers

theorem trans {d₁ : Desk} (h : d.Remembers d₁) (h' : d₁.Remembers d') : d.Remembers d' :=
  ⟨h'.session.trans h.session, h'.lastAttempt.trans h.lastAttempt⟩

theorem of_glance (h : Glance d d') : d.Remembers d' := by cases h <;> exact ⟨rfl, rfl⟩

theorem of_picked (h : Picked d d') : d.Remembers d' := by cases h <;> exact ⟨rfl, rfl⟩

theorem of_entry (h : Entry d r) : d.Remembers r.1 := by cases h <;> exact ⟨rfl, rfl⟩

theorem of_confirmEdit (e : Editor) : d.Remembers (d.confirmEdit e) := by
  unfold confirmEdit
  split <;> exact ⟨rfl, rfl⟩

/-- An answer concerns the attempts only if it accepts a request. -/
theorem of_arrival {a : Answer} (h : Arrival d a r) :
    d.Remembers r.1 ∨ ∃ receipt, a = .submit (.ok receipt) := by
  cases h with
  | receipt receipt => exact .inr ⟨receipt, rfl⟩
  | _ => exact .inl ⟨rfl, rfl⟩

/-- Nothing concerns the attempts but a submission that begins and a request that is accepted. -/
theorem of_effect (h : Effect d ev r) : d.Remembers r.1 ∨ (∃ t, d.Begins ev t) ∨ d.Accepts ev := by
  cases h with
  | glance h => exact .inl (.of_glance h)
  | enter hd hm hr =>
    have hentry := of_entry hr
    exact .inl ((of_picked hd).trans ⟨hentry.session, hentry.lastAttempt⟩)
  | refuse hd reason => exact .inl ((of_picked hd).trans ⟨rfl, rfl⟩)
  | confirm he hw => exact .inl (of_confirmEdit _)
  | submit hb he hk => exact .inr (.inl ⟨_, hk, hb⟩)
  | deliver hc ha =>
    rcases of_arrival ha with h | ⟨receipt, hanswer⟩
    · exact .inl ⟨h.session, h.lastAttempt⟩
    · exact .inr (.inr (.receipt hc hanswer))
  | _ => exact .inl ⟨rfl, rfl⟩

/-- Where nothing is noted, the result of a submission is waited for only after an attempt. -/
theorem awaited (hr : d.Remembers r.1) (h : Bearing d ev r)
    (ha : d.inflight.latest .submit ≠ none → d.lastAttempt.isSome = true)
    (hl : r.1.inflight.latest .submit ≠ none) : r.1.lastAttempt.isSome = true := by
  cases h with
  | apart h =>
    rw [hr.lastAttempt]
    exact ha (h.latest ▸ hl)
  | begun h =>
    obtain ⟨session, hsubmit⟩ := submit_of_beginSubmit h
    rw [hsubmit]
    rfl
  | refused => exact absurd rfl hl
  | left _ hnone => exact absurd hnone hl

end Remembers

/-- A submission that begins is noted as an attempt. -/
theorem Begins.react {t : Timestamp} (h : d.Begins ev t) {s : Session}
    (hs : d.session.recordAttempt Session.submitFeature t = .ok s) :
    (d.react ev).1.session = s ∧ (d.react ev).1.lastAttempt = some t := by
  cases h with
  | key hk h =>
    rw [react_submits hk, submit, h, hs]
    exact ⟨rfl, rfl⟩

/-- The attempt of a request that is accepted is forgotten. -/
theorem Accepts.react (h : d.Accepts ev) {removed : Bool} {s : Session}
    (hs : d.session.clearAttempt Session.submitFeature = .ok (removed, s)) :
    (d.react ev).1.session = s ∧ (d.react ev).1.lastAttempt = none := by
  cases h with
  | receipt hc ha =>
    simp [Desk.react, deliver, Inflight.settle, hc, ha, takeAnswer, takeReceipt, quit, hs]

theorem Accepts.latest (h : d.Accepts ev) {kind : RequestKind} :
    (d.react ev).1.inflight.latest kind = none := by
  cases h with
  | receipt hc ha =>
    simp [Desk.react, deliver, Inflight.settle, hc, ha, takeAnswer, takeReceipt, quit,
      Inflight.nextGeneration]

end Desk

namespace Office

variable {session : Session} {delay : Nat} {past : Past} {o : Office} {last : Option Timestamp}

/-- The store and the memory agree on the last attempt, and every other entry is the one that the store
started with. While the result of a submission is waited for, there is an attempt. -/
structure Noted (session : Session) (d : Desk) : Prop where
  lastAttempt : d.session.lastAttempt Session.submitFeature = .ok d.lastAttempt
  entries : ∀ key, key ≠ Session.attemptKey Session.submitFeature →
    d.session.entry? key = session.entry? key
  awaited : d.inflight.latest .submit ≠ none → d.lastAttempt.isSome = true

def AttemptsReadBack (past : Past) : Prop :=
  ∀ p ∈ past, ∀ t, p.1.desk.Begins p.2 t → t.ReadsBack

theorem noted_start (hlast : session.lastAttempt Session.submitFeature = .ok last) :
    Noted session (start session delay).desk where
  lastAttempt := by
    change session.lastAttempt Session.submitFeature =
      .ok ((session.lastAttempt Session.submitFeature).toOption).join
    rw [hlast]
    rfl
  entries _ _ := rfl
  awaited h := absurd rfl h

theorem Noted.step (hn : Noted session o.desk) (h : Run session delay past o) {ev : Event}
    (he : o.Allows ev) (hback : ∀ t, o.desk.Begins ev t → t.ReadsBack) :
    Noted session (o.step ev).desk := by
  rw [step_desk]
  rcases Desk.Remembers.of_effect (Desk.effect_react o.desk ev) with hr | ⟨t, hb⟩ | ha
  · refine ⟨?_, ?_, hr.awaited (h.bearing he) hn.awaited⟩
    · rw [hr.session, hr.lastAttempt]
      exact hn.lastAttempt
    · rw [hr.session]
      exact hn.entries
  · obtain ⟨s, hrecord, hlast, hentries⟩ := Session.exists_recordAttempt hn.lastAttempt (hback t hb)
    obtain ⟨hs, hl⟩ := hb.react hrecord
    rw [← hs] at hlast hentries
    refine ⟨?_, fun key hkey => (hentries key hkey).trans (hn.entries key hkey), fun _ => ?_⟩
    · rw [hl]
      exact hlast
    · rw [hl, Option.isSome_some]
  · obtain ⟨s, hclear, hlast, hentries⟩ := Session.exists_clearAttempt hn.lastAttempt
    obtain ⟨hs, hl⟩ := ha.react hclear
    rw [← hs] at hlast hentries
    refine ⟨?_, fun key hkey => (hentries key hkey).trans (hn.entries key hkey),
      fun hlatest => absurd ha.latest hlatest⟩
    rw [hl]
    exact hlast

theorem Run.noted (h : Run session delay past o)
    (hlast : session.lastAttempt Session.submitFeature = .ok last) (hback : AttemptsReadBack past) :
    Noted session o.desk := by
  induction h with
  | start => exact noted_start hlast
  | step h ev he ih =>
    obtain ⟨hev, hpast⟩ := List.forall_mem_cons.1 hback
    exact (ih hpast).step h he hev

/-- The last attempt that a desk remembers is the one that the session store holds, and no other entry of the
store ever changes. An event that begins a submission notes its time in both places, the acceptance of a
request removes the entry, and any other event leaves both as they were. -/
theorem last_attempt_stored (h : Run session delay past o)
    (hlast : session.lastAttempt Session.submitFeature = .ok last) (hback : AttemptsReadBack past) :
    o.desk.session.lastAttempt Session.submitFeature = .ok o.desk.lastAttempt ∧
    (∀ key, key ≠ Session.attemptKey Session.submitFeature →
      o.desk.session.entry? key = session.entry? key) ∧
    ∀ ev, o.Allows ev →
      (∀ t, o.desk.Begins ev t →
        o.desk.session.recordAttempt Session.submitFeature t = .ok (o.step ev).desk.session ∧
        (o.step ev).desk.lastAttempt = some t) ∧
      (o.desk.Accepts ev →
        o.desk.session.clearAttempt Session.submitFeature = .ok (true, (o.step ev).desk.session) ∧
        (o.step ev).desk.lastAttempt = none) ∧
      ((∀ t, ¬ o.desk.Begins ev t) → ¬ o.desk.Accepts ev →
        (o.step ev).desk.session = o.desk.session ∧
        (o.step ev).desk.lastAttempt = o.desk.lastAttempt) := by
  have hn : Noted session o.desk := h.noted hlast hback
  refine ⟨hn.lastAttempt, hn.entries, fun ev he => ⟨fun t hb => ?_, fun ha => ?_, fun hb ha => ?_⟩⟩
  · obtain ⟨table, htable⟩ := Session.exists_table hn.lastAttempt
    obtain ⟨hs, hl⟩ := hb.react (by rw [htable]; rfl)
    exact ⟨by rw [step_desk, hs, htable]; rfl, hl⟩
  · obtain ⟨s, hclear, -, -⟩ := Session.exists_clearAttempt hn.lastAttempt
    obtain ⟨hs, hl⟩ := ha.react hclear
    rw [hn.awaited (h.latest_of_accepts he ha)] at hclear
    exact ⟨by rw [step_desk, hs, hclear], hl⟩
  · rcases Desk.Remembers.of_effect (Desk.effect_react o.desk ev) with hr | ⟨t, hbegins⟩ | haccepts
    · exact ⟨hr.session, hr.lastAttempt⟩
    · exact absurd hbegins (hb t)
    · exact absurd haccepts ha

end Office

/-! A request is submitted at the start of 1970, and its submission times out. -/

namespace Sample

open Office

theorem readsBack_clock : clock.wall.ReadsBack := by
  unfold Timestamp.ReadsBack
  decide +kernel

/-- An office that can be reached with all attempts at the time of the sample. -/
def Timely (o : Office) : Prop := ∃ past, Run .empty 0 past o ∧ AttemptsReadBack past

theorem Timely.step {o : Office} (h : Timely o) {ev : Event} (he : o.Allows ev)
    (hev : ∀ t, o.desk.Begins ev t → t = clock.wall) : Timely (o.step ev) := by
  obtain ⟨past, h, hback⟩ := h
  refine ⟨_, h.step ev he, List.forall_mem_cons.2 ⟨fun t hb => ?_, hback⟩⟩
  rw [hev t hb]
  exact readsBack_clock

theorem Timely.press {o : Office} (h : Timely o) (c : KeyCode) : Timely (press o c) :=
  h.step trivial fun t hb => by
    cases hb
    rfl

theorem Timely.answer {o : Office} (h : Timely o) (b : Backend) : Timely (o.step (answer b o)) :=
  h.step (allows_answer b o) fun t hb => by
    unfold Sample.answer at hb
    split at hb <;> cases hb

theorem timely_ready : Timely ready := by
  have hchoosing : Timely choosing := Timely.answer ⟨[], .start, by simp [AttemptsReadBack]⟩ backend
  have hreviewing := (((hchoosing.press .enter).answer backend).press (.char 'x')).press .enter
  have hpreviewed : Timely previewed := step_reviewing ▸ hreviewing.answer backend
  exact ((hpreviewed.press .tab).press (.char 'y')).press .tab

theorem timely_submitted : Timely submitted := timely_ready.press (.char 'S')

theorem answer_submitted :
    answer backend submitted = .completion ⟨⟨.submit, 4, 0⟩, .submit (.error (.timeout 30))⟩ := by
  obtain ⟨session, hreact⟩ := react_submit
  exact answer_of_awaited (awaited_step_of_issue hreact) backend

end Sample

namespace Office

theorem last_attempt_stored_sample : ∃ past, Run .empty 0 past Sample.submitted ∧
    AttemptsReadBack past ∧ Session.lastAttempt .empty Session.submitFeature = .ok none ∧
    Sample.submitted.desk.lastAttempt = some Sample.clock.wall ∧
    Sample.submitted.desk.session.lastAttempt Session.submitFeature = .ok (some Sample.clock.wall) ∧
    (Sample.submitted.step (Sample.answer Sample.backend Sample.submitted)).desk.lastAttempt =
      some Sample.clock.wall := by
  obtain ⟨past, h, hback⟩ := Sample.timely_submitted
  have hempty : Session.lastAttempt .empty Session.submitFeature = .ok none := rfl
  obtain ⟨hstored, -, hevents⟩ := last_attempt_stored h hempty hback
  have hlast : Sample.submitted.desk.lastAttempt = some Sample.clock.wall := by
    obtain ⟨session, hreact⟩ := Sample.react_submit
    rw [Sample.submitted, step_desk, hreact]
    rfl
  obtain ⟨-, -, hother⟩ := hevents _ (Sample.allows_answer Sample.backend Sample.submitted)
  rw [Sample.answer_submitted] at hother ⊢
  refine ⟨past, h, hback, hempty, hlast, hlast ▸ hstored, ?_⟩
  rw [(hother (fun t hbegins => by cases hbegins) ?_).2, hlast]
  rintro ⟨-, ha⟩
  cases ha

end Office

end ChangeDesk
