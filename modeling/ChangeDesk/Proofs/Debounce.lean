import ChangeDesk.Debounce
import Mathlib.Data.List.DropRight

/-!
Waiting for a pause over whole histories. What is handed out is the value that was entered last, if it has not
been reset or asked for in time since, and if it is another one than the last that was handed out since a reset.
So a value that was followed by another is never handed out, and between two values that are handed out one was
entered.
-/
namespace ChangeDesk.Debounce

variable {d : Debounce} {delay time time' now : Nat} {value value' : String}

inductive Action where
  | input (value : String) (time : Nat)
  | poll (now : Nat)
  | reset
deriving DecidableEq, Repr

def act (d : Debounce) : Action → Debounce
  | .input value time => d.input value time
  | .poll now => (d.poll now).2
  | .reset => d.reset

def run (d : Debounce) (actions : List Action) : Debounce := actions.foldl act d

def answer (d : Debounce) : Action → Option String
  | .poll now => (d.poll now).1
  | _ => none

def handedOut : Debounce → List Action → List String
  | _, [] => []
  | d, a :: rest => (d.answer a).toList ++ (d.act a).handedOut rest

variable {past before since : List Action} {a : Action}

/-- An action asks for what was entered at a time, and it is too early for that. -/
def TooEarly (delay time : Nat) (a : Action) : Prop := ∃ now, a = .poll now ∧ now - time < delay

/-- A value was entered at a time, and nothing has been done since but to ask for it too early. -/
def Waits (delay : Nat) (past : List Action) (value : String) (time : Nat) : Prop :=
  ∃ before since, past = before ++ .input value time :: since ∧ ∀ a ∈ since, TooEarly delay time a

/-- The value that was handed out last since the last reset. -/
def lastHandedOut (delay : Nat) (past : List Action) : Option String :=
  (((new delay).run (past.rdropWhile (· ≠ .reset))).handedOut (past.rtakeWhile (· ≠ .reset))).getLast?

/-! ## What a history leaves -/

theorem run_append (first second : List Action) : d.run (first ++ second) = (d.run first).run second :=
  List.foldl_append

theorem handedOut_append (first second : List Action) :
    d.handedOut (first ++ second) = d.handedOut first ++ (d.run first).handedOut second := by
  induction first generalizing d with
  | nil => rfl
  | cons a rest ih => exact (congrArg _ ih).trans (List.append_assoc ..).symm

/-- What waits was entered in the later part of a history, or it was entered before and is still waiting. -/
theorem waits_append : Waits delay (before ++ since) value time ↔
    Waits delay since value time ∨
      Waits delay before value time ∧ ∀ a ∈ since, TooEarly delay time a := by
  constructor
  · rintro ⟨b, s, hpast, hs⟩
    rcases List.append_eq_append_iff.1 hpast with ⟨more, rfl, hsince⟩ | ⟨more, rfl, hrest⟩
    · exact .inl ⟨more, s, hsince, hs⟩
    · cases more with
      | nil => exact .inl ⟨[], s, hrest.symm, hs⟩
      | cons x more =>
        obtain ⟨rfl, rfl⟩ := List.cons.inj hrest
        obtain ⟨hmore, hsince⟩ := List.forall_mem_append.1 hs
        exact .inr ⟨⟨b, more, rfl, hmore⟩, hsince⟩
  · rintro (⟨b, s, rfl, hs⟩ | ⟨⟨b, s, rfl, hs⟩, hsince⟩)
    · exact ⟨before ++ b, s, by rw [List.append_assoc], hs⟩
    · exact ⟨b, s ++ since, by simp, List.forall_mem_append.2 ⟨hs, hsince⟩⟩

theorem not_waits_nil : ¬ Waits delay [] value time := by
  rintro ⟨before, since, hpast, -⟩
  simp at hpast

/-- A single action leaves a value waiting only by entering it. -/
theorem waits_singleton : Waits delay [a] value time ↔ a = .input value time := by
  constructor
  · rintro ⟨before, since, hpast, -⟩
    cases before with
    | nil => exact (List.cons.inj hpast).1
    | cons x before => simp at hpast
  · rintro rfl
    exact ⟨[], [], rfl, by simp⟩

theorem lastHandedOut_append (h : .reset ∉ since) : lastHandedOut delay (before ++ since) =
    (((new delay).run before).handedOut since).getLast?.or (lastHandedOut delay before) := by
  have hkept : ∀ a ∈ since.reverse, decide (a ≠ .reset) = true := fun a ha =>
    decide_eq_true fun he => h (he ▸ List.mem_reverse.1 ha)
  have htake : (before ++ since).rtakeWhile (· ≠ .reset) = before.rtakeWhile (· ≠ .reset) ++ since := by
    simp only [List.rtakeWhile, List.reverse_append, List.takeWhile_append_of_pos hkept, List.reverse_reverse]
  have hdrop : (before ++ since).rdropWhile (· ≠ .reset) = before.rdropWhile (· ≠ .reset) := by
    simp only [List.rdropWhile, List.reverse_append, List.dropWhile_append_of_pos hkept]
  rw [lastHandedOut, htake, hdrop, handedOut_append, ← run_append, List.rdropWhile_append_rtakeWhile,
    List.getLast?_append]
  rfl

theorem lastHandedOut_reset : lastHandedOut delay (past ++ [.reset]) = none := by
  rw [lastHandedOut, List.rtakeWhile_concat_neg _ _ _ (by simp)]
  rfl

/-! ## One step -/

/-- Asking too early changes nothing. Otherwise the value that waits is taken away, and it is handed out unless
it is the one that was handed out last. -/
theorem poll_cases (d : Debounce) (now : Nat) :
    (d.poll now = (none, d) ∧ ∀ value time, d.pending = some (value, time) → now - time < d.delay) ∨
      ∃ value time, d.pending = some (value, time) ∧ d.delay ≤ now - time ∧
        (d.fired = some value ∧ d.poll now = (none, { d with pending := none }) ∨
          d.fired ≠ some value ∧
            d.poll now = (some value, { d with pending := none, fired := some value })) := by
  unfold poll
  cases d.pending with
  | none => exact .inl ⟨rfl, by simp⟩
  | some entry =>
    obtain ⟨value, time⟩ := entry
    dsimp only
    by_cases hearly : now - time < d.delay
    · rw [if_pos hearly]
      refine .inl ⟨rfl, ?_⟩
      rintro _ _ ⟨⟩
      exact hearly
    · rw [if_neg hearly]
      refine .inr ⟨value, time, rfl, Nat.le_of_not_lt hearly, ?_⟩
      by_cases hsame : d.fired = some value
      · exact .inl ⟨hsame, if_pos hsame⟩
      · exact .inr ⟨hsame, if_neg hsame⟩

theorem poll_fst_iff : (d.poll now).1 = some value ↔
    (∃ time, d.pending = some (value, time) ∧ d.delay ≤ now - time) ∧ d.fired ≠ some value := by
  rcases d.poll_cases now with ⟨hpoll, hearly⟩ | ⟨v, t, hpending, hready, ⟨hfired, hpoll⟩ | ⟨hfired, hpoll⟩⟩
  · rw [hpoll]
    refine iff_of_false (by simp) ?_
    rintro ⟨⟨time, hpending, hready⟩, -⟩
    exact (hearly value time hpending).not_ge hready
  · rw [hpoll, hpending, hfired]
    refine iff_of_false (by simp) ?_
    rintro ⟨⟨time, hsame, -⟩, hne⟩
    cases hsame
    exact hne rfl
  · rw [hpoll, hpending]
    constructor
    · rintro ⟨⟩
      exact ⟨⟨t, rfl, hready⟩, hfired⟩
    · rintro ⟨⟨time, hsame, -⟩, -⟩
      cases hsame
      rfl

/-! ## Whole histories -/

theorem tooEarly_poll : TooEarly delay time (.poll now) ↔ now - time < delay := by simp [TooEarly]

/-- A value still waits after another action exactly if it was entered by it, or it waited and the action asks
for it too early. -/
theorem waits_concat : Waits delay (past ++ [a]) value time ↔
    a = .input value time ∨ Waits delay past value time ∧ TooEarly delay time a := by
  rw [waits_append, waits_singleton, List.forall_mem_singleton]

theorem lastHandedOut_concat (h : a ≠ .reset) : lastHandedOut delay (past ++ [a]) =
    (((new delay).run past).answer a).or (lastHandedOut delay past) := by
  rw [lastHandedOut_append (by simpa using h.symm)]
  cases hanswer : ((new delay).run past).answer a <;> simp [handedOut, hanswer]

/-- What is there goes back to a history: the value that waits with its time, and the value handed out last. -/
structure Recalls (delay : Nat) (past : List Action) (d : Debounce) : Prop where
  quiet : d.delay = delay
  waiting : ∀ value time, d.pending = some (value, time) ↔ Waits delay past value time
  last : d.fired = lastHandedOut delay past

/-- What waited long enough waits no more. -/
theorem Recalls.not_waits_concat (h : Recalls delay past d) (hpending : d.pending = some (value, time))
    (hready : delay ≤ now - time) : ¬ Waits delay (past ++ [.poll now]) value' time' := by
  rw [waits_concat, ← h.waiting, tooEarly_poll, hpending]
  rintro (hinput | ⟨hsame, hearly⟩)
  · cases hinput
  · cases hsame
    exact hearly.not_ge hready

theorem Recalls.poll (h : Recalls delay past ((new delay).run past)) (now : Nat) :
    Recalls delay (past ++ [.poll now]) (((new delay).run past).poll now).2 := by
  have hlast : lastHandedOut delay (past ++ [.poll now]) =
      (((new delay).run past).poll now).1.or ((new delay).run past).fired := by
    rw [lastHandedOut_concat (by simp), h.last]
    rfl
  generalize (new delay).run past = d at h hlast ⊢
  rcases d.poll_cases now with
    ⟨hpoll, hearly⟩ | ⟨v, t, hpending, hready, ⟨hfired, hpoll⟩ | ⟨-, hpoll⟩⟩
  · refine ⟨by rw [hpoll, h.quiet], fun value time => ?_, by rw [hlast, hpoll]; rfl⟩
    rw [waits_concat, tooEarly_poll, ← h.waiting, hpoll]
    refine ⟨fun hp => .inr ⟨hp, h.quiet ▸ hearly value time hp⟩, ?_⟩
    rintro (hinput | ⟨hp, -⟩)
    · cases hinput
    · exact hp
  · rw [h.quiet] at hready
    rw [hpoll] at hlast ⊢
    exact ⟨h.quiet, fun _ _ => iff_of_false (by simp) (h.not_waits_concat hpending hready), hlast.symm⟩
  · rw [h.quiet] at hready
    rw [hpoll] at hlast ⊢
    exact ⟨h.quiet, fun _ _ => iff_of_false (by simp) (h.not_waits_concat hpending hready), hlast.symm⟩

/-- One more action is taken note of. -/
theorem Recalls.act (h : Recalls delay past ((new delay).run past)) (a : Action) :
    Recalls delay (past ++ [a]) (((new delay).run past).act a) := by
  cases a with
  | input v t =>
    refine ⟨h.quiet, fun value time => ?_, ?_⟩
    · rw [waits_concat]
      simp [Debounce.act, Debounce.input, TooEarly]
    · rw [lastHandedOut_concat (by simp)]
      exact h.last
  | poll now => exact h.poll now
  | reset =>
    refine ⟨h.quiet, fun value time => ?_, lastHandedOut_reset.symm⟩
    rw [waits_concat]
    simp [Debounce.act, Debounce.reset, TooEarly]

theorem recalls_run (delay : Nat) (past : List Action) : Recalls delay past ((new delay).run past) := by
  induction past using List.reverseRecOn with
  | nil => exact ⟨rfl, fun _ _ => iff_of_false (by simp [new, run]) not_waits_nil, rfl⟩
  | append_singleton past a ih =>
    rw [run_append]
    exact ih.act a

/-- A value is handed out exactly if it waits, has waited long enough, and is not the one handed out last. -/
theorem poll_run_iff : (((new delay).run past).poll now).1 = some value ↔
    (∃ time, Waits delay past value time ∧ delay ≤ now - time) ∧ lastHandedOut delay past ≠ some value := by
  have h := recalls_run delay past
  simp only [poll_fst_iff, h.waiting, h.quiet, h.last]

/-- Nothing waits any more when something has been handed out. -/
theorem not_waits_of_poll (h : (((new delay).run past).poll now).1 = some value) :
    ¬ Waits delay (past ++ [.poll now]) value' time' := by
  obtain ⟨⟨time, hwaits, hready⟩, -⟩ := poll_run_iff.1 h
  have hrecalls := recalls_run delay past
  exact hrecalls.not_waits_concat ((hrecalls.waiting value time).2 hwaits) hready

theorem lastHandedOut_poll (h : (((new delay).run past).poll now).1 = some value) :
    lastHandedOut delay (past ++ [.poll now]) = some value := by
  rw [lastHandedOut_concat (by simp), answer, h]
  rfl

/-- An entry that is over does not wait any more. -/
theorem not_waits_of_over (hover : ∃ a ∈ since, ¬ TooEarly delay time' a)
    (hbefore : Waits delay (before ++ [.input value' time']) value time) :
    ¬ ∀ a ∈ since, TooEarly delay time a := by
  intro hsince
  obtain ⟨a, ha, hlate⟩ := hover
  rcases waits_concat.1 hbefore with hentry | ⟨-, now, hpoll, -⟩
  · cases hentry
    exact hlate (hsince a ha)
  · cases hpoll

/-- Waiting for a pause. A value is handed out exactly if it was entered last, has been there for the delay, and
is another one than the last that was handed out since a reset. So it was entered after everything that was
followed by another entry, by a reset, or by being asked for in time, and after the values that were handed out
before; and if it is one of these once more, there was a reset in between, or yet another value was handed out. -/
theorem handed_out_iff (delay : Nat) (past : List Action) (now : Nat) (value : String) :
    ((((new delay).run past).poll now).1 = some value ↔
      (∃ time, Waits delay past value time ∧ delay ≤ now - time) ∧
        lastHandedOut delay past ≠ some value) ∧
    ((((new delay).run past).poll now).1 = some value →
      (∀ before value' time' since, past = before ++ .input value' time' :: since →
        (∃ a ∈ since, ¬ TooEarly delay time' a) → ∃ time, Waits delay since value time) ∧
      ∀ before earlier between value', past = before ++ .poll earlier :: between →
        (((new delay).run before).poll earlier).1 = some value' →
        (∃ time, Waits delay between value time) ∧
          (value = value' → .reset ∈ between ∨
            ((new delay).run (before ++ [.poll earlier])).handedOut between ≠ [])) := by
  refine ⟨poll_run_iff, fun hnow => ?_⟩
  obtain ⟨⟨time, hwaits, -⟩, hlast⟩ := poll_run_iff.1 hnow
  refine ⟨fun before value' time' since hpast hover => ?_, fun before earlier between value' hpast hearlier => ?_⟩
  · rw [hpast, List.append_cons] at hwaits
    refine ⟨time, (waits_append.1 hwaits).resolve_right ?_⟩
    rintro ⟨hbefore, hsince⟩
    exact not_waits_of_over hover hbefore hsince
  · rw [hpast, List.append_cons] at hwaits hlast
    constructor
    · exact ⟨time, (waits_append.1 hwaits).resolve_right fun h => not_waits_of_poll hearlier h.1⟩
    · rintro rfl
      by_cases hreset : .reset ∈ between
      · exact .inl hreset
      · refine .inr fun hnone => hlast ?_
        rw [lastHandedOut_append hreset, hnone, lastHandedOut_poll hearlier]
        rfl

/-- A value is handed out, then entered again and dropped; the next one is asked for too early at first, at a time
before its own. -/
theorem handed_out_iff_sample :
    let before : List Action := [.input "ar" 0, .input "arn" 100, .poll 350]
    let between : List Action := [.input "arn" 500, .poll 900, .input "aws" 1000, .poll 50]
    (((new 300).run before).poll 400).1 = some "arn" ∧
      (((new 300).run (before ++ .poll 400 :: between)).poll 1300).1 = some "aws" ∧
      lastHandedOut 300 (before ++ .poll 400 :: between) ≠ some "aws" ∧
      ∃ time, Waits 300 between "aws" time := by
  intro before between
  have hearlier : (((new 300).run before).poll 400).1 = some "arn" := by decide
  have hnow : (((new 300).run (before ++ .poll 400 :: between)).poll 1300).1 = some "aws" := by decide
  obtain ⟨hiff, hwhole⟩ := handed_out_iff 300 (before ++ .poll 400 :: between) 1300 "aws"
  exact ⟨hearlier, hnow, (hiff.1 hnow).2, ((hwhole hnow).2 before 400 between "arn" rfl hearlier).1⟩

end ChangeDesk.Debounce
