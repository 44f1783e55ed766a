import ChangeDesk.Proofs.Desk.Effect

/-!
A desk at work: every issued job is awaited until its one completion has come in. Completions may come in
any order, and each from a backend of its own, so that nothing is assumed about the answers.
-/
namespace ChangeDesk

/-- A desk with the jobs whose completions are still to come, last issued first. -/
structure Office where
  desk : Desk
  awaited : List Issued

namespace Office

def after (r : Reaction) (awaited : List Issued) : Office := ⟨r.1, r.2.toList ++ awaited⟩

def start (session : Session) (delay : Nat) : Office := after (Desk.start session delay) []

def remaining (awaited : List Issued) : Event → List Issued
  | .completion c => awaited.eraseP (fun i => i.token == c.token)
  | _ => awaited

def step (o : Office) (e : Event) : Office := after (o.desk.react e) (remaining o.awaited e)

/-- Keys and ticks may come at any time, completions only of awaited jobs. -/
def Allows (o : Office) : Event → Prop
  | .completion c => ∃ i ∈ o.awaited, ∃ b : Backend, c = b.complete i
  | _ => True

/-- What has happened to an office: each event with the office it came in to, last one first. -/
abbrev Past := List (Office × Event)

/-- The offices that can be reached from a start, with the past that leads to each. -/
inductive Run (session : Session) (delay : Nat) : Past → Office → Prop where
  | start : Run session delay [] (start session delay)
  | step {past : Past} {o : Office} (h : Run session delay past o) (e : Event) (he : o.Allows e) :
      Run session delay ((o, e) :: past) (o.step e)

variable {session : Session} {delay : Nat} {past : Past} {o : Office}

/-- What holds at the start and is kept by every step holds in every reachable office. -/
theorem Run.invariant {P : Office → Prop} (h : Run session delay past o)
    (hstart : P (Office.start session delay))
    (hstep : ∀ o e, P o → o.Allows e → P (o.step e)) : P o := by
  induction h with
  | start => exact hstart
  | step _ e he ih => exact hstep _ e ih he

theorem Run.of_cons {p : Office × Event} (h : Run session delay (p :: past) o) :
    Run session delay past p.1 ∧ p.1.Allows p.2 ∧ o = p.1.step p.2 := by
  cases h with
  | step h e he => exact ⟨h, he, rfl⟩

@[simp] theorem after_desk (r : Reaction) (awaited : List Issued) : (after r awaited).desk = r.1 := rfl

@[simp] theorem step_desk (o : Office) (e : Event) : (o.step e).desk = (o.desk.react e).1 := rfl

/-- A job that a key issues is awaited beside those that were awaited before. -/
theorem awaited_step_of_issue {k : Key} {clock : Clock} {d : Desk} {job : Job}
    (h : o.desk.react (.key k clock) = d.issue job) :
    (o.step (.key k clock)).awaited = ⟨(d.inflight.issue job.kind).1, job⟩ :: o.awaited := by
  rw [step, h]
  rfl

theorem mem_remaining {awaited : List Issued} {e : Event} {i : Issued}
    (h : i ∈ remaining awaited e) : i ∈ awaited := by
  cases e with
  | completion c => exact List.mem_of_mem_eraseP h
  | key k clock => exact h
  | tick clock => exact h

theorem mem_awaited_of_issued {e : Event} {i : Issued} (h : (o.desk.react e).2 = some i) :
    i ∈ (o.step e).awaited := by
  rw [step, after, h]
  exact List.mem_cons_self

/-- An awaited job was awaited before the event or is issued by it. -/
theorem mem_awaited_step {e : Event} {i : Issued} (h : i ∈ (o.step e).awaited) :
    (o.desk.react e).2 = some i ∨ i ∈ o.awaited := by
  rcases List.mem_append.1 h with h | h
  · exact .inl (Option.mem_toList.1 h)
  · exact .inr (mem_remaining h)

end Office

end ChangeDesk
