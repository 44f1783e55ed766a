import ChangeDesk.Diff.Script

/-!
What a script leads from and to. Whatever the search for a middle answers, the old items of the script that
is found are the one sequence and its new items the other, and it keeps no empty run.
-/
namespace ChangeDesk.Diff

variable {α : Type}

namespace Script

@[simp] theorem old_nil : old ([] : Script α) = [] := rfl

@[simp] theorem new_nil : new ([] : Script α) = [] := rfl

@[simp] theorem old_cons (r : Run α) (s : Script α) : old (r :: s) = r.old ++ old s := rfl

@[simp] theorem new_cons (r : Run α) (s : Script α) : new (r :: s) = r.new ++ new s := rfl

@[simp] theorem old_append (s t : Script α) : old (s ++ t) = old s ++ old t :=
  List.flatMap_append

@[simp] theorem new_append (s t : Script α) : new (s ++ t) = new s ++ new t :=
  List.flatMap_append

/-- Every kept run keeps something. -/
def Solid (s : Script α) : Prop := ∀ l, .keep l ∈ s → l ≠ []

@[simp] theorem solid_nil : Solid ([] : Script α) := by simp [Solid]

@[simp] theorem solid_cons (r : Run α) (s : Script α) :
    Solid (r :: s) ↔ r ≠ .keep [] ∧ Solid s := by
  cases r <;> simp [Solid]

@[simp] theorem solid_append (s t : Script α) : Solid (s ++ t) ↔ Solid s ∧ Solid t := by
  simp only [Solid, List.mem_append]
  exact ⟨fun h => ⟨fun l hl => h l (.inl hl), fun l hl => h l (.inr hl)⟩,
    fun h l hl => hl.elim (h.1 l) (h.2 l)⟩

end Script

open Script

/-- The script leads from one sequence to another and keeps no empty run. -/
structure Leads (s : Script α) (old new : List α) : Prop where
  old_eq : s.old = old
  new_eq : s.new = new
  solid : s.Solid

theorem Leads.append {s t : Script α} {a b c d : List α} (h : Leads s a b) (h' : Leads t c d) :
    Leads (s ++ t) (a ++ c) (b ++ d) where
  old_eq := by simp [h.old_eq, h'.old_eq]
  new_eq := by simp [h.new_eq, h'.new_eq]
  solid := by simp [h.solid, h'.solid]

theorem leads_keepRun (l : List α) : Leads (keepRun l) l l := by
  cases l with
  | nil => exact ⟨rfl, rfl, solid_nil⟩
  | cons a l => exact ⟨by simp [keepRun, Run.old], by simp [keepRun, Run.new], by simp [keepRun]⟩

theorem leads_replace (old new : List α) : Leads [.remove old, .add new] old new :=
  ⟨by simp [Run.old], by simp [Run.new], by simp⟩

variable [DecidableEq α]

theorem splitStart_eq (as bs : List α) :
    as = (splitStart as bs).1 ++ (splitStart as bs).2.1 ∧
      bs = (splitStart as bs).1 ++ (splitStart as bs).2.2 := by
  fun_induction splitStart as bs with
  | case1 as b bs r ih => exact ⟨congrArg (b :: ·) ih.1, congrArg (b :: ·) ih.2⟩
  | case2 => simp
  | case3 => simp

theorem splitEnd_eq (as bs : List α) :
    as = (splitEnd as bs).1 ++ (splitEnd as bs).2.2 ∧
      bs = (splitEnd as bs).2.1 ++ (splitEnd as bs).2.2 := by
  have h := splitStart_eq as.reverse bs.reverse
  constructor
  · rw [← List.reverse_inj, h.1]
    simp [splitEnd]
  · rw [← List.reverse_inj, h.2]
    simp [splitEnd]

/-- A search leads from the one sequence to the other, wherever it cuts them. -/
theorem leads_scriptAux (fuel : Nat) (old new : List α) (f : Frontiers) :
    Leads (scriptAux fuel old new f).1 old new := by
  induction fuel generalizing old new f with
  | zero => exact leads_replace old new
  | succ fuel ih =>
    obtain ⟨hold, hnew⟩ := splitStart_eq old new
    obtain ⟨hold', hnew'⟩ := splitEnd_eq (splitStart old new).2.1 (splitStart old new).2.2
    rcases hs : splitStart old new with ⟨start, a, b⟩
    simp only [hs] at hold hnew hold' hnew'
    rcases he : splitEnd a b with ⟨a', b', stop⟩
    simp only [he] at hold' hnew'
    have outer : ∀ inner, Leads inner a' b' →
        Leads (keepRun start ++ inner ++ keepRun stop) old new := by
      intro inner h
      have := ((leads_keepRun start).append h).append (leads_keepRun stop)
      rwa [List.append_assoc start, List.append_assoc start, ← hold', ← hnew', ← hold, ← hnew] at this
    rw [scriptAux]
    simp only [hs, he]
    apply outer
    split
    · exact ⟨rfl, rfl, solid_nil⟩
    · exact ⟨by simp [Run.old], rfl, by simp⟩
    · exact ⟨rfl, by simp [Run.new], by simp⟩
    · split
      · rename_i x y g _
        have left := ih (a'.take x) (b'.take y) g
        have right := ih (a'.drop x) (b'.drop y) (scriptAux fuel (a'.take x) (b'.take y) g).2
        have h := left.append right
        rwa [List.take_append_drop, List.take_append_drop] at h
      · exact leads_replace a' b'

/-- The script that is found leads from the one sequence to the other. -/
theorem leads_script (old new : List α) : Leads (script old new) old new :=
  leads_scriptAux _ old new _

end ChangeDesk.Diff
