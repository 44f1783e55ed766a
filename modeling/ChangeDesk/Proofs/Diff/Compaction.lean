import ChangeDesk.Proofs.Diff.Sides

/-!
Compaction changes no side of a script. One move exchanges two neighbouring runs for runs that agree with
them: the same old items, the same new items, the same cost. A pass is a sequence of moves, so the compacted
script leads where the script led.
-/
namespace ChangeDesk.Diff

open Script

variable {α : Type}

namespace Script

@[simp] theorem cost_nil : cost ([] : Script α) = 0 := rfl

@[simp] theorem cost_keep (l : List α) (s : Script α) : cost (.keep l :: s) = cost s := rfl

@[simp] theorem cost_remove (l : List α) (s : Script α) :
    cost (.remove l :: s) = l.length + cost s := rfl

@[simp] theorem cost_add (l : List α) (s : Script α) : cost (.add l :: s) = l.length + cost s := rfl

@[simp] theorem cost_append (s t : Script α) : cost (s ++ t) = cost s + cost t := by
  induction s with
  | nil => simp
  | cons r s ih => cases r <;> simp [ih, Nat.add_assoc]

/-- Two scripts of the same cost between the same sequences, of which the second is solid if the first is. -/
structure Agrees (s t : Script α) : Prop where
  old : t.old = s.old
  new : t.new = s.new
  cost : t.cost = s.cost
  solid : s.Solid → t.Solid

theorem Agrees.refl (s : Script α) : Agrees s s := ⟨rfl, rfl, rfl, id⟩

theorem Agrees.trans {s t u : Script α} (h : Agrees s t) (h' : Agrees t u) : Agrees s u :=
  ⟨h'.old.trans h.old, h'.new.trans h.new, h'.cost.trans h.cost, fun hs => h'.solid (h.solid hs)⟩

/-- A part of a script may be exchanged for one that agrees with it. -/
theorem Agrees.around {s t : Script α} (h : Agrees s t) (before behind : Script α) :
    Agrees (before ++ (s ++ behind)) (before ++ (t ++ behind)) where
  old := by simp [h.old]
  new := by simp [h.new]
  cost := by simp [h.cost]
  solid := by
    simp only [solid_append]
    exact fun hs => ⟨hs.1, h.solid hs.2.1, hs.2.2⟩

theorem Agrees.leads {s t : Script α} {old new : List α} (h : Agrees s t) (hs : Leads s old new) :
    Leads t old new :=
  ⟨h.old.trans hs.old_eq, h.new.trans hs.new_eq, h.solid hs.solid⟩

end Script

theorem keepRun_append (l : List α) (s : Script α) :
    (if l.isEmpty then s else .keep l :: s) = keepRun l ++ s := by
  cases l <;> simp [keepRun]

theorem reverse_keepRun (l : List α) : (keepRun l).reverse = keepRun l := by
  cases l <;> simp [keepRun]

@[simp] theorem cost_keepRun (l : List α) : cost (keepRun l) = 0 := by
  cases l <;> simp [keepRun]

/-- An added run moves above kept items that end as it does. -/
theorem agrees_up {m l m' l' c : List α} (hm : m = m' ++ c) (hl : l = l' ++ c) (hc : c ≠ []) :
    Agrees [.keep m, .add l] (keepRun m' ++ [.add (c ++ l'), .keep c]) := by
  subst hm hl
  refine ⟨?_, ?_, ?_, ?_⟩
  · simp [Run.old, (leads_keepRun m').old_eq]
  · simp [Run.new, (leads_keepRun m').new_eq]
  · simp [Nat.add_comm]
  · simp [(leads_keepRun m').solid, hc]

/-- An added run moves below kept items that begin as it does. -/
theorem agrees_down {m l m' l' c : List α} (hm : m = c ++ m') (hl : l = c ++ l') (hc : c ≠ []) :
    Agrees [.add l, .keep m] (.keep c :: .add (l' ++ c) :: keepRun m') := by
  subst hm hl
  refine ⟨?_, ?_, ?_, ?_⟩
  · simp [Run.old, (leads_keepRun m').old_eq]
  · simp [Run.new, (leads_keepRun m').new_eq]
  · simp [Nat.add_comm]
  · simp [(leads_keepRun m').solid, hc]

theorem agrees_add_remove (l m : List α) : Agrees [.add l, .remove m] [.remove m, .add l] :=
  ⟨by simp [Run.old], by simp [Run.new], by simp [Nat.add_comm], by simp⟩

theorem agrees_remove_add (l m : List α) : Agrees [.remove l, .add m] [.add m, .remove l] :=
  ⟨by simp [Run.old], by simp [Run.new], by simp [Nat.add_comm], by simp⟩

theorem agrees_add_add (l m : List α) : Agrees [.add l, .add m] [.add (l ++ m)] :=
  ⟨by simp [Run.old], by simp [Run.new], by simp, by simp⟩

theorem agrees_remove_remove (l m : List α) : Agrees [.remove l, .remove m] [.remove (l ++ m)] :=
  ⟨by simp [Run.old], by simp [Run.new], by simp, by simp⟩

theorem agrees_drop_before (r : Run α) : Agrees [.keep [], r] [r] :=
  ⟨by simp [Run.old], by simp [Run.new], by simp, by simp⟩

theorem agrees_drop_behind (r : Run α) : Agrees [r, .keep []] [r] := by
  refine ⟨by simp [Run.old], by simp [Run.new], ?_, by simp⟩
  cases r <;> simp

/-- Kept items in front of a list of runs may join its first run. -/
theorem agrees_keepBefore (l : List α) (s : Script α) : Agrees (.keep l :: s) (keepBefore l s) := by
  unfold keepBefore
  split
  · refine ⟨by simp [Run.old], by simp [Run.new], by simp, ?_⟩
    simp only [solid_cons, ne_eq, Run.keep.injEq, List.append_eq_nil_iff]
    exact fun hs => ⟨fun h => hs.1 h.1, hs.2.2⟩
  · exact .refl _

/-- Kept items behind a list of runs may join its last run. -/
theorem agrees_keepBehind (l : List α) (s : Script α) :
    Agrees (s.reverse ++ [.keep l]) (keepBehind l s).reverse := by
  unfold keepBehind
  split
  · refine ⟨by simp [Run.old], by simp [Run.new], by simp, ?_⟩
    simp only [List.reverse_cons, solid_append, solid_cons, ne_eq, Run.keep.injEq,
      List.append_eq_nil_iff]
    exact fun hs => ⟨hs.1.1, fun h => hs.2.1 h.2, hs.2.2⟩
  · simpa using Agrees.refl _

variable [DecidableEq α]

/-- A move up leaves a script that agrees with the one before. -/
theorem agrees_moveUp? {p q : Place α} (h : moveUp? p = some q) : Agrees p.script q.script := by
  obtain ⟨before, run, behind⟩ := p
  unfold moveUp? at h
  split at h
  case h_7 => cases h
  all_goals
    rename_i l m before hrun hbefore
    simp only at hrun hbefore
    subst hrun hbefore
  · obtain ⟨hm, hl⟩ := splitEnd_eq m l
    split at h
    · rename_i m' l' c cs he
      simp only [he] at hm hl
      cases h
      have hup := (agrees_up hm hl (by simp)).around before.reverse behind
      have hjoin := (agrees_keepBefore (c :: cs) behind).around
        (before.reverse ++ keepRun m' ++ [.add (c :: cs ++ l')]) []
      simp only [Place.script, keepRun_append, List.reverse_append, reverse_keepRun]
      simpa using hup.trans (by simpa using hjoin)
    · split at h
      · rename_i hempty
        cases h
        rw [List.isEmpty_iff.mp hempty]
        simpa [Place.script] using (agrees_drop_before (.add l)).around before.reverse behind
      · cases h
  · split at h
    · rename_i hempty
      cases h
      rw [List.isEmpty_iff.mp hempty]
      simpa [Place.script] using (agrees_drop_before (.remove l)).around before.reverse behind
    · cases h
  · cases h
    simpa [Place.script] using (agrees_remove_add m l).around before.reverse behind
  · cases h
    simpa [Place.script] using (agrees_add_remove m l).around before.reverse behind
  · cases h
    simpa [Place.script] using (agrees_add_add m l).around before.reverse behind
  · cases h
    simpa [Place.script] using (agrees_remove_remove m l).around before.reverse behind

/-- A move down leaves a script that agrees with the one before. -/
theorem agrees_moveDown? {p q : Place α} (h : moveDown? p = some q) :
    Agrees p.script q.script := by
  obtain ⟨before, run, behind⟩ := p
  unfold moveDown? at h
  split at h
  case h_7 => cases h
  all_goals
    rename_i l m behind hrun hbehind
    simp only at hrun hbehind
    subst hrun hbehind
  · obtain ⟨hm, hl⟩ := splitStart_eq m l
    split at h
    · rename_i c cs m' l' he
      simp only [he] at hm hl
      cases h
      have hdown := (agrees_down hm hl (by simp)).around before.reverse behind
      have hjoin := (agrees_keepBehind (c :: cs) before).around []
        (.add (l' ++ c :: cs) :: (keepRun m' ++ behind))
      simp only [Place.script, keepRun_append]
      simpa using hdown.trans (by simpa using hjoin)
    · split at h
      · rename_i hempty
        cases h
        rw [List.isEmpty_iff.mp hempty]
        simpa [Place.script] using (agrees_drop_behind (.add l)).around before.reverse behind
      · cases h
  · split at h
    · rename_i hempty
      cases h
      rw [List.isEmpty_iff.mp hempty]
      simpa [Place.script] using (agrees_drop_behind (.remove l)).around before.reverse behind
    · cases h
  · cases h
    simpa [Place.script] using (agrees_add_remove l m).around before.reverse behind
  · cases h
    simpa [Place.script] using (agrees_remove_add l m).around before.reverse behind
  · cases h
    simpa [Place.script] using (agrees_add_add l m).around before.reverse behind
  · cases h
    simpa [Place.script] using (agrees_remove_remove l m).around before.reverse behind

theorem agrees_moveUp (fuel : Nat) (p : Place α) : Agrees p.script (moveUp fuel p).script := by
  induction fuel generalizing p with
  | zero => exact .refl _
  | succ fuel ih =>
    rw [moveUp]
    split
    · rename_i q h
      exact (agrees_moveUp? h).trans (ih q)
    · exact .refl _

theorem agrees_moveDown (fuel : Nat) (p : Place α) : Agrees p.script (moveDown fuel p).script := by
  induction fuel generalizing p with
  | zero => exact .refl _
  | succ fuel ih =>
    rw [moveDown]
    split
    · rename_i q h
      exact (agrees_moveDown? h).trans (ih q)
    · exact .refl _

theorem agrees_settle (p : Place α) : Agrees p.script (settle p).script :=
  (agrees_moveUp _ p).trans (agrees_moveDown _ _)

/-- A pass over the runs of one kind agrees with the script, wherever the pass has come to. -/
theorem agrees_compactKind (wanted : Run α → Bool) (fuel : Nat) (before behind : Script α) :
    Agrees (before.reverse ++ behind) (compactKind wanted fuel before behind) := by
  induction fuel generalizing before behind with
  | zero => exact .refl _
  | succ fuel ih =>
    cases behind with
    | nil => simpa [compactKind] using Agrees.refl before.reverse
    | cons r behind =>
      rw [compactKind]
      split
      · have h := agrees_settle ⟨before, r, behind⟩
        have h' := ih ((settle ⟨before, r, behind⟩).run :: (settle ⟨before, r, behind⟩).before)
          (settle ⟨before, r, behind⟩).behind
        exact h.trans (by simpa [Place.script] using h')
      · simpa using ih (r :: before) behind

/-- Compaction agrees with the script. -/
theorem agrees_compact (s : Script α) : Agrees s (compact s) :=
  (agrees_compactKind Run.isRemove _ [] s).trans (agrees_compactKind Run.isAdd _ [] _)

/-- The compacted script leads from the one sequence to the other. -/
theorem leads_compact_script (old new : List α) : Leads (compact (script old new)) old new :=
  (agrees_compact _).leads (leads_script old new)

end ChangeDesk.Diff
