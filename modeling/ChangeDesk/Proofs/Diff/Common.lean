import ChangeDesk.Diff.Script
import Mathlib.Order.Bounds.Defs
import Mathlib.Data.List.Basic

/-!
How far two sequences are apart, measured by their common subsequences. What is outside a longest one is what a
shortest script removes and adds. A way in the edit graph of the two sequences is a common subsequence of the
parts it has passed, so its steps are facts about subsequences and no graph is needed.
-/
namespace ChangeDesk.Diff

variable {α : Type} {as bs cs ds s : List α} {d e x y : Nat}

/-- At most `d` items of the two sequences are outside a common subsequence of theirs. -/
def Apart (d : Nat) (as bs : List α) : Prop :=
  ∃ s : List α, s.Sublist as ∧ s.Sublist bs ∧ as.length + bs.length ≤ d + 2 * s.length

/-- A way from the start comes to position `x` of the one sequence and `y` of the other with at most `d`
differences. Positions behind the end are reached like all others, but nothing is kept there. -/
def Reaches (as bs : List α) (d x y : Nat) : Prop :=
  ∃ s : List α, s.Sublist (as.take x) ∧ s.Sublist (bs.take y) ∧ x + y ≤ d + 2 * s.length

/-- The same item stands at position `i` of the one sequence and `j` of the other. -/
def Agree (as bs : List α) (i j : Nat) : Prop := ∃ c, as[i]? = some c ∧ bs[j]? = some c

theorem sublist_take_succ {n : Nat} (h : s.Sublist (as.take (n + 1))) :
    s.Sublist (as.take n) ∨ ∃ t c, s = t ++ [c] ∧ t.Sublist (as.take n) ∧ as[n]? = some c := by
  rw [List.take_add_one] at h
  obtain ⟨t, u, rfl, ht, hu⟩ := List.sublist_append_iff.1 h
  cases hc : as[n]? with
  | none =>
    rw [hc] at hu
    obtain rfl : u = [] := by simpa using hu
    exact .inl (by simpa using ht)
  | some c =>
    rw [hc] at hu
    rcases List.sublist_singleton.1 hu with rfl | rfl
    · exact .inl (by simpa using ht)
    · exact .inr ⟨t, c, rfl, ht, rfl⟩

namespace Reaches

/-- Without keeping anything a way comes as far as its differences lead. -/
theorem of_le (h : x + y ≤ d) : Reaches as bs d x y := ⟨[], by simp, by simp, by simpa using h⟩

theorem right (h : Reaches as bs d x y) : Reaches as bs (d + 1) (x + 1) y := by
  obtain ⟨s, hs, hs', hlength⟩ := h
  exact ⟨s, hs.trans (List.take_sublist_take_left (by omega)), hs', by omega⟩

theorem down (h : Reaches as bs d x y) : Reaches as bs (d + 1) x (y + 1) := by
  obtain ⟨s, hs, hs', hlength⟩ := h
  exact ⟨s, hs, hs'.trans (List.take_sublist_take_left (by omega)), by omega⟩

/-- An item in which both agree is kept. -/
theorem keep (h : Reaches as bs d x y) (hxy : Agree as bs x y) : Reaches as bs d (x + 1) (y + 1) := by
  obtain ⟨s, hs, hs', hlength⟩ := h
  obtain ⟨c, hc, hc'⟩ := hxy
  refine ⟨s ++ [c], ?_, ?_, ?_⟩
  · rw [List.take_add_one, hc]
    exact hs.append (List.Sublist.refl _)
  · rw [List.take_add_one, hc']
    exact hs'.append (List.Sublist.refl _)
  · rw [List.length_append, List.length_singleton]
    omega

/-- What reaches a place reaches the one before it on the diagonal. -/
theorem back (h : Reaches as bs d (x + 1) (y + 1)) : Reaches as bs d x y := by
  obtain ⟨s, hs, hs', hlength⟩ := h
  have hlast {cs : List α} {n : Nat} (h : s.Sublist (cs.take (n + 1))) :
      s.dropLast.Sublist (cs.take n) := by
    rcases sublist_take_succ h with h | ⟨t, c, rfl, ht, -⟩
    · exact (List.dropLast_sublist s).trans h
    · simpa using ht
  refine ⟨s.dropLast, hlast hs, hlast hs', ?_⟩
  rw [List.length_dropLast]
  omega

/-- Where the items differ, the last step goes to the right or down. -/
theorem step (h : Reaches as bs d (x + 1) (y + 1)) (hxy : ¬ Agree as bs x y) :
    ∃ e, d = e + 1 ∧ (Reaches as bs e x (y + 1) ∨ Reaches as bs e (x + 1) y) := by
  obtain ⟨s, hs, hs', hlength⟩ := h
  have hx := hs.length_le
  have hy := hs'.length_le
  rw [List.length_take] at hx hy
  rcases sublist_take_succ hs with hs | ⟨t, c, rfl, ht, hc⟩
  · have hx := hs.length_le
    rw [List.length_take] at hx
    exact ⟨d - 1, by omega, .inl ⟨s, hs, hs', by omega⟩⟩
  · rcases sublist_take_succ hs' with hs' | ⟨t', c', htc, -, hc'⟩
    · have hy := hs'.length_le
      rw [List.length_take] at hy
      exact ⟨d - 1, by omega, .inr ⟨_, hs, hs', by omega⟩⟩
    · obtain ⟨-, hlast⟩ := List.append_inj' htc rfl
      obtain rfl := List.singleton_inj.1 hlast
      exact absurd ⟨c, hc, hc'⟩ hxy

theorem bounds (h : Reaches as bs d x y) : x ≤ y + d ∧ y ≤ x + d := by
  obtain ⟨s, hs, hs', hlength⟩ := h
  have hx := hs.length_le
  have hy := hs'.length_le
  rw [List.length_take] at hx hy
  omega

theorem back_along (t : Nat) (h : Reaches as bs d (x + t) (y + t)) : Reaches as bs d x y := by
  induction t with
  | zero => exact h
  | succ t ih => exact ih h.back

theorem keep_along (t : Nat) (h : Reaches as bs d x y) (ht : ∀ i < t, Agree as bs (x + i) (y + i)) :
    Reaches as bs d (x + t) (y + t) := by
  induction t with
  | zero => exact h
  | succ t ih => exact (ih fun i hi => ht i (by omega)).keep (ht t (by omega))

end Reaches

namespace Apart

theorem all (as bs : List α) : Apart (as.length + bs.length) as bs := ⟨[], by simp, by simp, by simp⟩

theorem bounds (h : Apart d as bs) : as.length ≤ bs.length + d ∧ bs.length ≤ as.length + d := by
  obtain ⟨s, hs, hs', hlength⟩ := h
  have hx := hs.length_le
  have hy := hs'.length_le
  omega

theorem append (h : Apart d as bs) (h' : Apart e cs ds) : Apart (d + e) (as ++ cs) (bs ++ ds) := by
  obtain ⟨s, hs, hs', hlength⟩ := h
  obtain ⟨t, ht, ht', hlength'⟩ := h'
  refine ⟨s ++ t, hs.append ht, hs'.append ht', ?_⟩
  simp only [List.length_append]
  omega

theorem reverse (h : Apart d as bs) : Apart d as.reverse bs.reverse := by
  obtain ⟨s, hs, hs', hlength⟩ := h
  exact ⟨s.reverse, hs.reverse, hs'.reverse, by simpa using hlength⟩

theorem reverse_iff : Apart d as.reverse bs.reverse ↔ Apart d as bs :=
  ⟨fun h => by simpa using h.reverse, reverse⟩

/-- What both begin with makes no difference. -/
theorem of_append_left (h : Apart d (s ++ as) (s ++ bs)) : Apart d as bs := by
  induction s with
  | nil => exact h
  | cons c s ih =>
    obtain ⟨t, ht, ht', hlength⟩ := h
    refine ih ⟨t.tail, ht.tail, ht'.tail, ?_⟩
    simp only [List.cons_append, List.length_cons] at hlength
    rw [List.length_tail]
    omega

/-- What both end with makes no difference. -/
theorem of_append_right (h : Apart d (as ++ s) (bs ++ s)) : Apart d as bs := by
  rw [← reverse_iff, List.reverse_append, List.reverse_append] at h
  exact reverse_iff.1 h.of_append_left

theorem left (p : List α) : Apart p.length p ([] : List α) := all p []

theorem right (p : List α) : Apart p.length ([] : List α) p := by simpa using all [] p

theorem same (s : List α) : Apart 0 s s := ⟨s, List.Sublist.refl s, List.Sublist.refl s, by omega⟩

/-- The items outside a common subsequence can be shared out between a front and a rest in any way. -/
theorem exists_parts (hs : s.Sublist as) (hs' : s.Sublist bs)
    (h : as.length + bs.length = d + e + 2 * s.length) :
    ∃ as₁ as₂ bs₁ bs₂, as = as₁ ++ as₂ ∧ bs = bs₁ ++ bs₂ ∧ (as₁.length + bs₁.length + d) % 2 = 0 ∧
      Apart d as₁ bs₁ ∧ Apart e as₂ bs₂ := by
  induction hs generalizing bs d with
  | slnil =>
    have hd : (bs.take d).length = d := by
      simp only [List.length_nil] at h
      rw [List.length_take]
      omega
    have he : (bs.drop d).length = e := by
      simp only [List.length_nil] at h
      rw [List.length_drop]
      omega
    refine ⟨[], [], bs.take d, bs.drop d, rfl, (List.take_append_drop d bs).symm, ?_, ?_, ?_⟩
    · simp only [List.length_nil]
      omega
    · simpa [hd] using right (bs.take d)
    · simpa [he] using right (bs.drop d)
  | @cons s as a hs ih =>
    cases d with
    | zero =>
      exact ⟨[], a :: as, [], bs, rfl, rfl, rfl, same [], s, hs.cons a, hs', by omega⟩
    | succ d =>
      obtain ⟨as₁, as₂, bs₁, bs₂, rfl, rfl, hparity, hfront, hrest⟩ := ih (d := d) hs' (by
        simp only [List.length_cons] at h
        omega)
      refine ⟨a :: as₁, as₂, bs₁, bs₂, rfl, rfl, ?_, ?_, hrest⟩
      · simp only [List.length_cons]
        omega
      · rw [Nat.add_comm]
        exact (left [a]).append hfront
  | @cons_cons s as a hs ih =>
    -- The item is kept, so the other sequence has it as well, behind items of which none is kept.
    obtain ⟨front, bs, rfl, ha, htail⟩ := List.cons_sublist_iff.1 hs'
    obtain ⟨p, q, rfl⟩ := List.append_of_mem ha
    have hq : s.Sublist (q ++ bs) := htail.trans (List.sublist_append_right q bs)
    simp only [List.length_append, List.length_cons] at h
    by_cases hd : d ≤ p.length
    · refine ⟨[], a :: as, p.take d, p.drop d ++ a :: (q ++ bs), rfl, ?_, ?_, ?_, a :: s, ?_, ?_, ?_⟩
      · rw [← List.append_assoc, List.take_append_drop]
        simp
      · rw [List.length_take, List.length_nil]
        omega
      · simpa [Nat.min_eq_left hd] using right (p.take d)
      · exact hs.cons_cons a
      · exact (hq.cons_cons a).trans (List.sublist_append_right _ _)
      · simp only [List.length_append, List.length_cons, List.length_drop]
        omega
    · obtain ⟨as₁, as₂, bs₁, bs₂, rfl, hbs, hparity, hfront, hrest⟩ := @ih (q ++ bs)
        (d - p.length) hq (by
          rw [List.length_append]
          omega)
      refine ⟨a :: as₁, as₂, p ++ a :: bs₁, bs₂, rfl, by simp [hbs], ?_, ?_, hrest⟩
      · simp only [List.length_append, List.length_cons]
        omega
      · have hd' : p.length + 0 + (d - p.length) = d := by omega
        have := ((right p).append (same [a])).append hfront
        rw [hd'] at this
        simpa using this

/-- The same with the two places at which the sequences are cut. -/
theorem exists_cut (hs : s.Sublist as) (hs' : s.Sublist bs)
    (h : as.length + bs.length = d + e + 2 * s.length) :
    ∃ x y, x ≤ as.length ∧ y ≤ bs.length ∧ (x + y + d) % 2 = 0 ∧ Apart d (as.take x) (bs.take y) ∧
      Apart e (as.drop x) (bs.drop y) := by
  obtain ⟨as₁, as₂, bs₁, bs₂, rfl, rfl, hparity, hfront, hrest⟩ := exists_parts hs hs' h
  exact ⟨as₁.length, bs₁.length, by simp, by simp, hparity, by simpa using hfront, by simpa using hrest⟩

end Apart

theorem reaches_iff (hx : x ≤ as.length) (hy : y ≤ bs.length) :
    Reaches as bs d x y ↔ Apart d (as.take x) (bs.take y) := by
  rw [Reaches, Apart, List.length_take, List.length_take, Nat.min_eq_left hx, Nat.min_eq_left hy]

/-- A way from the end is one from the start between the sequences back to front. -/
theorem reaches_reverse_iff (hx : x ≤ as.length) (hy : y ≤ bs.length) :
    Reaches as.reverse bs.reverse d (as.length - x) (bs.length - y) ↔ Apart d (as.drop x) (bs.drop y) := by
  rw [reaches_iff (by simp) (by simp), List.take_reverse, List.take_reverse, Apart.reverse_iff,
    Nat.sub_sub_self hx, Nat.sub_sub_self hy]

end ChangeDesk.Diff
