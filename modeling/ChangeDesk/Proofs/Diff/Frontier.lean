import ChangeDesk.Proofs.Diff.Common

/-!
The table of furthest positions. On one diagonal a position is reached if a later one is, so the table knows all
about a diagonal by its furthest position. A way with `d + 1` differences starts from the further one of the two
neighbours that have `d`, and follows all that agrees from there. A sweep extends the ways on all diagonals in turn,
unless one of them meets the other search.
-/
namespace ChangeDesk.Diff

variable {α : Type} {as bs : List α} {d e x y bound : Nat} {k j : Int} {f : Frontier}

theorem mem_diagonals : k ∈ diagonals d ↔ -d ≤ k ∧ k ≤ d ∧ (k - d) % 2 = 0 := by
  simp only [diagonals, List.mem_map, List.mem_range]
  constructor
  · rintro ⟨i, hi, rfl⟩
    omega
  · rintro ⟨hlow, hhigh, hparity⟩
    exact ⟨((d - k) / 2).toNat, by omega, by omega⟩

section Agreeing

variable [DecidableEq α]

theorem agreeing_succ (as bs : List α) (fuel i j : Nat) :
    (Agree as bs i j ∧ agreeing as.toArray bs.toArray (fuel + 1) i j =
      agreeing as.toArray bs.toArray fuel (i + 1) (j + 1) + 1) ∨
    (¬ Agree as bs i j ∧ agreeing as.toArray bs.toArray (fuel + 1) i j = 0) := by
  simp only [agreeing, List.getElem?_toArray]
  split
  · rename_i a b ha hb
    by_cases h : a = b
    · exact .inl ⟨⟨a, ha, h ▸ hb⟩, if_pos h⟩
    · refine .inr ⟨?_, if_neg h⟩
      rintro ⟨c, hc, hc'⟩
      rw [ha] at hc
      rw [hb] at hc'
      exact h (Option.some.inj (hc.trans hc'.symm))
  · rename_i hnone
    refine .inr ⟨?_, rfl⟩
    rintro ⟨c, hc, hc'⟩
    exact hnone c c hc hc'

/-- What is counted agrees, and what stands behind it does not. -/
theorem exists_agreeing (as bs : List α) (fuel i j : Nat) :
    ∃ t, agreeing as.toArray bs.toArray fuel i j = t ∧ t ≤ fuel ∧
      (∀ l < t, Agree as bs (i + l) (j + l)) ∧ (t < fuel → ¬ Agree as bs (i + t) (j + t)) := by
  induction fuel generalizing i j with
  | zero => exact ⟨0, rfl, Nat.le_refl 0, by simp, by simp⟩
  | succ fuel ih =>
    rcases agreeing_succ as bs fuel i j with ⟨hagree, hcount⟩ | ⟨hagree, hcount⟩
    · obtain ⟨t, ht, hfuel, hkept, hnext⟩ := ih (i + 1) (j + 1)
      refine ⟨t + 1, by rw [hcount, ht], by omega, ?_, ?_⟩
      · intro l hl
        cases l with
        | zero => exact hagree
        | succ l =>
          rw [Nat.add_comm l, ← Nat.add_assoc, ← Nat.add_assoc]
          exact hkept l (by omega)
      · intro hlt
        rw [Nat.add_comm t, ← Nat.add_assoc, ← Nat.add_assoc]
        exact hnext (by omega)
    · exact ⟨0, hcount, by omega, by simp, fun _ => hagree⟩

/-- From a position on, all is counted that agrees. -/
theorem exists_agreeingFrom (as bs : List α) (x y : Nat) :
    ∃ t, agreeingFrom as.toArray bs.toArray x y = t ∧
      (∀ l < t, Agree as bs (x + l) (y + l)) ∧ ¬ Agree as bs (x + t) (y + t) := by
  obtain ⟨t, ht, hfuel, hkept, hnext⟩ := exists_agreeing as bs (as.length - x) x y
  refine ⟨t, by simpa [agreeingFrom] using ht, hkept, ?_⟩
  by_cases hlt : t < as.length - x
  · exact hnext hlt
  · rintro ⟨c, hc, -⟩
    have := (List.getElem?_eq_some_iff.1 hc).1
    omega

end Agreeing

namespace Frontier

/-- The table has a cell for every diagonal below the bound. -/
structure Fits (f : Frontier) (bound : Nat) : Prop where
  size : f.cells.size = 2 * f.offset
  bound : bound ≤ f.offset

theorem fits_start (offset : Nat) : (start offset).Fits offset := ⟨by simp [start], by simp [start]⟩

theorem Fits.put (h : f.Fits bound) (k : Int) (x : Nat) : (f.put k x).Fits bound :=
  ⟨by simpa [Frontier.put] using h.size, h.bound⟩

theorem reach_put (h : f.Fits bound) (hlow : -bound ≤ k) (hhigh : k < bound) (x : Nat) :
    (f.put k x).reach k = x := by
  have hsize := h.size
  have hbound := h.bound
  have hin : (k + f.offset).toNat < f.cells.size := by omega
  simp [reach, Frontier.put, hin]

theorem reach_put_of_ne (h : f.Fits bound) (hk : -bound ≤ k) (hj : -bound ≤ j) (hne : j ≠ k) (x : Nat) :
    (f.put k x).reach j = f.reach j := by
  have hbound := h.bound
  have hcell : (k + f.offset).toNat ≠ (j + f.offset).toNat := by omega
  simp [reach, Frontier.put, Array.getElem?_setIfInBounds_ne hcell]

/-- The table has the furthest position on a diagonal that is reached with `d` differences. -/
def Knows (f : Frontier) (as bs : List α) (d : Nat) (k : Int) : Prop :=
  ∀ x y : Nat, (x : Int) - y = k → (Reaches as bs d x y ↔ x ≤ f.reach k)

theorem Knows.congr {g : Frontier} (h : f.Knows as bs d k) (hg : g.reach k = f.reach k) : g.Knows as bs d k := by
  intro x y hxy
  rw [hg]
  exact h x y hxy

/-- What the table has before the ways with `d` differences are extended. -/
def Ready (f : Frontier) (as bs : List α) : Nat → Prop
  | 0 => f.reach 1 = 0
  | d + 1 => ∀ k ∈ diagonals d, f.Knows as bs d k

/-- The furthest position is reached itself. -/
theorem Knows.exists_reach (h : f.Knows as bs d k) (hk : k ∈ diagonals d) :
    ∃ y : Nat, (f.reach k : Int) - y = k ∧ Reaches as bs d (f.reach k) y := by
  obtain ⟨hlow, hhigh, -⟩ := mem_diagonals.1 hk
  have hfar : k ≤ f.reach k := by
    by_cases hpos : 0 ≤ k
    · have := (h k.toNat 0 (by omega)).1 (.of_le (by omega))
      omega
    · omega
  exact ⟨((f.reach k : Int) - k).toNat, by omega, (h _ _ (by omega)).2 (Nat.le_refl _)⟩

/-- Where the next way on a diagonal starts: it is reached, and it is not before the ends of the ways from the two
neighbouring diagonals. -/
theorem Ready.exists_next (h : f.Ready as bs d) (hk : k ∈ diagonals d) :
    ∃ y : Nat, (f.next d k : Int) - y = k ∧ Reaches as bs d (f.next d k) y ∧
      ∀ e u v : Nat, d = e + 1 → (u : Int) - v = k →
        Reaches as bs e u (v + 1) ∨ Reaches as bs e (u + 1) v → u < f.next d k := by
  obtain ⟨hlow, hhigh, hparity⟩ := mem_diagonals.1 hk
  cases d with
  | zero =>
    obtain rfl : k = 0 := by omega
    have hzero : f.reach 1 = 0 := h
    have hnext : f.next 0 0 = 0 := by simp [next, hzero]
    exact ⟨0, by omega, .of_le (by omega), by omega⟩
  | succ d =>
    have hright (hmem : k - 1 ∈ diagonals d) {u v : Nat} (huv : (u : Int) - v = k)
        (hreach : Reaches as bs d u (v + 1)) : u ≤ f.reach (k - 1) :=
      (h _ hmem u (v + 1) (by omega)).1 hreach
    have hdown (hmem : k + 1 ∈ diagonals d) {u v : Nat} (huv : (u : Int) - v = k)
        (hreach : Reaches as bs d (u + 1) v) : u + 1 ≤ f.reach (k + 1) :=
      (h _ hmem (u + 1) v (by omega)).1 hreach
    rw [next]
    split
    · rename_i hup
      have hmem : k + 1 ∈ diagonals d := mem_diagonals.2 (by omega)
      obtain ⟨y, hy, hreach⟩ := (h _ hmem).exists_reach hmem
      refine ⟨y + 1, by omega, hreach.down, ?_⟩
      rintro e u v ⟨⟩ huv (hu | hu)
      · have hbounds := hu.bounds
        have := hright (mem_diagonals.2 (by omega)) huv hu
        omega
      · exact hdown hmem huv hu
    · rename_i hup
      have hmem : k - 1 ∈ diagonals d := mem_diagonals.2 (by omega)
      obtain ⟨y, hy, hreach⟩ := (h _ hmem).exists_reach hmem
      refine ⟨y, by omega, hreach.right, ?_⟩
      rintro e u v ⟨⟩ huv (hu | hu)
      · have := hright hmem huv hu
        omega
      · have hbounds := hu.bounds
        have := hdown (mem_diagonals.2 (by omega)) huv hu
        omega

/-- A table after the ways on some diagonals were extended; elsewhere it is as before. -/
structure Extends (f g : Frontier) (as bs : List α) (bound d : Nat) (ks : List Int) : Prop where
  fits : g.Fits bound
  knows : ∀ k ∈ ks, g.Knows as bs d k
  keeps : ∀ j, j ∉ ks → -bound ≤ j → g.reach j = f.reach j

theorem extends_nil (h : f.Fits bound) : f.Extends f as bs bound d [] :=
  ⟨h, by simp, fun _ _ _ => rfl⟩

variable [DecidableEq α]

/-- The next way on a diagonal, along all that agrees from its start, ends at the furthest position. -/
theorem Ready.exists_end (h : f.Ready as bs d) (hk : k ∈ diagonals d) :
    ∃ y t : Nat, (f.next d k : Int) - y = k ∧
      agreeingFrom as.toArray bs.toArray (f.next d k) ((f.next d k : Int) - k) = t ∧
      Reaches as bs d (f.next d k) y ∧ (∀ l < t, Agree as bs (f.next d k + l) (y + l)) ∧
      ∀ u v : Nat, (u : Int) - v = k → (Reaches as bs d u v ↔ u ≤ f.next d k + t) := by
  obtain ⟨y, hy, hstart, hlast⟩ := h.exists_next hk
  obtain ⟨t, ht, hkept, hdiffer⟩ := exists_agreeingFrom as bs (f.next d k) y
  have hend := hstart.keep_along t hkept
  refine ⟨y, t, hy, by rwa [show (f.next d k : Int) - k = y by omega], hstart, hkept, ?_⟩
  intro u v huv
  constructor
  · intro hreach
    by_contra hfar
    -- A way further on would have passed the first place where the items differ.
    obtain ⟨l, rfl⟩ : ∃ l, u = f.next d k + t + 1 + l := ⟨u - (f.next d k + t + 1), by omega⟩
    obtain rfl : v = y + t + 1 + l := by omega
    obtain ⟨e, he, hstep⟩ := (hreach.back_along l).step hdiffer
    have := hlast e (f.next d k + t) (y + t) he (by omega) hstep
    omega
  · intro hle
    obtain ⟨l, hl⟩ : ∃ l, f.next d k + t = u + l := ⟨f.next d k + t - u, by omega⟩
    have hl' : y + t = v + l := by omega
    rw [hl, hl'] at hend
    exact hend.back_along l

def ending (f : Frontier) (a b : Array α) (d : Nat) (k : Int) : Nat :=
  f.next d k + agreeingFrom a b (f.next d k) ((f.next d k : Int) - k)

def extended (f : Frontier) (a b : Array α) (d : Nat) (k : Int) : Frontier := f.put k (f.ending a b d k)

/-- Extending a way does not touch the diagonals beside its own. -/
theorem Ready.extended (h : f.Ready as bs d) (hf : f.Fits bound) (hd : d < bound) (hk : k ∈ diagonals d) :
    (f.extended as.toArray bs.toArray d k).Ready as bs d := by
  obtain ⟨hlow, hhigh, hparity⟩ := mem_diagonals.1 hk
  cases d with
  | zero => exact (reach_put_of_ne hf (by omega) (by omega) (by omega) _).trans h
  | succ d =>
    intro j hj
    obtain ⟨hlow', hhigh', hparity'⟩ := mem_diagonals.1 hj
    exact (h j hj).congr (reach_put_of_ne hf (by omega) (by omega) (by omega) _)

/-- Extending the ways one after the other. -/
theorem extends_cons {g : Frontier} {ks : List Int} (hf : f.Fits bound) (hd : d < bound)
    (hready : f.Ready as bs d) (hk : k ∈ diagonals d)
    (h : (f.extended as.toArray bs.toArray d k).Extends g as bs bound d ks) :
    f.Extends g as bs bound d (k :: ks) := by
  obtain ⟨hlow, hhigh, -⟩ := mem_diagonals.1 hk
  refine ⟨h.fits, ?_, ?_⟩
  · intro j hj
    by_cases hmem : j ∈ ks
    · exact h.knows j hmem
    · obtain rfl : j = k := (List.mem_cons.1 hj).resolve_right hmem
      obtain ⟨y, t, -, ht, -, -, hreach⟩ := hready.exists_end hk
      intro u v huv
      rw [h.keeps j hmem (by omega), Frontier.extended, reach_put hf (by omega) (by omega), ending, ht]
      exact hreach u v huv
  · intro j hj hbelow
    rw [List.mem_cons, not_or] at hj
    rw [h.keeps j hj.2 hbelow, Frontier.extended, reach_put_of_ne hf (by omega) hbelow hj.1]

/-- A way whose end meets one of the other search: its diagonal, and where on it the last run of kept items begins
and ends. -/
structure Meeting where
  diagonal : Int
  start : Nat
  stop : Nat

def Meeting.Ends (m : Meeting) (as bs : List α) (d : Nat) : Prop :=
  ∃ y t : Nat, (m.start : Int) - y = m.diagonal ∧ m.stop = m.start + t ∧ Reaches as bs d m.start y ∧
    ∀ l < t, Agree as bs (m.start + l) (y + l)

/-- Extends the ways on some diagonals one after the other, up to the first whose end meets the other search. -/
def sweep (a b : Array α) (d : Nat) (meets : Int → Nat → Prop) [∀ k x, Decidable (meets k x)] :
    List Int → Frontier → Option Meeting × Frontier
  | [], f => (none, f)
  | k :: ks, f =>
    if meets k (f.ending a b d k) then (some ⟨k, f.next d k, f.ending a b d k⟩, f.extended a b d k)
    else sweep a b d meets ks (f.extended a b d k)

variable {g : Frontier} {ks : List Int} {meets : Int → Nat → Prop} [∀ k x, Decidable (meets k x)]

/-- A sweep that meets nothing has extended all its ways, and where they end now nothing is met. -/
theorem Ready.extends_of_sweep (hready : f.Ready as bs d) (hf : f.Fits bound) (hd : d < bound)
    (hks : ∀ k ∈ ks, k ∈ diagonals d) (h : f.sweep as.toArray bs.toArray d meets ks = (none, g)) :
    f.Extends g as bs bound d ks ∧ ∀ k ∈ ks, ¬ meets k (g.reach k) := by
  -- The tests are made while the sweep goes on, but it never returns to a diagonal, so they hold of its result.
  induction ks generalizing f with
  | nil =>
    obtain ⟨-, rfl⟩ := Prod.mk.inj h
    exact ⟨extends_nil hf, by simp⟩
  | cons k ks ih =>
    have hk := hks k List.mem_cons_self
    rw [sweep] at h
    split at h
    · cases h
    · rename_i hmeets
      obtain ⟨hextends, hnone⟩ := ih (hready.extended hf hd hk) (hf.put _ _)
        (fun j hj => hks j (List.mem_cons_of_mem k hj)) h
      refine ⟨extends_cons hf hd hready hk hextends, ?_⟩
      intro j hj
      by_cases hmem : j ∈ ks
      · exact hnone j hmem
      · obtain rfl : j = k := (List.mem_cons.1 hj).resolve_right hmem
        have hin := mem_diagonals.1 hk
        rw [hextends.keeps j hmem (by omega), Frontier.extended, reach_put hf (by omega) (by omega)]
        exact hmeets

/-- A sweep stops at the end of a way that meets the other search. -/
theorem Ready.ends_of_sweep {m : Meeting} (hready : f.Ready as bs d) (hf : f.Fits bound) (hd : d < bound)
    (hks : ∀ k ∈ ks, k ∈ diagonals d) (h : f.sweep as.toArray bs.toArray d meets ks = (some m, g)) :
    g.Fits bound ∧ m.diagonal ∈ diagonals d ∧ meets m.diagonal m.stop ∧ m.Ends as bs d := by
  induction ks generalizing f with
  | nil => cases h
  | cons k ks ih =>
    have hk := hks k List.mem_cons_self
    rw [sweep] at h
    split at h
    · rename_i hmeets
      obtain ⟨hm, rfl⟩ := Prod.mk.inj h
      obtain rfl := Option.some.inj hm
      obtain ⟨y, t, hy, ht, hstart, hagree, -⟩ := hready.exists_end hk
      exact ⟨hf.put _ _, hk, hmeets, y, t, hy, by rw [ending, ht], hstart, hagree⟩
    · exact ih (hready.extended hf hd hk) (hf.put _ _) (fun j hj => hks j (List.mem_cons_of_mem k hj)) h

end Frontier

end ChangeDesk.Diff
