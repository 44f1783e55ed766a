import ChangeDesk.Proofs.Diff.Frontier

/-!
Where the two searches meet. After `d` differences from the front and `e` from the back that have not met, no
`d + e` differences lead from the one sequence to the other. The first ways that meet are therefore halves of a
shortest one, and the sequences can be cut at the meeting point.
-/
namespace ChangeDesk.Diff

variable {α : Type} {as bs : List α} {d e x y u v t bound : Nat} {k : Int}

/-- No fewer than `d` differences lead from the one sequence to the other. -/
def AtLeast (d : Nat) (as bs : List α) : Prop := ∀ n, Apart n as bs → d ≤ n

/-- If this many differences do not do, at least one more is needed. -/
theorem AtLeast.succ (h : AtLeast d as bs) (hnone : ¬ Apart d as bs) : AtLeast (d + 1) as bs := by
  intro n hn
  by_contra hfew
  have hle := h n hn
  exact hnone (by rwa [show d = n by omega])

/-- Cut at these two places, the parts in front are `d` differences apart at most, and those behind `e`. -/
structure Cuts (as bs : List α) (d e x y : Nat) : Prop where
  old : x ≤ as.length
  new : y ≤ bs.length
  front : Apart d (as.take x) (bs.take y)
  rest : Apart e (as.drop x) (bs.drop y)

/-- A way from the front to `(x, y)` and one from the back, `(u, v)` away from the end, lie on one diagonal, and
the first has come at least as far as the second. -/
structure Overlap (as bs : List α) (d e x y u v : Nat) : Prop where
  front : Reaches as bs d x y
  back : Reaches as.reverse bs.reverse e u v
  diagonal : (x : Int) - y + (u - v) = as.length - bs.length
  meets : as.length ≤ x + u

namespace Overlap

/-- Ways that overlap at the first opportunity have not left the sequences. -/
theorem inside (h : Overlap as bs d e x y u v) (hmin : AtLeast (d + e) as bs) :
    (x ≤ as.length ∧ y ≤ bs.length) ∧ u ≤ as.length ∧ v ≤ bs.length := by
  obtain ⟨s, hs, hs', hlength⟩ := h.front
  obtain ⟨r, hr, hr', hlength'⟩ := h.back
  have hold := hs.trans (List.take_sublist x as)
  have hnew := hs'.trans (List.take_sublist y bs)
  have hold' := hr.trans (List.take_sublist u as.reverse)
  have hnew' := hr'.trans (List.take_sublist v bs.reverse)
  have hfront := hmin (as.length + bs.length - 2 * s.length) ⟨s, hold, hnew, by omega⟩
  have hback := hmin (as.length + bs.length - 2 * r.length)
    (Apart.reverse_iff.1 ⟨r, hold', hnew', by simp only [List.length_reverse]; omega⟩)
  have hbounds := h.front.bounds
  have hbounds' := h.back.bounds
  have hdiagonal := h.diagonal
  have hs := hold.length_le
  have hs' := hnew.length_le
  have hr := hold'.length_le
  have hr' := hnew'.length_le
  rw [List.length_reverse] at hr hr'
  omega

/-- The sequences can be cut where the way from the back has come to. -/
theorem cuts_back (h : Overlap as bs d e x y u v) (hmin : AtLeast (d + e) as bs) :
    Cuts as bs d e (as.length - u) (bs.length - v) := by
  obtain ⟨-, hu, hv⟩ := h.inside hmin
  have hdiagonal := h.diagonal
  have hmeets := h.meets
  refine ⟨Nat.sub_le _ _, Nat.sub_le _ _, ?_, ?_⟩
  · rw [← reaches_iff (Nat.sub_le _ _) (Nat.sub_le _ _)]
    refine Reaches.back_along (x + u - as.length) ?_
    rw [show as.length - u + (x + u - as.length) = x by omega,
      show bs.length - v + (x + u - as.length) = y by omega]
    exact h.front
  · rw [← reaches_reverse_iff (Nat.sub_le _ _) (Nat.sub_le _ _), Nat.sub_sub_self hu, Nat.sub_sub_self hv]
    exact h.back

theorem agree_reverse {i j : Nat} (hi : i < as.length) (hj : j < bs.length)
    (h : Agree as bs (as.length - 1 - i) (bs.length - 1 - j)) : Agree as.reverse bs.reverse i j := by
  obtain ⟨c, hc, hc'⟩ := h
  exact ⟨c, by rwa [List.getElem?_reverse hi], by rwa [List.getElem?_reverse hj]⟩

/-- The sequences can be cut where the last run of kept items on the way from the front begins. -/
theorem cuts_front (h : Overlap as bs d e (x + t) (y + t) u v) (hmin : AtLeast (d + e) as bs)
    (hstart : Reaches as bs d x y) (ht : ∀ l < t, Agree as bs (x + l) (y + l)) : Cuts as bs d e x y := by
  obtain ⟨⟨hx, hy⟩, hu, hv⟩ := h.inside hmin
  have hdiagonal := h.diagonal
  have hmeets := h.meets
  refine ⟨by omega, by omega, ?_, ?_⟩
  · rw [← reaches_iff (by omega) (by omega)]
    exact hstart
  · rw [← reaches_reverse_iff (by omega) (by omega)]
    by_cases hpassed : as.length - x ≤ u
    · -- The way from the back has come past the cut.
      refine Reaches.back_along (u - (as.length - x)) ?_
      rw [show as.length - x + (u - (as.length - x)) = u by omega,
        show bs.length - y + (u - (as.length - x)) = v by omega]
      exact h.back
    · -- The way from the back ends within the run, so it can be kept going up to the cut.
      have hkept := h.back.keep_along (as.length - x - u) fun l hl => by
        refine agree_reverse (by omega) (by omega) ?_
        have hagree := ht (as.length - 1 - (u + l) - x) (by omega)
        rwa [show x + (as.length - 1 - (u + l) - x) = as.length - 1 - (u + l) by omega,
          show y + (as.length - 1 - (u + l) - x) = bs.length - 1 - (v + l) by omega] at hagree
      rwa [show u + (as.length - x - u) = as.length - x by omega,
        show v + (as.length - x - u) = bs.length - y by omega] at hkept

end Overlap

/-- Where no fewer differences do, some ways with that many differences overlap. -/
theorem exists_overlap {f g : Frontier} (hf : ∀ k ∈ diagonals d, f.Knows as bs d k)
    (hg : ∀ k ∈ diagonals e, g.Knows as.reverse bs.reverse e k) (hmin : AtLeast (d + e) as bs)
    (h : Apart (d + e) as bs) :
    ∃ k, k ∈ diagonals d ∧ (as.length : Int) - bs.length - k ∈ diagonals e ∧
      as.length ≤ f.reach k + g.reach ((as.length : Int) - bs.length - k) := by
  obtain ⟨s, hs, hs', hlength⟩ := h
  have hkept := hs.length_le
  have hkept' := hs'.length_le
  have hfewest := hmin (as.length + bs.length - 2 * s.length) ⟨s, hs, hs', by omega⟩
  obtain ⟨x, y, hx, hy, hparity, hfront, hrest⟩ := Apart.exists_cut (d := d) (e := e) hs hs' (by omega)
  rw [← reaches_iff hx hy] at hfront
  rw [← reaches_reverse_iff hx hy] at hrest
  have hbounds := hfront.bounds
  have hbounds' := hrest.bounds
  have hk : (x : Int) - y ∈ diagonals d := mem_diagonals.2 (by omega)
  have hk' : (as.length : Int) - bs.length - (x - y) ∈ diagonals e := mem_diagonals.2 (by omega)
  have hreach := (hf _ hk x y rfl).1 hfront
  have hreach' := (hg _ hk' _ _ (by omega)).1 hrest
  exact ⟨x - y, hk, hk', by omega⟩

variable [DecidableEq α]

structure Frontiers.Fits (f : Frontiers) (bound : Nat) : Prop where
  front : f.front.Fits bound
  back : f.back.Fits bound

namespace Search

def between (as bs : List α) : Search α := ⟨as.toArray, bs.toArray, as.reverse.toArray, bs.reverse.toArray⟩

omit [DecidableEq α] in
theorem old_between (as bs : List α) : (between as bs).old.size = as.length := by simp [between]

omit [DecidableEq α] in
theorem new_between (as bs : List α) : (between as bs).new.size = bs.length := by simp [between]

omit [DecidableEq α] in
theorem delta_between (as bs : List α) : (between as bs).delta = as.length - bs.length := by
  simp [delta, between]

/-- A pass from the front is a sweep of the front table. It reports where the run that meets begins. -/
theorem forward_eq (s : Search α) (d : Nat) (ks : List Int) (f : Frontiers) :
    s.forward d ks f = Prod.map
      (Option.map fun m => (m.start, ((m.start : Int) - m.diagonal).toNat)) (fun g => ⟨g, f.back⟩)
      (f.front.sweep s.old s.new d (fun k x => s.delta % 2 = 1 ∧ ((k - s.delta).natAbs : Int) ≤ (d : Int) - 1 ∧
        s.old.size ≤ x + f.back.reach (s.delta - k)) ks) := by
  induction ks generalizing f with
  | nil => rfl
  | cons k ks ih =>
    rw [forward, Frontier.sweep, apply_ite (Prod.map _ _)]
    exact if_congr Iff.rfl rfl (ih _)

/-- A pass from the back is a sweep of the back table. It reports where the run that meets ends, from the front. -/
theorem backward_eq (s : Search α) (d : Nat) (ks : List Int) (f : Frontiers) :
    s.backward d ks f = Prod.map
      (Option.map fun m => (s.old.size - m.stop, ((s.new.size : Int) - (m.stop - m.diagonal)).toNat))
      (fun g => ⟨f.front, g⟩)
      (f.back.sweep s.oldBack s.newBack d (fun k x => s.delta % 2 ≠ 1 ∧ (k - s.delta).natAbs ≤ d ∧
        s.old.size ≤ x + f.front.reach (s.delta - k)) ks) := by
  induction ks generalizing f with
  | nil => rfl
  | cons k ks ih =>
    rw [backward, Frontier.sweep, apply_ite (Prod.map _ _)]
    refine if_congr Iff.rfl ?_ (ih _)
    have hstop : (f.back.next d k : Int) - k +
        agreeingFrom s.oldBack s.newBack (f.back.next d k) (f.back.next d k - k) =
        f.back.ending s.oldBack s.newBack d k - k := by
      unfold Frontier.ending
      omega
    rw [hstop]
    rfl

variable {f g : Frontiers} {p : Nat × Nat}

/-- The tables before the ways with `d` differences are extended from the front, when no fewer than `2 * d - 1`
differences do. -/
structure Before (f : Frontiers) (as bs : List α) (bound d : Nat) : Prop where
  fits : f.Fits bound
  front : f.front.Ready as bs d
  back : f.back.Ready as.reverse bs.reverse d
  fewest : AtLeast (2 * d - 1) as bs

/-- The tables between the two passes for `d` differences, when no fewer than `2 * d` differences do. -/
structure Midway (f : Frontiers) (as bs : List α) (bound d : Nat) : Prop where
  fits : f.Fits bound
  front : ∀ k ∈ diagonals d, f.front.Knows as bs d k
  back : f.back.Ready as.reverse bs.reverse d
  fewest : AtLeast (2 * d) as bs

/-- What a pass from the front finds is a place to cut. -/
theorem Before.cuts_of_forward (h : Before f as bs bound d) (hd : d < bound)
    (hforward : (between as bs).forward d (diagonals d) f = (some p, g)) :
    g.Fits bound ∧ ∃ e, d = e + 1 ∧ Cuts as bs d e p.1 p.2 := by
  rw [forward_eq] at hforward
  obtain ⟨hfound, rfl⟩ := Prod.mk.inj hforward
  obtain ⟨m, hm, rfl⟩ := Option.map_eq_some_iff.1 hfound
  obtain ⟨hfits, hk, ⟨hodd, hnear, hover⟩, y, t, hy, hstop, hstart, hagree⟩ :=
    h.front.ends_of_sweep h.fits.front hd (fun k hk => hk) (Prod.ext hm rfl)
  obtain ⟨e, rfl⟩ : ∃ e, d = e + 1 := ⟨d - 1, by omega⟩
  simp only [delta_between, old_between] at hodd hnear hover
  have hmem := mem_diagonals.1 hk
  have hmem' : (as.length : Int) - bs.length - m.diagonal ∈ diagonals e := mem_diagonals.2 (by omega)
  obtain ⟨v, hv, hreach⟩ := (h.back _ hmem').exists_reach hmem'
  have hoverlap : Overlap as bs (e + 1) e (m.start + t) (y + t) _ v :=
    ⟨hstart.keep_along t hagree, hreach, by omega, hstop ▸ hover⟩
  have hfewest := h.fewest
  rw [show 2 * (e + 1) - 1 = e + 1 + e by omega] at hfewest
  refine ⟨⟨hfits, h.fits.back⟩, e, rfl, ?_⟩
  rw [show ((m.start : Int) - m.diagonal).toNat = y by omega]
  exact hoverlap.cuts_front hfewest hstart hagree

/-- What a pass from the back finds is a place to cut. -/
theorem Midway.cuts_of_backward (h : Midway f as bs bound d) (hd : d < bound)
    (hbackward : (between as bs).backward d (diagonals d) f = (some p, g)) :
    g.Fits bound ∧ Cuts as bs d d p.1 p.2 := by
  rw [backward_eq] at hbackward
  obtain ⟨hfound, rfl⟩ := Prod.mk.inj hbackward
  obtain ⟨m, hm, rfl⟩ := Option.map_eq_some_iff.1 hfound
  obtain ⟨hfits, hk, ⟨heven, hnear, hover⟩, y, t, hy, hstop, hstart, hagree⟩ :=
    h.back.ends_of_sweep h.fits.back hd (fun k hk => hk) (Prod.ext hm rfl)
  simp only [delta_between, old_between] at heven hnear hover
  have hmem := mem_diagonals.1 hk
  have hmem' : (as.length : Int) - bs.length - m.diagonal ∈ diagonals d := mem_diagonals.2 (by omega)
  obtain ⟨v, hv, hreach⟩ := (h.front _ hmem').exists_reach hmem'
  have hoverlap : Overlap as bs d d _ v (m.start + t) (y + t) :=
    ⟨hreach, hstart.keep_along t hagree, by omega, by omega⟩
  have hfewest := h.fewest
  rw [Nat.two_mul] at hfewest
  refine ⟨⟨h.fits.front, hfits⟩, ?_⟩
  have hcut := hoverlap.cuts_back hfewest
  rw [old_between, new_between, hstop]
  rwa [show ((bs.length : Int) - ((m.start + t : Nat) - m.diagonal)).toNat = bs.length - (y + t) by omega]

/-- After a pass from the front that meets nothing, at least one more difference is needed. -/
theorem Before.of_forward (h : Before f as bs bound d) (hd : d < bound)
    (hforward : (between as bs).forward d (diagonals d) f = (none, g)) : Midway g as bs bound d := by
  rw [forward_eq] at hforward
  obtain ⟨hnone, rfl⟩ := Prod.mk.inj hforward
  obtain ⟨hextends, hmissed⟩ := h.front.extends_of_sweep h.fits.front hd (fun k hk => hk)
    (Prod.ext (Option.map_eq_none_iff.1 hnone) rfl)
  refine ⟨⟨hextends.fits, h.fits.back⟩, hextends.knows, h.back, ?_⟩
  cases d with
  | zero => exact fun n _ => Nat.zero_le n
  | succ e =>
    have hfewest := h.fewest
    rw [show 2 * (e + 1) - 1 = e + 1 + e by omega] at hfewest
    rw [show 2 * (e + 1) = e + 1 + e + 1 by omega]
    refine hfewest.succ fun hapart => ?_
    obtain ⟨k, hk, hk', hover⟩ := exists_overlap hextends.knows h.back hfewest hapart
    have hin := mem_diagonals.1 hk
    have hin' := mem_diagonals.1 hk'
    refine hmissed k hk ?_
    simp only [delta_between, old_between]
    exact ⟨by omega, by omega, hover⟩

/-- After a pass from the back that meets nothing, at least one more difference is needed. -/
theorem Midway.of_backward (h : Midway f as bs bound d) (hd : d < bound)
    (hbackward : (between as bs).backward d (diagonals d) f = (none, g)) : Before g as bs bound (d + 1) := by
  rw [backward_eq] at hbackward
  obtain ⟨hnone, rfl⟩ := Prod.mk.inj hbackward
  obtain ⟨hextends, hmissed⟩ := h.back.extends_of_sweep h.fits.back hd (fun k hk => hk)
    (Prod.ext (Option.map_eq_none_iff.1 hnone) rfl)
  refine ⟨⟨h.fits.front, hextends.fits⟩, h.front, hextends.knows, ?_⟩
  have hfewest := h.fewest
  rw [Nat.two_mul] at hfewest
  rw [show 2 * (d + 1) - 1 = d + d + 1 by omega]
  refine hfewest.succ fun hapart => ?_
  obtain ⟨k, hk, hk', hover⟩ := exists_overlap h.front hextends.knows hfewest hapart
  have hin := mem_diagonals.1 hk
  have hin' := mem_diagonals.1 hk'
  refine hmissed _ hk' ?_
  simp only [delta_between, old_between]
  rw [show (as.length : Int) - bs.length - (as.length - bs.length - k) = k by omega, Nat.add_comm]
  exact ⟨by omega, by omega, hover⟩

/-- The search finds a place to cut on a shortest way. -/
theorem exists_run (fuel d : Nat) (hfuel : fuel + d = searchBound as.length bs.length)
    (hbound : searchBound as.length bs.length ≤ bound) (h : Before f as bs bound d) :
    ∃ p g, (between as bs).run fuel d f = (some p, g) ∧ g.Fits bound ∧
      ∃ d e, (d = e ∨ d = e + 1) ∧ AtLeast (d + e) as bs ∧ Cuts as bs d e p.1 p.2 := by
  induction fuel generalizing d f with
  | zero =>
    -- Past the bound more differences would be needed than there are items.
    have := h.fewest _ (.all as bs)
    unfold searchBound at hfuel
    omega
  | succ fuel ih =>
    have hd : d < bound := by omega
    rw [run]
    rcases hforward : (between as bs).forward d (diagonals d) f with ⟨_ | p, g⟩
    · have hmidway := h.of_forward hd hforward
      dsimp only
      rcases hbackward : (between as bs).backward d (diagonals d) g with ⟨_ | p, g'⟩
      · exact ih (d + 1) (by omega) (hmidway.of_backward hd hbackward)
      · obtain ⟨hfits, hcut⟩ := hmidway.cuts_of_backward hd hbackward
        refine ⟨p, g', rfl, hfits, d, d, .inl rfl, ?_, hcut⟩
        rw [← Nat.two_mul]
        exact hmidway.fewest
    · obtain ⟨hfits, e, rfl, hcut⟩ := h.cuts_of_forward hd hforward
      refine ⟨p, g, rfl, hfits, e + 1, e, .inr rfl, ?_, hcut⟩
      rw [show e + 1 + e = 2 * (e + 1) - 1 by omega]
      exact h.fewest

end Search

/-- The middle is a place to cut on a shortest way, which leaves at most half of the differences on each side. -/
theorem exists_middle {f : Frontiers} (hf : f.Fits bound) (hne : as ≠ [])
    (hbound : searchBound as.length bs.length ≤ bound) :
    ∃ p g, middle as bs f = (some p, g) ∧ g.Fits bound ∧
      ∃ d e, (d = e ∨ d = e + 1) ∧ AtLeast (d + e) as bs ∧ Cuts as bs d e p.1 p.2 := by
  have hlength := List.length_pos_iff.2 hne
  have hwide : 1 < bound := by
    unfold searchBound at hbound
    omega
  refine Search.exists_run _ 0 rfl hbound ⟨⟨hf.front.put 1 0, hf.back.put 1 0⟩, ?_, ?_, ?_⟩
  · exact Frontier.reach_put hf.front (by omega) (by omega) 0
  · exact Frontier.reach_put hf.back (by omega) (by omega) 0
  · exact fun n _ => Nat.zero_le n

end ChangeDesk.Diff
