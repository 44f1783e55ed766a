import ChangeDesk.Binary64
import Mathlib.Algebra.Order.Field.Power
import Mathlib.Algebra.Order.Field.Rat
import Mathlib.Tactic.Linarith
import Mathlib.Tactic.NormNum
import Mathlib.Tactic.Positivity
import Mathlib.Tactic.Ring

/-!
The rounding intervals of floating point numbers as intervals of rationals. A decimal that reads back lies in the
interval of its number, and the intervals of two magnitudes have no point in common: where they touch, one
of the two significands is odd and leaves the end to the other.
-/
namespace ChangeDesk.Binary64

def ratioValue (a : Nat × Nat) : ℚ := (a.1 : ℚ) / a.2

theorem ratioLt_iff {a b : Nat × Nat} (ha : 0 < a.2) (hb : 0 < b.2) :
    ratioLt a b = true ↔ ratioValue a < ratioValue b := by
  have ha' : (0 : ℚ) < a.2 := by exact_mod_cast ha
  have hb' : (0 : ℚ) < b.2 := by exact_mod_cast hb
  rw [ratioLt, decide_eq_true_eq, ratioValue, ratioValue, div_lt_div_iff₀ ha' hb']
  exact_mod_cast Iff.rfl

/-- One of the two powers is one, and the other carries the exponent. -/
theorem pow_div_pow {b : ℚ} (hb : b ≠ 0) (k : Int) : b ^ k.toNat / b ^ (-k).toNat = b ^ k := by
  rw [← zpow_natCast, ← zpow_natCast, ← zpow_sub₀ hb]
  congr 1
  omega

theorem scaled_snd_pos (n : Nat) (shift : Int) : 0 < (scaled n 1 shift).2 := by
  simp [scaled, Nat.shiftLeft_eq]

theorem ratioValue_scaled (n : Nat) (shift : Int) : ratioValue (scaled n 1 shift) = n * 2 ^ shift := by
  rw [← pow_div_pow two_ne_zero shift]
  simp [ratioValue, scaled, Nat.shiftLeft_eq, mul_div_assoc]

def Decimal.value (d : Decimal) : ℚ := d.digits * 10 ^ d.power

theorem Decimal.ratio_snd_pos (d : Decimal) : 0 < d.ratio.2 := by
  simp [Decimal.ratio]

theorem Decimal.ratioValue_ratio (d : Decimal) : ratioValue d.ratio = d.value := by
  rw [Decimal.value, ← pow_div_pow (by norm_num) d.power]
  simp [ratioValue, Decimal.ratio, mul_div_assoc]

variable {x y : Binary64} {q : ℚ}

def value (x : Binary64) : ℚ := x.significand * 2 ^ x.exponent

def lowerEnd (x : Binary64) : ℚ := ratioValue x.roundingEnds.1

def upperEnd (x : Binary64) : ℚ := ratioValue x.roundingEnds.2

/-- The rational lies in the rounding interval, whose ends belong to it when the significand is even. -/
structure Within (x : Binary64) (q : ℚ) : Prop where
  lower : x.lowerEnd ≤ q
  upper : q ≤ x.upperEnd
  inner : x.significand % 2 = 1 → x.lowerEnd < q ∧ q < x.upperEnd

theorem readsBack_iff (x : Binary64) (d : Decimal) : x.readsBack d = true ↔ x.Within d.value := by
  have hlower : 0 < x.roundingEnds.1.2 := by
    unfold roundingEnds
    split <;> exact scaled_snd_pos _ _
  have hupper : 0 < x.roundingEnds.2.2 := scaled_snd_pos _ _
  have hd := d.ratio_snd_pos
  unfold readsBack
  simp only
  split
  · rename_i heven
    rw [Bool.and_eq_true, Bool.not_eq_true', Bool.not_eq_true', ← Bool.not_eq_true, ← Bool.not_eq_true,
      ratioLt_iff hd hlower, ratioLt_iff hupper hd, d.ratioValue_ratio, not_lt, not_lt]
    exact ⟨fun h => ⟨h.1, h.2, fun hodd => by omega⟩, fun h => ⟨h.lower, h.upper⟩⟩
  · rename_i heven
    rw [Bool.and_eq_true, ratioLt_iff hlower hd, ratioLt_iff hd hupper, d.ratioValue_ratio]
    exact ⟨fun h => ⟨h.1.le, h.2.le, fun _ => h⟩, fun h => h.inner (by omega)⟩

/-! ## The ends in units of half the last place -/

def half (x : Binary64) : ℚ := 2 ^ (x.exponent - 1)

theorem half_pos (x : Binary64) : 0 < x.half := by
  unfold half
  positivity

theorem two_half (x : Binary64) : (2 : ℚ) ^ x.exponent = 2 * x.half := by
  rw [half, ← zpow_one_add₀ two_ne_zero]
  congr 1
  omega

theorem upperEnd_eq (x : Binary64) : x.upperEnd = (2 * x.significand + 1) * x.half := by
  rw [upperEnd, roundingEnds, ratioValue_scaled, half]
  push_cast
  ring

/-- Below the least significand of an exponent the numbers lie twice as close. -/
theorem lowerEnd_of_least (hm : x.significand = 1 <<< 52) (he : x.exponent ≠ -1074) :
    x.lowerEnd = (2 ^ 54 - 1) * (x.half / 2) := by
  have hhalf : x.half / 2 = 2 ^ (x.exponent - 2) := by
    rw [half, div_eq_iff two_ne_zero, ← zpow_add_one₀ two_ne_zero]
    congr 1
    omega
  rw [lowerEnd, roundingEnds, hhalf]
  simp only
  rw [if_pos ⟨hm, he⟩, ratioValue_scaled, hm, Nat.one_shiftLeft]
  norm_num

theorem lowerEnd_of_not_least (hz : 0 < x.significand)
    (h : ¬ (x.significand = 1 <<< 52 ∧ x.exponent ≠ -1074)) :
    x.lowerEnd = (2 * x.significand - 1) * x.half := by
  rw [lowerEnd, roundingEnds, half]
  simp only [if_neg h, ratioValue_scaled]
  rw [Nat.cast_sub (by omega)]
  push_cast
  ring

/-- The lower end is no further away than half of the last place. -/
theorem le_lowerEnd (hz : 0 < x.significand) : (2 * x.significand - 1) * x.half ≤ x.lowerEnd := by
  by_cases h : x.significand = 1 <<< 52 ∧ x.exponent ≠ -1074
  · have hpos := x.half_pos
    have hm : (x.significand : ℚ) = 2 ^ 52 := by
      rw [h.1, Nat.one_shiftLeft]
      norm_num
    rw [lowerEnd_of_least h.1 h.2, hm]
    linarith
  · rw [lowerEnd_of_not_least hz h]

theorem Within.pos (h : x.Within q) (hz : 0 < x.significand) : 0 < q := by
  have hone : (1 : ℚ) ≤ x.significand := by exact_mod_cast hz
  calc (0 : ℚ) < (2 * x.significand - 1) * x.half := mul_pos (by linarith) x.half_pos
    _ ≤ x.lowerEnd := le_lowerEnd hz
    _ ≤ q := h.lower

/-! ## Different magnitudes -/

theorem significand_lt (x : Binary64) : x.significand < 2 ^ 53 := by
  simpa [Nat.one_shiftLeft] using x.normal.1

theorem le_significand (x : Binary64) (h : x.exponent ≠ -1074) : 2 ^ 52 ≤ x.significand := by
  simpa [Nat.one_shiftLeft] using x.normal.2.2.2.resolve_left h

/-- Next to each other on one grid, at most one of the two has the end between them. -/
theorem not_within_of_significand_lt (he : x.exponent = y.exponent) (hm : x.significand < y.significand)
    (hx : x.Within q) : ¬ y.Within q := by
  intro hy
  have hhalf : x.half = y.half := by rw [half, half, he]
  have hpos := y.half_pos
  have hupper := x.upperEnd_eq
  have hlower := le_lowerEnd (x := y) (by omega)
  rw [hhalf] at hupper
  by_cases hnext : y.significand = x.significand + 1
  · have hcast : (y.significand : ℚ) = x.significand + 1 := by exact_mod_cast hnext
    have htouch : x.upperEnd ≤ y.lowerEnd := by
      rw [hupper]
      refine le_trans (le_of_eq ?_) hlower
      rw [hcast]
      ring
    by_cases hodd : x.significand % 2 = 1
    · exact absurd hy.lower (not_le.2 (lt_of_lt_of_le (hx.inner hodd).2 htouch))
    · exact absurd hx.upper (not_le.2 (lt_of_le_of_lt htouch (hy.inner (by omega)).1))
  · have hcast : (x.significand : ℚ) + 2 ≤ y.significand := by exact_mod_cast (by omega)
    have hupper' := hx.upper
    have hlower' := hy.lower
    nlinarith

theorem half_le_of_exponent_lt (h : x.exponent < y.exponent) : 2 * x.half ≤ y.half := by
  rw [half, half, ← zpow_one_add₀ two_ne_zero]
  exact zpow_le_zpow_right₀ one_le_two (by omega)

/-- On a coarser grid the numbers begin where the finer grid ends. -/
theorem not_within_of_exponent_lt (he : x.exponent < y.exponent) (hx : x.Within q) : ¬ y.Within q := by
  intro hy
  have hleast : y.exponent ≠ -1074 := by have := x.normal.2.1; omega
  have hm := y.le_significand hleast
  have hhalf := half_le_of_exponent_lt he
  have hpos := x.half_pos
  have hupper := hx.upper
  have hlower := hy.lower
  rw [upperEnd_eq] at hupper
  by_cases hmin : y.significand = 1 <<< 52
  · rw [lowerEnd_of_least hmin hleast] at hlower
    by_cases hmax : x.significand = 2 ^ 53 - 1
    · have hcast : (x.significand : ℚ) = 2 ^ 53 - 1 := by
        rw [hmax]
        norm_num
      have hinner := (hx.inner (by omega)).2
      rw [upperEnd_eq, hcast] at hinner
      linarith
    · have hcast : (x.significand : ℚ) + 2 ≤ 2 ^ 53 := by
        have := x.significand_lt
        exact_mod_cast (by omega)
      nlinarith
  · have hcast : (2 ^ 52 + 1 : ℚ) ≤ y.significand := by
      rw [Nat.one_shiftLeft] at hmin
      exact_mod_cast (by omega)
    have hcast' : (x.significand : ℚ) + 1 ≤ 2 ^ 53 := by exact_mod_cast x.significand_lt
    have hlower' := (le_lowerEnd (x := y) (by omega)).trans hlower
    nlinarith

/-- A rational lies in the rounding interval of one magnitude at most. -/
theorem Within.unique (hx : x.Within q) (hy : y.Within q) :
    x.significand = y.significand ∧ x.exponent = y.exponent := by
  rcases lt_trichotomy x.exponent y.exponent with he | he | he
  · exact absurd hy (not_within_of_exponent_lt he hx)
  · rcases lt_trichotomy x.significand y.significand with hm | hm | hm
    · exact absurd hy (not_within_of_significand_lt he hm hx)
    · exact ⟨hm, he⟩
    · exact absurd hx (not_within_of_significand_lt he.symm hm hy)
  · exact absurd hx (not_within_of_exponent_lt he hy)

end ChangeDesk.Binary64
