import ChangeDesk.Proofs.Binary64.Shortest
import ChangeDesk.Binary64

/-!
Rounding to the nearest floating point number. It fails only for magnitudes from half a last place above the largest
number on, and the result is off by at most half of its last place, which for magnitudes from one on is at most
`2 ^ -53` of the magnitude itself.
-/
namespace ChangeDesk.Binary64

variable {x y : Binary64} {negative : Bool} {num den : Nat}

/-- The last place of the largest numbers. -/
def largestUnit : ℚ := 2 ^ (971 : Int)

theorem largestUnit_pos : 0 < largestUnit := by
  unfold largestUnit
  positivity

/-- The least magnitude that no finite number is nearest to. -/
def overflow : ℚ := (2 ^ 53 - 1 / 2) * largestUnit

theorem value_lt_overflow (x : Binary64) : x.value < overflow := by
  have hm : (x.significand : ℚ) + 1 ≤ 2 ^ 53 := by exact_mod_cast x.significand_lt
  have he : (2 : ℚ) ^ x.exponent ≤ largestUnit := zpow_le_zpow_right₀ one_le_two x.normal.2.2.1
  have hpos := largestUnit_pos
  calc x.value ≤ x.significand * largestUnit := mul_le_mul_of_nonneg_left he (Nat.cast_nonneg _)
    _ < overflow := by
        rw [overflow]
        nlinarith

/-- A fraction in units of a power of two. -/
theorem ratioValue_scaled_neg (num den : Nat) (e : Int) :
    ratioValue (scaled num den (-e)) = (num : ℚ) / den / 2 ^ e := by
  rw [div_eq_mul_inv _ ((2 : ℚ) ^ e), ← zpow_neg, ← pow_div_pow two_ne_zero (-e)]
  simp [ratioValue, scaled, Nat.shiftLeft_eq, mul_div_mul_comm]

theorem scaled_den_pos (hd : 0 < den) (shift : Int) : 0 < (scaled num den shift).2 := by
  simp [scaled, Nat.shiftLeft_eq, hd]

/-- Whether the fraction has at most 53 bits before its binary point. -/
theorem fits_iff (hd : 0 < den) (e : Int) :
    decide ((scaled num den (-e)).1 < (scaled num den (-e)).2 <<< 53) = true ↔
      (num : ℚ) / den / 2 ^ e < 2 ^ 53 := by
  have hpos : (0 : ℚ) < (scaled num den (-e)).2 := by exact_mod_cast scaled_den_pos hd (-e)
  rw [decide_eq_true_eq, ← ratioValue_scaled_neg, ratioValue, div_lt_iff₀ hpos, Nat.shiftLeft_eq, mul_comm]
  exact_mod_cast Iff.rfl

/-- The quotient of the leading powers of two is within a factor of two of the fraction. -/
theorem log2_bounds (hn : 0 < num) (hd : 0 < den) :
    2 ^ 52 < (num : ℚ) / den / 2 ^ ((num.log2 : Int) - den.log2 - 53) ∧
      (num : ℚ) / den / 2 ^ ((num.log2 : Int) - den.log2 - 53) < 2 ^ 54 := by
  have hden : (0 : ℚ) < den := by exact_mod_cast hd
  have hnum : (2 : ℚ) ^ num.log2 ≤ num := by exact_mod_cast Nat.log2_self_le hn.ne'
  have hnum' : (num : ℚ) < 2 * 2 ^ num.log2 := by
    rw [← pow_succ']
    exact_mod_cast Nat.lt_log2_self
  have hden' : (2 : ℚ) ^ den.log2 ≤ den := by exact_mod_cast Nat.log2_self_le hd.ne'
  have hden'' : (den : ℚ) < 2 * 2 ^ den.log2 := by
    rw [← pow_succ']
    exact_mod_cast Nat.lt_log2_self
  have hunit : (2 : ℚ) ^ ((num.log2 : Int) - den.log2 - 53) = 2 ^ num.log2 / 2 ^ den.log2 / 2 ^ 53 := by
    rw [zpow_sub₀ two_ne_zero, zpow_sub₀ two_ne_zero, zpow_natCast, zpow_natCast]
    norm_num
  have hpos : (0 : ℚ) < 2 ^ num.log2 := by positivity
  have hpos' : (0 : ℚ) < 2 ^ den.log2 := by positivity
  generalize (2 : ℚ) ^ num.log2 = a at *
  generalize (2 : ℚ) ^ den.log2 = b at *
  rw [hunit, div_div_eq_mul_div, div_div_eq_mul_div]
  constructor
  · rw [lt_div_iff₀ hpos, div_mul_eq_mul_div, div_mul_eq_mul_div, lt_div_iff₀ hden]
    nlinarith
  · rw [div_lt_iff₀ hpos, div_mul_eq_mul_div, div_mul_eq_mul_div, div_lt_iff₀ hden]
    nlinarith

/-- At the exponent that is chosen the fraction has 53 bits before its binary point, or fewer at the least exponent. -/
theorem exponentFor_spec (hn : 0 < num) (hd : 0 < den) :
    (num : ℚ) / den / 2 ^ exponentFor num den < 2 ^ 53 ∧ -1074 ≤ exponentFor num den ∧
      (exponentFor num den = -1074 ∨ 2 ^ 52 ≤ (num : ℚ) / den / 2 ^ exponentFor num den) := by
  obtain ⟨hlower, hupper⟩ := log2_bounds hn hd
  set low : Int := (num.log2 : Int) - den.log2 - 53 with hlow
  have hnext : (num : ℚ) / den / 2 ^ (low + 1) = (num : ℚ) / den / 2 ^ low / 2 := by
    rw [zpow_add_one₀ two_ne_zero, ← div_div]
  obtain ⟨e, he, hbits, hbits'⟩ : ∃ e, exponentFor num den = max e (-1074) ∧
      (num : ℚ) / den / 2 ^ e < 2 ^ 53 ∧ 2 ^ 52 ≤ (num : ℚ) / den / 2 ^ e := by
    unfold exponentFor
    simp only [← hlow, fits_iff hd]
    by_cases hfits : (num : ℚ) / den / 2 ^ low < 2 ^ 53
    · exact ⟨low, by rw [if_pos hfits], hfits, hlower.le⟩
    · have hfits' : (num : ℚ) / den / 2 ^ (low + 1) < 2 ^ 53 := by
        rw [hnext]
        linarith
      refine ⟨low + 1, by rw [if_neg hfits, if_pos hfits'], hfits', ?_⟩
      rw [hnext]
      linarith
  rw [he]
  rcases le_total (-1074) e with hle | hle
  · rw [max_eq_left hle]
    exact ⟨hbits, hle, .inr hbits'⟩
  · rw [max_eq_right hle]
    have hunit : (2 : ℚ) ^ e ≤ 2 ^ (-1074 : Int) := zpow_le_zpow_right₀ one_le_two hle
    exact ⟨(div_le_div_of_nonneg_left (by positivity) (by positivity) hunit).trans_lt hbits, le_rfl, .inl rfl⟩

theorem nearest_divNearest (r : Nat × Nat) : Nearest r (divNearest r.1 r.2) := by
  unfold Nearest divNearest
  simp only
  split
  · exact .inl ⟨rfl, by omega⟩
  · split
    · exact .inr ⟨rfl, by omega⟩
    · rcases Nat.mod_two_eq_zero_or_one (r.1 / r.2) with h | h
      · exact .inl ⟨by omega, by omega⟩
      · exact .inr ⟨by omega, by omega⟩

/-- A significand of at most 53 bits, of which the largest one carries into the next exponent. -/
theorem exists_carried {m : Nat} {e : Int} (negative : Bool) (hm : m ≤ 2 ^ 53) (hleast : -1074 ≤ e)
    (hfull : e = -1074 ∨ 2 ^ 52 ≤ m) (hmost : e ≤ 971) (hlast : e = 971 → m < 2 ^ 53) :
    ∃ y : Binary64, (let (m, e) := if m = 1 <<< 53 then (1 <<< 52, e + 1) else (m, e)
      if h : Normal m e then some ⟨negative, m, e, h⟩ else none) = some y ∧ y.value = m * 2 ^ e := by
  rw [Nat.one_shiftLeft, Nat.one_shiftLeft]
  by_cases hcarry : m = 2 ^ 53
  · have hnormal : Normal (2 ^ 52) (e + 1) := by
      refine ⟨by decide, by omega, ?_, .inr (by decide)⟩
      rcases Int.lt_or_eq_of_le hmost with hlt | heq
      · omega
      · have := hlast heq
        omega
    refine ⟨⟨negative, 2 ^ 52, e + 1, hnormal⟩, by simp only [if_pos hcarry, dif_pos hnormal], ?_⟩
    rw [value, hcarry, zpow_add_one₀ two_ne_zero]
    push_cast
    ring
  · have hnormal : Normal m e := by
      refine ⟨?_, hleast, hmost, ?_⟩
      · rw [Nat.one_shiftLeft]
        omega
      · rw [Nat.one_shiftLeft]
        exact hfull
    exact ⟨⟨negative, m, e, hnormal⟩, by simp only [if_neg hcarry, dif_pos hnormal], rfl⟩

/-- A magnitude below the overflow is rounded, to within half of the last place at its exponent. -/
theorem exists_ofRatio? (negative : Bool) (hn : 0 < num) (hd : 0 < den) (h : (num : ℚ) / den < overflow) :
    ∃ y, ofRatio? negative num den = some y ∧
      |y.value - (num : ℚ) / den| * 2 ≤ 2 ^ exponentFor num den := by
  obtain ⟨hbits, hleast, hfull⟩ := exponentFor_spec hn hd
  have hden : 0 < (scaled num den (-exponentFor num den)).2 := scaled_den_pos hd _
  have hnear := (nearest_divNearest _).abs_sub_le hden
  rw [ratioValue_scaled_neg] at hnear
  unfold ofRatio?
  simp only [if_neg hn.ne']
  generalize exponentFor num den = e at *
  generalize divNearest (scaled num den (-e)).1 (scaled num den (-e)).2 = m at *
  have hunit : (0 : ℚ) < 2 ^ e := by positivity
  have hmagnitude : (num : ℚ) / den = (num : ℚ) / den / 2 ^ e * 2 ^ e := by field_simp
  generalize (num : ℚ) / den / 2 ^ e = f at *
  obtain ⟨hbelow, habove⟩ := abs_le.1 ((le_div_iff₀ two_pos).2 hnear)
  rw [hmagnitude] at h ⊢
  have hpos := largestUnit_pos
  have hm : m ≤ 2 ^ 53 := by
    have : (m : ℚ) < 2 ^ 53 + 1 := by linarith
    exact Nat.lt_succ_iff.1 (by exact_mod_cast this)
  have hfull' : e = -1074 ∨ 2 ^ 52 ≤ m := by
    refine hfull.imp id fun hf => ?_
    have : (2 : ℚ) ^ 52 < m + 1 := by linarith
    exact Nat.lt_succ_iff.1 (by exact_mod_cast this)
  have hmost : e ≤ 971 := by
    by_contra hlarge
    have hdouble : 2 * largestUnit ≤ 2 ^ e := by
      rw [largestUnit, ← zpow_one_add₀ two_ne_zero]
      exact zpow_le_zpow_right₀ one_le_two (by omega)
    have hf := hfull.resolve_left (by omega)
    rw [overflow] at h
    nlinarith
  have hlast : e = 971 → m < 2 ^ 53 := by
    rintro rfl
    have hf : f < 2 ^ 53 - 1 / 2 := lt_of_mul_lt_mul_right h hpos.le
    have : (m : ℚ) < 2 ^ 53 := by linarith
    exact_mod_cast this
  obtain ⟨y, hy, hvalue⟩ := exists_carried negative hm hleast hfull' hmost hlast
  refine ⟨y, hy, ?_⟩
  rw [hvalue, ← sub_mul, abs_mul, abs_of_pos hunit]
  nlinarith

theorem exists_ofRatio?_of_lt (negative : Bool) (hd : 0 < den) (h : (num : ℚ) / den < overflow) :
    ∃ y, ofRatio? negative num den = some y := by
  rcases Nat.eq_zero_or_pos num with rfl | hn
  · exact ⟨_, rfl⟩
  · obtain ⟨y, hy, -⟩ := exists_ofRatio? negative hn hd h
    exact ⟨y, hy⟩

/-- The value is off by at most `2 ^ -53` of the magnitude. -/
def Near (y : Binary64) (q : ℚ) : Prop := |y.value - q| * 2 ^ 53 ≤ q

/-- Magnitudes from one on have all 53 bits. -/
theorem exists_ofNat?_near (negative : Bool) {n : Nat} (hn : 0 < n) (h : (n : ℚ) < overflow) :
    ∃ y, ofNat? negative n = some y ∧ y.Near n := by
  have hone : (1 : ℚ) ≤ n := by exact_mod_cast hn
  have hratio : (n : ℚ) / (1 : Nat) = n := by simp
  obtain ⟨y, hy, hnear⟩ := exists_ofRatio? negative hn Nat.one_pos (by rwa [hratio])
  obtain ⟨-, -, hfull⟩ := exponentFor_spec hn Nat.one_pos
  rw [hratio] at hnear hfull
  refine ⟨y, hy, ?_⟩
  have hunit : (2 : ℚ) ^ exponentFor n 1 * 2 ^ 52 ≤ n := by
    rcases hfull with hleast | hfull
    · have hsmall : (2 : ℚ) ^ exponentFor n 1 ≤ 2 ^ (-52 : Int) := zpow_le_zpow_right₀ one_le_two (by omega)
      have hbits : (2 : ℚ) ^ (-52 : Int) * 2 ^ 52 = 1 := by norm_num
      linarith
    · rwa [le_div_iff₀ (by positivity), mul_comm] at hfull
  unfold Near
  linarith

theorem two_mul_overflow : 2 * overflow = 18014398509481983 * 2 ^ 971 := by
  have hunit : largestUnit = 2 ^ 971 := zpow_natCast 2 971
  rw [overflow, hunit]
  generalize (2 : ℚ) ^ 971 = u
  ring

theorem pow_lt_overflow : 10 ^ largestPower < overflow := by
  have hnat : 2 * 10 ^ 308 < 18014398509481983 * 2 ^ 971 := by decide +kernel
  have hcast : (2 : ℚ) * 10 ^ 308 < 18014398509481983 * 2 ^ 971 := by exact_mod_cast hnat
  rw [← two_mul_overflow] at hcast
  exact lt_of_mul_lt_mul_left hcast two_pos.le

theorem overflow_lt_pow : overflow < 10 ^ (largestPower + 1) := by
  have hnat : 18014398509481983 * 2 ^ 971 < 2 * 10 ^ 309 := by decide +kernel
  have hcast : (18014398509481983 : ℚ) * 2 ^ 971 < 2 * 10 ^ 309 := by exact_mod_cast hnat
  rw [← two_mul_overflow] at hcast
  exact lt_of_mul_lt_mul_left hcast two_pos.le

/-- Every power of ten that is applied at once is there. -/
theorem exists_powerOfTen? {k : Nat} (hk : k ≤ largestPower) :
    ∃ p, powerOfTen? k = some p ∧ p.Near (10 ^ k) := by
  have hpow : (10 : ℚ) ^ k < overflow := (pow_le_pow_right₀ (by norm_num) hk).trans_lt pow_lt_overflow
  have hcast : ((Nat.pow 10 k : Nat) : ℚ) = 10 ^ k := by
    rw [Nat.pow_eq]
    push_cast
    rfl
  rw [powerOfTen?, ← hcast]
  exact exists_ofNat?_near false (Nat.pow_pos (by decide)) (by rwa [hcast])

theorem magnitude_snd_pos (x : Binary64) : 0 < x.magnitude.2 := scaled_snd_pos _ _

theorem magnitude_eq (x : Binary64) : (x.magnitude.1 : ℚ) / x.magnitude.2 = x.value := ratioValue_scaled _ _

theorem exists_mul? (h : x.value * y.value < overflow) : ∃ z, x.mul? y = some z := by
  have hratio : ((x.magnitude.1 * y.magnitude.1 : Nat) : ℚ) / (x.magnitude.2 * y.magnitude.2 : Nat) =
      x.value * y.value := by
    rw [Nat.cast_mul, Nat.cast_mul, mul_div_mul_comm, magnitude_eq, magnitude_eq]
  rw [← hratio] at h
  unfold mul?
  exact exists_ofRatio?_of_lt _ (Nat.mul_pos x.magnitude_snd_pos y.magnitude_snd_pos) h

theorem value_nonneg (x : Binary64) : 0 ≤ x.value := by
  unfold value
  positivity

/-- Dividing by a number that is not below one never fails. -/
theorem exists_div? (h : 1 ≤ y.value) : ∃ z, x.div? y = some z := by
  have hpos : 0 < y.value := by linarith
  have hy : y.isZero = false := by
    rw [isZero, beq_eq_false_iff_ne]
    intro hzero
    simp [value, hzero] at hpos
  have hnum : 0 < y.magnitude.1 := by
    rw [magnitude, scaled, Nat.shiftLeft_eq]
    exact Nat.mul_pos (significand_pos hy) (by positivity)
  have hratio : ((x.magnitude.1 * y.magnitude.2 : Nat) : ℚ) / (x.magnitude.2 * y.magnitude.1 : Nat) =
      x.value / y.value := by
    rw [Nat.cast_mul, Nat.cast_mul, ← div_div_div_eq, magnitude_eq, magnitude_eq]
  have hle : x.value / y.value < overflow := (div_le_self x.value_nonneg h).trans_lt x.value_lt_overflow
  rw [← hratio] at hle
  unfold div?
  rw [hy, if_neg Bool.false_ne_true]
  exact exists_ofRatio?_of_lt _ (Nat.mul_pos x.magnitude_snd_pos hnum) hle

/-- One and `2 ^ -53` more: what a rounding can add to one. -/
def roundUp : ℚ := 1 + 1 / 2 ^ 53

theorem Near.le {q : ℚ} (h : y.Near q) : y.value ≤ q * roundUp := by
  have habove := (le_abs_self (y.value - q)).trans ((le_div_iff₀ (by positivity)).2 h)
  rw [roundUp]
  linarith

theorem Near.one_le {k : Nat} (h : y.Near (10 ^ (k + 1))) : 1 ≤ y.value := by
  have hbelow := (neg_le_abs (y.value - 10 ^ (k + 1))).trans ((le_div_iff₀ (by positivity)).2 h)
  have hten : (10 : ℚ) ≤ 10 ^ (k + 1) := le_self_pow₀ (by norm_num) (by omega)
  linarith

/-- Applying this power of ten to the number stays below the overflow, and the power is applied at once. -/
def Scales (x : Binary64) (power : Int) : Prop :=
  0 ≤ power → x.isZero = false → power ≤ largestPower ∧ x.value * (10 ^ power.natAbs * roundUp) < overflow

theorem Scales.exists_once? {power : Int} (h : x.Scales power) (hle : power.natAbs ≤ largestPower) :
    ∃ y, (do let p ← powerOfTen? power.natAbs; if 0 ≤ power then x.mul? p else x.div? p) = some y := by
  obtain ⟨p, hp, hnear⟩ := exists_powerOfTen? hle
  rw [hp, Option.bind_eq_bind, Option.bind_some]
  split
  · rename_i hpos
    refine exists_mul? ?_
    cases hz : x.isZero with
    | true =>
      have hvalue : x.value = 0 := by simp [value, beq_iff_eq.1 hz]
      rw [hvalue, zero_mul]
      exact x.value_nonneg.trans_lt x.value_lt_overflow
    | false =>
      exact (mul_le_mul_of_nonneg_left hnear.le x.value_nonneg).trans_lt (h hpos hz).2
  · obtain ⟨k, hk⟩ : ∃ k, power.natAbs = k + 1 := ⟨power.natAbs - 1, by omega⟩
    rw [hk] at hnear
    exact exists_div? hnear.one_le

theorem Scales.neg_of_large {power : Int} (h : x.Scales power) (hz : ¬ x.isZero = true)
    (hlarge : ¬ power.natAbs ≤ largestPower) : ¬ 0 ≤ power := by
  intro hpos
  have := (h hpos (Bool.eq_false_iff.2 hz)).1
  omega

/-- A power of ten can be applied unless it carries the number to the overflow. -/
theorem Scales.exists_scaleByTen? (steps : Nat) {power : Int} (h : x.Scales power) :
    ∃ y, scaleByTen? steps x power = some y := by
  induction steps generalizing x power with
  | zero =>
    unfold scaleByTen?
    split
    · rename_i hle
      exact h.exists_once? hle
    · split
      · exact ⟨x, rfl⟩
      · rename_i hlarge hz
        rw [if_neg (h.neg_of_large hz hlarge)]
        exact ⟨_, rfl⟩
  | succ steps ih =>
    unfold scaleByTen?
    split
    · rename_i hle
      exact h.exists_once? hle
    · split
      · exact ⟨x, rfl⟩
      · rename_i hlarge hz
        have hneg := h.neg_of_large hz hlarge
        -- One division by the largest power leaves an exponent that is still negative.
        obtain ⟨p, hp, hnear⟩ := exists_powerOfTen? (Nat.le_refl largestPower)
        obtain ⟨y, hy⟩ := exists_div? (x := x) (Near.one_le (k := 307) hnear)
        obtain ⟨z, hz⟩ := ih (show y.Scales (power + largestPower) from fun hpos => by omega)
        refine ⟨z, ?_⟩
        rw [if_neg hneg]
        simp only [hp, hy, Option.bind_eq_bind, Option.bind_some]
        exact hz

end ChangeDesk.Binary64
