import ChangeDesk.Proofs.Binary64.Interval
import Mathlib.Tactic.FieldSimp

/-!
The shortest decimal of a floating point number lies in its rounding interval. Seventeen digits always suffice: of
the two neighbours on their grid, the nearer one is closer to the number than the nearer end of the interval.
-/
namespace ChangeDesk.Binary64

variable {x : Binary64} {q : ℚ}

theorem significand_pos (h : x.isZero = false) : 0 < x.significand := by
  rw [isZero, beq_eq_false_iff_ne] at h
  exact Nat.pos_of_ne_zero h

theorem value_pos (h : x.isZero = false) : 0 < x.value := by
  have hm : (0 : ℚ) < x.significand := by exact_mod_cast significand_pos h
  unfold value
  positivity

/-- A rational that is close enough to the value lies in the interval. -/
theorem within_of_near (hz : x.isZero = false) (h : |q - x.value| * 2 ^ 54 < x.value) : x.Within q := by
  have hpos := x.half_pos
  have hm := significand_pos hz
  have hvalue : x.value = 2 * x.significand * x.half := by
    rw [value, two_half]
    ring
  have hmax : (x.significand : ℚ) + 1 ≤ 2 ^ 53 := by exact_mod_cast x.significand_lt
  obtain ⟨hbelow, habove⟩ := abs_lt.1 ((lt_div_iff₀ (by positivity)).2 h)
  have hupper : q < x.upperEnd := by
    rw [upperEnd_eq]
    rw [hvalue] at habove
    nlinarith
  have hlower : x.lowerEnd < q := by
    rw [hvalue] at hbelow
    by_cases hleast : x.significand = 1 <<< 52 ∧ x.exponent ≠ -1074
    · have hcast : (x.significand : ℚ) = 2 ^ 52 := by
        rw [hleast.1, Nat.one_shiftLeft]
        norm_num
      rw [lowerEnd_of_least hleast.1 hleast.2]
      rw [hcast] at hbelow
      linarith
    · rw [lowerEnd_of_not_least hm hleast]
      nlinarith
  exact ⟨hlower.le, hupper.le, fun _ => ⟨hlower, hupper⟩⟩

/-! ## The decimal exponent -/

theorem lt_pow_digitCount (n : Nat) : n < 10 ^ digitCount n :=
  (Nat.length_toDigits_le_iff (by decide) Nat.length_toDigits_pos).1 le_rfl

theorem pow_digitCount_le {n : Nat} (h : 0 < n) : 10 ^ (digitCount n - 1) ≤ n := by
  by_cases hone : digitCount n = 1
  · rw [hone]
    exact h
  · have hpos : 0 < digitCount n := Nat.length_toDigits_pos
    refine not_lt.1 fun hlt => ?_
    have hle := (Nat.length_toDigits_le_iff (b := 10) (n := n) (by decide) (by omega)).2 hlt
    rw [← digitCount] at hle
    omega

/-- The number is not below the power of ten of its first digit. -/
theorem pow_decimalExponent_le {num den : Nat} (hn : 0 < num) (hd : 0 < den) :
    (10 : ℚ) ^ (decimalExponent num den - 1) ≤ (num : ℚ) / den := by
  have hden : (0 : ℚ) < den := by exact_mod_cast hd
  rw [le_div_iff₀ hden]
  unfold decimalExponent
  simp only
  split
  · -- The digit counts alone give a bound that is at most one power too low.
    have hlower : (10 : ℚ) ^ ((digitCount num : Int) - 1) ≤ num := by
      have hpos : 0 < digitCount num := Nat.length_toDigits_pos
      have hcast : ((digitCount num : Int) - 1) = ((digitCount num - 1 : Nat) : Int) := by omega
      rw [hcast, zpow_natCast]
      exact_mod_cast pow_digitCount_le hn
    have hupper : (den : ℚ) ≤ 10 ^ (digitCount den : Int) := by
      rw [zpow_natCast]
      exact_mod_cast (lt_pow_digitCount den).le
    calc (10 : ℚ) ^ ((digitCount num : Int) - digitCount den - 1) * den
        ≤ 10 ^ ((digitCount num : Int) - digitCount den - 1) * 10 ^ (digitCount den : Int) := by gcongr
      _ = 10 ^ ((digitCount num : Int) - 1) := by
        rw [← zpow_add₀ (by norm_num)]
        congr 1
        omega
      _ ≤ num := hlower
  · rename_i hbelow
    have hle := not_lt.1 (of_decide_eq_false (Bool.eq_false_iff.2 hbelow))
    rw [add_sub_cancel_right, ← pow_div_pow (by norm_num), div_mul_eq_mul_div, div_le_iff₀ (by positivity)]
    rw [mul_comm]
    exact_mod_cast hle

/-! ## The candidates -/

/-- The magnitude in units of a power of ten, as a fraction of two naturals. -/
def inUnits (x : Binary64) (power : Int) : Nat × Nat :=
  (x.magnitude.1 * Nat.pow 10 (-power).toNat, x.magnitude.2 * Nat.pow 10 power.toNat)

theorem inUnits_snd_pos (x : Binary64) (power : Int) : 0 < (x.inUnits power).2 :=
  Nat.mul_pos (scaled_snd_pos _ _) (Nat.pow_pos (by decide))

theorem ratioValue_inUnits (x : Binary64) (power : Int) :
    ratioValue (x.inUnits power) * 10 ^ power = x.value := by
  have hvalue : (x.magnitude.1 : ℚ) / x.magnitude.2 = x.value := ratioValue_scaled _ _
  rw [← hvalue, ← pow_div_pow (b := 10) (by norm_num) power, ratioValue, inUnits]
  simp only [Nat.pow_eq, Nat.cast_mul, Nat.cast_pow, Nat.cast_ofNat]
  field_simp

/-- A neighbour of a fraction on the grid of the naturals, at most half a step away. -/
def Nearest (r : Nat × Nat) (n : Nat) : Prop :=
  n = r.1 / r.2 ∧ 2 * (r.1 % r.2) ≤ r.2 ∨ n = r.1 / r.2 + 1 ∧ r.2 ≤ 2 * (r.1 % r.2)

theorem Nearest.abs_sub_le {r : Nat × Nat} {n : Nat} (h : Nearest r n) (hr : 0 < r.2) :
    |(n : ℚ) - ratioValue r| * 2 ≤ 1 := by
  obtain ⟨a, b⟩ := r
  have hpos : (0 : ℚ) < b := by exact_mod_cast hr
  have hsplit : (a : ℚ) = b * (a / b : Nat) + (a % b : Nat) := by exact_mod_cast (Nat.div_add_mod a b).symm
  have hmod : ((a % b : Nat) : ℚ) < b := by exact_mod_cast Nat.mod_lt a hr
  have hquotient : ratioValue (a, b) = (a / b : Nat) + ((a % b : Nat) : ℚ) / b := by
    rw [ratioValue, div_eq_iff hpos.ne', add_mul, div_mul_cancel₀ _ hpos.ne']
    linarith
  rw [hquotient, ← le_div_iff₀ two_pos, abs_le]
  rcases h with ⟨rfl, hr⟩ | ⟨rfl, hr⟩
  · have hr' : 2 * ((a % b : Nat) : ℚ) ≤ b := by exact_mod_cast hr
    have hhalf : ((a % b : Nat) : ℚ) / b ≤ 1 / 2 := by
      rw [div_le_div_iff₀ hpos two_pos]
      linarith
    have hzero : 0 ≤ ((a % b : Nat) : ℚ) / b := by positivity
    constructor <;> linarith
  · have hr' : (b : ℚ) ≤ 2 * ((a % b : Nat) : ℚ) := by exact_mod_cast hr
    have hhalf : 1 / 2 ≤ ((a % b : Nat) : ℚ) / b := by
      rw [div_le_div_iff₀ two_pos hpos]
      linarith
    have hone : ((a % b : Nat) : ℚ) / b ≤ 1 := by
      rw [div_le_one hpos]
      exact hmod.le
    push_cast
    constructor <;> linarith

/-- Two decimals are tried, of which the first one is the nearest. -/
theorem exists_candidates (x : Binary64) (k : Int) (count : Nat) :
    ∃ n, Nearest (x.inUnits (k - count)) n ∧ ∃ second, x.candidate? k count =
      if x.readsBack ⟨n, k - count⟩ then some ⟨n, k - count⟩
      else if x.readsBack second then some second else none := by
  let r := x.inUnits (k - count)
  let first : Nat := if 2 * (r.1 % r.2) < r.2 then r.1 / r.2 else if r.2 < 2 * (r.1 % r.2) then
    r.1 / r.2 + 1 else if r.1 / r.2 % 2 = 0 then r.1 / r.2 else r.1 / r.2 + 1
  have hfirst : Nearest r first := by
    unfold Nearest
    simp only [first]
    split
    · exact .inl ⟨rfl, by omega⟩
    · split
      · exact .inr ⟨rfl, by omega⟩
      · split
        · exact .inl ⟨rfl, by omega⟩
        · exact .inr ⟨rfl, by omega⟩
  have hdecimal : (if 2 * (r.1 % r.2) < r.2 then (⟨r.1 / r.2, k - count⟩ : Decimal) else
      if r.2 < 2 * (r.1 % r.2) then ⟨r.1 / r.2 + 1, k - count⟩ else
      if r.1 / r.2 % 2 = 0 then ⟨r.1 / r.2, k - count⟩ else ⟨r.1 / r.2 + 1, k - count⟩) =
      ⟨first, k - count⟩ := by
    simp only [first]
    split
    · rfl
    · split
      · rfl
      · split <;> rfl
  refine ⟨first, hfirst, if (⟨first, k - count⟩ : Decimal) = ⟨r.1 / r.2, k - count⟩ then
    ⟨r.1 / r.2 + 1, k - count⟩ else ⟨r.1 / r.2, k - count⟩, ?_⟩
  rw [← hdecimal]
  rfl

theorem readsBack_of_candidate? {k : Int} {count : Nat} {d : Decimal} (h : x.candidate? k count = some d) :
    x.readsBack d = true := by
  obtain ⟨n, -, second, he⟩ := x.exists_candidates k count
  rw [he] at h
  split at h
  · rename_i hfirst
    rw [← Option.some.inj h]
    exact hfirst
  · split at h
    · rename_i hsecond
      rw [← Option.some.inj h]
      exact hsecond
    · simp at h

/-- On the grid of seventeen digits the nearer neighbour reads back. -/
theorem exists_candidate?_seventeen (hz : x.isZero = false) {k : Int} (hk : (10 : ℚ) ^ (k - 1) ≤ x.value) :
    ∃ d, x.candidate? k 17 = some d := by
  obtain ⟨n, hn, second, he⟩ := x.exists_candidates k 17
  have hvalue := x.ratioValue_inUnits (k - (17 : Nat))
  have hnear := hn.abs_sub_le (x.inUnits_snd_pos _)
  have hstep : (10 : ℚ) ^ (k - (17 : Nat)) * 10 ^ 16 = 10 ^ (k - 1) := by
    rw [← zpow_natCast, ← zpow_add₀ (by norm_num)]
    congr 1
    push_cast
    omega
  have hpos : (0 : ℚ) < 10 ^ (k - (17 : Nat)) := by positivity
  have hdistance : |(Decimal.mk n (k - (17 : Nat))).value - x.value| * 2 ≤ 10 ^ (k - (17 : Nat)) := by
    rw [Decimal.value, ← hvalue, ← sub_mul, abs_mul, abs_of_pos hpos]
    nlinarith
  have hreads : x.readsBack ⟨n, k - (17 : Nat)⟩ = true := by
    refine (x.readsBack_iff _).2 (within_of_near hz ?_)
    have hvaluePos := value_pos hz
    -- A unit of the seventeenth digit is at most `10 ^ -16` of the value, and `2 ^ 53 < 10 ^ 16`.
    rw [← hstep] at hk
    nlinarith
  rw [he, if_pos hreads]
  exact ⟨_, rfl⟩

/-! ## The shortest decimal -/

theorem Decimal.value_strip (d : Decimal) : d.strip.value = d.value := by
  have hgo (fuel : Nat) (d : Decimal) : (Decimal.strip.go fuel d).value = d.value := by
    induction fuel generalizing d with
    | zero => rfl
    | succ fuel ih =>
      unfold Decimal.strip.go
      split
      · rename_i h
        have hdigits : d.digits = d.digits / 10 * 10 := by omega
        rw [ih, Decimal.value, Decimal.value, zpow_add_one₀ (by norm_num)]
        conv_rhs => rw [hdigits]
        push_cast
        ring
      · rfl
  exact hgo d.digits d

/-- The shortest decimal reads back. -/
theorem within_shortest (hz : x.isZero = false) : x.Within x.shortest.value := by
  have hpositive : 0 < x.magnitude.1 := by
    rw [magnitude, scaled, Nat.shiftLeft_eq]
    exact Nat.mul_pos (significand_pos hz) (by positivity)
  have hvalue : (x.magnitude.1 : ℚ) / x.magnitude.2 = x.value := ratioValue_scaled _ _
  have hk : (10 : ℚ) ^ (decimalExponent x.magnitude.1 x.magnitude.2 - 1) ≤ x.value :=
    (pow_decimalExponent_le hpositive (scaled_snd_pos _ _)).trans_eq hvalue
  obtain ⟨d, hd⟩ := exists_candidate?_seventeen hz hk
  unfold shortest
  simp only
  split
  · rename_i d hd
    obtain ⟨n, -, hn⟩ := List.exists_of_findSome?_eq_some hd
    rw [Decimal.value_strip]
    exact (x.readsBack_iff d).1 (readsBack_of_candidate? hn)
  · rename_i hnone
    have hseventeen := List.findSome?_eq_none_iff.1 hnone 16 (by simp)
    exact absurd (hseventeen.symm.trans hd) (by simp)

end ChangeDesk.Binary64
