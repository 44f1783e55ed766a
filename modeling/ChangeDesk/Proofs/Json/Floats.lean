import ChangeDesk.Proofs.Binary64.Rounding
import ChangeDesk.Proofs.Json.Numbers

/-!
Printed floating point numbers can be read. Gathering the digits of a literal never gives more than its magnitude, and
the two roundings that follow add less than two last places. That is too much only for the two largest numbers, whose
literals are read one by one.
-/
namespace ChangeDesk

open Json (Ends literal? digitsValue digitsValue_append)

namespace Binary64

variable {q : ℚ} {g : Gathered} {x : Binary64}

/-! ## Gathering digits -/

/-- What has been gathered stands for no more than this magnitude. -/
def Gathered.Below (g : Gathered) (q : ℚ) : Prop := g.significand * 10 ^ g.power ≤ q

theorem digitsValue_cons (d : Nat) (ds : List Nat) :
    digitsValue (d :: ds) = d * 10 ^ ds.length + digitsValue ds := by
  rw [← List.singleton_append, digitsValue_append]
  simp [digitsValue]

/-- One digit further on. -/
theorem digitsValue_step (m d : Nat) (ds : List Nat) :
    m * 10 ^ (d :: ds).length + digitsValue (d :: ds) = (m * 10 + d) * 10 ^ ds.length + digitsValue ds := by
  rw [digitsValue_cons, List.length_cons, pow_succ]
  ring

/-- The digits before the point are gathered all, or so many that the next one would be too much. -/
theorem gatherWhole_spec (m : Nat) (ds : List Nat) :
    gatherWhole m ds = ⟨m * 10 ^ ds.length + digitsValue ds, 0⟩ ∨
      (gatherWhole m ds).Below (m * 10 ^ ds.length + digitsValue ds : Nat) ∧
        significandLimit * (10 : ℚ) ^ ((gatherWhole m ds).power - 1) ≤
          (m * 10 ^ ds.length + digitsValue ds : Nat) := by
  induction ds generalizing m with
  | nil => exact .inl (by simp [gatherWhole, digitsValue])
  | cons d ds ih =>
    rw [digitsValue_step, gatherWhole]
    split
    · exact ih _
    · rename_i hfits
      have hpower : (ds.length : Int) + 1 = (ds.length + 1 : Nat) := by push_cast; rfl
      refine .inr ⟨?_, ?_⟩
      · have hle : m * 10 ^ (ds.length + 1) ≤ (m * 10 + d) * 10 ^ ds.length + digitsValue ds := by
          rw [pow_succ]
          nlinarith [Nat.zero_le (d * 10 ^ ds.length)]
        rw [Gathered.Below, hpower, zpow_natCast]
        exact_mod_cast hle
      · have hle : significandLimit * 10 ^ ds.length ≤ (m * 10 + d) * 10 ^ ds.length + digitsValue ds :=
          le_add_right (Nat.mul_le_mul_right _ (not_lt.1 hfits))
        rw [add_sub_cancel_right, zpow_natCast]
        exact_mod_cast hle

theorem significand_gatherWhole_lt {m : Nat} (hm : m < significandLimit) (ds : List Nat) :
    (gatherWhole m ds).significand < significandLimit := by
  induction ds generalizing m with
  | nil => exact hm
  | cons d ds ih =>
    unfold gatherWhole
    split
    · rename_i hfits
      exact ih hfits
    · exact hm

theorem significand_gatherFraction_lt (hg : g.significand < significandLimit) (ds : List Nat) :
    (gatherFraction g ds).significand < significandLimit := by
  induction ds generalizing g with
  | nil => exact hg
  | cons d ds ih =>
    unfold gatherFraction
    split
    · rename_i hfits
      exact ih hfits
    · exact hg

/-- Digits behind the point, when all of those before it have been gathered. -/
theorem below_gatherFraction (g : Gathered) (ds : List Nat) :
    (gatherFraction g ds).Below
      ((g.significand * 10 ^ ds.length + digitsValue ds : Nat) * 10 ^ (g.power - ds.length)) := by
  induction ds generalizing g with
  | nil => simp [gatherFraction, Gathered.Below, digitsValue]
  | cons d ds ih =>
    have hpower : g.power - (d :: ds).length = g.power - 1 - ds.length := by
      rw [List.length_cons]
      push_cast
      ring
    rw [digitsValue_step, gatherFraction, hpower]
    split
    · exact ih _
    · have hshift : (10 : ℚ) ^ g.power = 10 * 10 ^ ds.length * 10 ^ (g.power - 1 - ds.length) := by
        rw [← pow_succ', ← zpow_natCast, ← zpow_add₀ (by norm_num)]
        congr 1
        push_cast
        ring
      rw [Gathered.Below, hshift, ← mul_assoc, ← mul_assoc]
      gcongr
      have hrest : (0 : ℚ) ≤ d * 10 ^ ds.length + digitsValue ds := by positivity
      push_cast
      linarith

/-- Digits behind the point, when some of those before it were too much: the magnitude is that large anyway. -/
theorem below_gatherFraction_of_le (ds : List Nat) (hg : g.Below q)
    (hq : significandLimit * (10 : ℚ) ^ (g.power - 1) ≤ q) : (gatherFraction g ds).Below q := by
  induction ds generalizing g with
  | nil => exact hg
  | cons d ds ih =>
    unfold gatherFraction
    split
    · rename_i hfits
      have hfits' : ((g.significand * 10 + d : Nat) : ℚ) ≤ significandLimit := by exact_mod_cast hfits.le
      refine ih ?_ ?_
      · exact (mul_le_mul_of_nonneg_right hfits' (by positivity)).trans hq
      · refine le_trans ?_ hq
        gcongr
        · norm_num
        · simp
    · exact hg

/-- All digits together stand for no more than the literal does. -/
theorem below_gathered (whole fraction : List Nat) :
    (gatherFraction (gatherWhole 0 whole) fraction).Below
      (digitsValue (whole ++ fraction) * 10 ^ (-(fraction.length : Int))) := by
  have hsplit : (digitsValue (whole ++ fraction) : ℚ) * 10 ^ (-(fraction.length : Int)) =
      digitsValue whole + digitsValue fraction * 10 ^ (-(fraction.length : Int)) := by
    rw [digitsValue_append, zpow_neg, zpow_natCast]
    push_cast
    field_simp
  rcases gatherWhole_spec 0 whole with hall | ⟨hbelow, hlimit⟩
  · rw [hall]
    simpa [digitsValue_append] using below_gatherFraction ⟨digitsValue whole, 0⟩ fraction
  · rw [Nat.zero_mul, Nat.zero_add] at hbelow hlimit
    have hle : (digitsValue whole : ℚ) ≤ digitsValue (whole ++ fraction) * 10 ^ (-(fraction.length : Int)) := by
      rw [hsplit]
      exact le_add_of_nonneg_right (by positivity)
    exact below_gatherFraction_of_le fraction (hbelow.trans hle) (hlimit.trans hle)

/-! ## The roundings -/

theorem significandLimit_lt_overflow : (significandLimit : ℚ) < overflow := by
  have hlimit : (significandLimit : ℚ) = 2 ^ (64 : Int) := by
    rw [significandLimit, UInt64.size]
    norm_num
  have hunit : (2 : ℚ) ^ (64 : Int) ≤ largestUnit := zpow_le_zpow_right₀ one_le_two (by decide)
  have hpos := largestUnit_pos
  rw [hlimit, overflow]
  linarith

theorem one_le_roundUp : 1 ≤ roundUp := by
  unfold roundUp
  norm_num

/-- A literal is a number if its magnitude stays below the overflow after two roundings. -/
theorem exists_ofLiteral? (negative : Bool) (whole fraction : List Nat) (exponent : Int)
    (h : digitsValue (whole ++ fraction) * 10 ^ (exponent - fraction.length) * (roundUp * roundUp) < overflow) :
    ∃ y, ofLiteral? negative whole fraction exponent = some y := by
  have hbelow := below_gathered whole fraction
  have hlimit := significand_gatherFraction_lt
    (significand_gatherWhole_lt (show 0 < significandLimit by decide) whole) fraction
  unfold ofLiteral?
  simp only
  generalize gatherFraction (gatherWhole 0 whole) fraction = g at *
  rcases Nat.eq_zero_or_pos g.significand with hzero | hpos
  · have hx : ofNat? negative g.significand = some (zero negative) := by
      rw [hzero]
      rfl
    rw [hx, Option.bind_eq_bind, Option.bind_some]
    exact Scales.exists_scaleByTen? 4 fun _ hz => by cases hz
  · have hone : (1 : ℚ) ≤ g.significand := by exact_mod_cast hpos
    have hsmall : (g.significand : ℚ) < overflow :=
      lt_trans (by exact_mod_cast hlimit) significandLimit_lt_overflow
    obtain ⟨x, hx, hnear⟩ := exists_ofNat?_near negative hpos hsmall
    rw [hx, Option.bind_eq_bind, Option.bind_some]
    refine Scales.exists_scaleByTen? 4 fun hpower _ => ?_
    have hup := one_le_roundUp
    obtain ⟨k, hk⟩ := Int.eq_ofNat_of_zero_le hpower
    -- What has been gathered, with its power of ten, is at most the magnitude of the literal.
    have hgathered : (g.significand : ℚ) * 10 ^ k ≤
        digitsValue (whole ++ fraction) * 10 ^ (exponent - fraction.length) := by
      calc (g.significand : ℚ) * 10 ^ k = g.significand * 10 ^ g.power * 10 ^ exponent := by
            rw [mul_assoc, ← zpow_add₀ (by norm_num), hk]
            rfl
        _ ≤ digitsValue (whole ++ fraction) * 10 ^ (-(fraction.length : Int)) * 10 ^ exponent :=
            mul_le_mul_of_nonneg_right hbelow (by positivity)
        _ = digitsValue (whole ++ fraction) * 10 ^ (exponent - fraction.length) := by
            rw [mul_assoc, ← zpow_add₀ (by norm_num), neg_add_eq_sub]
    have hproduct : (g.significand : ℚ) * 10 ^ k * (roundUp * roundUp) < overflow :=
      (mul_le_mul_of_nonneg_right hgathered (by positivity)).trans_lt h
    rw [hk, Int.natAbs_natCast]
    refine ⟨?_, ?_⟩
    · by_contra hlarge
      have hpow : (10 : ℚ) ^ (largestPower + 1) ≤ 10 ^ k := pow_le_pow_right₀ (by norm_num) (by omega)
      have hle : (1 : ℚ) * 10 ^ k * (1 * 1) ≤ g.significand * 10 ^ k * (roundUp * roundUp) := by gcongr
      have := overflow_lt_pow
      linarith
    · calc x.value * (10 ^ k * roundUp) ≤ g.significand * roundUp * (10 ^ k * roundUp) :=
            mul_le_mul_of_nonneg_right hnear.le (by positivity)
        _ = g.significand * 10 ^ k * (roundUp * roundUp) := by ring
        _ < overflow := hproduct

/-! ## Printed numbers -/

/-- The two largest numbers lie so close to the overflow that two roundings might reach it. -/
def AtTop (x : Binary64) : Prop := x.exponent = 971 ∧ 2 ^ 53 - 2 ≤ x.significand

theorem upperEnd_le (h : ¬ x.AtTop) : x.upperEnd ≤ (2 ^ 53 - 5 / 2) * largestUnit := by
  rw [upperEnd_eq, half]
  have hpos := largestUnit_pos
  have hmost := x.normal.2.2.1
  by_cases he : x.exponent = 971
  · have hm : (x.significand : ℚ) + 3 ≤ 2 ^ 53 := by
      have : ¬ 2 ^ 53 - 2 ≤ x.significand := fun hm => h ⟨he, hm⟩
      have hnat : x.significand + 3 ≤ 2 ^ 53 := by omega
      exact_mod_cast hnat
    have hunit : 2 * (2 : ℚ) ^ (x.exponent - 1) = largestUnit := by
      rw [he, ← zpow_one_add₀ two_ne_zero]
      rfl
    nlinarith
  · have hm : (x.significand : ℚ) + 1 ≤ 2 ^ 53 := by exact_mod_cast x.significand_lt
    have hunit : 2 * (2 * (2 : ℚ) ^ (x.exponent - 1)) ≤ largestUnit := by
      rw [← zpow_one_add₀ two_ne_zero, ← zpow_one_add₀ two_ne_zero]
      exact zpow_le_zpow_right₀ one_le_two (by omega)
    have hhalf : (0 : ℚ) < 2 ^ (x.exponent - 1) := by positivity
    nlinarith

/-- All other numbers are printed as magnitudes that are far enough from it. -/
theorem printed_lt (h : ¬ x.AtTop) : x.printed * (roundUp * roundUp) < overflow := by
  have hpos := largestUnit_pos
  have hle : x.printed ≤ (2 ^ 53 - 5 / 2) * largestUnit := by
    unfold printed
    split
    · nlinarith
    · rename_i hz
      exact (within_shortest (Bool.eq_false_iff.2 hz)).upper.trans (upperEnd_le h)
  have hup : (2 ^ 53 - 5 / 2) * (roundUp * roundUp) < 2 ^ 53 - 1 / 2 := by
    unfold roundUp
    norm_num
  calc x.printed * (roundUp * roundUp) ≤ (2 ^ 53 - 5 / 2) * largestUnit * (roundUp * roundUp) :=
        mul_le_mul_of_nonneg_right hle (by unfold roundUp; positivity)
    _ = (2 ^ 53 - 5 / 2) * (roundUp * roundUp) * largestUnit := by ring
    _ < overflow := by
      rw [overflow]
      exact mul_lt_mul_of_pos_right hup hpos

/-- The digits behind the point of the two largest numbers, which differ in the last one. -/
def topDigits (last : Nat) : List Nat := [7, 9, 7, 6, 9, 3, 1, 3, 4, 8, 6, 2, 3, 1, 5, last]

def topChars (negative : Bool) (last : Nat) : List Char :=
  Json.signChars negative ++ (digitChar 1 :: '.' :: (topDigits last).map digitChar ++
    'e' :: (if (308 : Int) < 0 then '-' else '+') :: decimalDigits (308 : Int).natAbs)

theorem chars_top : ∀ negative, (⟨negative, 2 ^ 53 - 1, 971, by decide⟩ : Binary64).chars = topChars negative 7 ∧
    (⟨negative, 2 ^ 53 - 2, 971, by decide⟩ : Binary64).chars = topChars negative 5 := by
  decide +kernel

theorem exists_ofLiteral?_top : ∀ negative, (ofLiteral? negative [1] (topDigits 7) 308).isSome ∧
    (ofLiteral? negative [1] (topDigits 5) 308).isSome := by
  decide +kernel

theorem AtTop.exists_chars (h : x.AtTop) : ∃ last < 10, x.chars = topChars x.negative last ∧
    ∃ y, ofLiteral? x.negative [1] (topDigits last) 308 = some y := by
  obtain ⟨negative, m, e, hnormal⟩ := x
  obtain ⟨rfl, hm⟩ := h
  have hlt := significand_lt ⟨negative, m, 971, hnormal⟩
  simp only at hm hlt
  obtain ⟨hchars, hchars'⟩ := chars_top negative
  obtain ⟨hread, hread'⟩ := exists_ofLiteral?_top negative
  obtain rfl | rfl : m = 2 ^ 53 - 1 ∨ m = 2 ^ 53 - 2 := by omega
  · exact ⟨7, by decide, hchars, Option.isSome_iff_exists.1 hread⟩
  · exact ⟨5, by decide, hchars', Option.isSome_iff_exists.1 hread'⟩

end Binary64

namespace Number

def ReadsAs (n k : Number) : Prop :=
  ∃ l : Json.Literal, (∀ rest, Ends rest → literal? (n.chars ++ rest) = some (l, rest)) ∧ l.number? = some k

theorem readsAs_integer {n : Int} (h : -9223372036854775808 ≤ n ∧ n < 18446744073709551616) :
    ReadsAs (.integer n h) (.integer n h) :=
  ⟨_, fun _ hrest => Json.literal?_integerChars n hrest, Json.number?_integer h⟩

theorem number?_of_float {l : Json.Literal} (h : l.fraction.isSome ∨ l.exponent.isSome) : l.number? =
    (Binary64.ofLiteral? l.negative l.whole (l.fraction.getD []) (l.exponent.getD 0)).map .float := by
  unfold Json.Literal.number?
  split
  · rename_i hfraction hexponent
    simp [hfraction, hexponent] at h
  · rfl

/-- Every printed number can be read. -/
theorem exists_readsAs (n : Number) : ∃ k, n.ReadsAs k := by
  cases n with
  | integer n h => exact ⟨_, readsAs_integer h⟩
  | float x =>
    by_cases htop : x.AtTop
    · obtain ⟨last, hlast, hchars, y, hy⟩ := Binary64.AtTop.exists_chars htop
      have hdigits : ∀ e ∈ 1 :: Binary64.topDigits last, e < 10 := by
        simp [Binary64.topDigits, hlast]
      refine ⟨.float y, ⟨x.negative, [1], some (Binary64.topDigits last), some 308⟩, fun rest hrest => ?_, ?_⟩
      · rw [chars, hchars]
        exact Json.literal?_power x.negative hdigits (by simp [Binary64.topDigits]) 308 hrest
      · rw [number?_of_float (.inl rfl)]
        simp only [Option.getD_some, hy]
        rfl
    · obtain ⟨l, hl, -, hfloat, hmagnitude⟩ := x.denotes_chars
      have hlt := Binary64.printed_lt htop
      rw [← hmagnitude] at hlt
      obtain ⟨y, hy⟩ := Binary64.exists_ofLiteral? l.negative l.whole (l.fraction.getD []) (l.exponent.getD 0) hlt
      refine ⟨.float y, l, hl, ?_⟩
      rw [number?_of_float hfloat, hy]
      rfl

end Number

end ChangeDesk
