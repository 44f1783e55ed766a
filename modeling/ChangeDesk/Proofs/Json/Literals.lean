import ChangeDesk.Json.Parser
import ChangeDesk.Json.Basic
import Mathlib.Algebra.Order.Field.Rat
import Mathlib.Data.Nat.Digits.Lemmas
import Mathlib.Tactic.Ring

/-!
Decimal digits, and the number literals that are made of them. Those that are printed for a natural number are
read back one by one, up to the first character that is none, and they denote the number.
-/
namespace ChangeDesk

def decimals (n : Nat) : List Nat := if n = 0 then [0] else (Nat.digits 10 n).reverse

variable {n : Nat}

theorem decimals_of_lt (h : n < 10) : decimals n = [n] := by
  by_cases hn : n = 0
  · simp [decimals, hn]
  · simp [decimals, hn, Nat.digits_of_lt 10 n hn h]

theorem decimals_of_le (h : 10 ≤ n) : decimals n = decimals (n / 10) ++ [n % 10] := by
  have hn : n ≠ 0 := by omega
  have hq : n / 10 ≠ 0 := by omega
  rw [decimals, if_neg hn, Nat.digits_def' (by decide) (by omega), decimals, if_neg hq, List.reverse_cons]

theorem lt_of_mem_decimals {d : Nat} (h : d ∈ decimals n) : d < 10 := by
  unfold decimals at h
  split at h
  · simp_all
  · exact Nat.digits_lt_base (by decide) (List.mem_reverse.1 h)

theorem decimals_ne_nil (n : Nat) : decimals n ≠ [] := by
  unfold decimals
  split
  · simp
  · rename_i hn
    simpa using Nat.digits_ne_nil_iff_ne_zero.2 hn

/-- No digit in front is zero, but for the one digit of zero itself. -/
theorem head?_decimals (h : n ≠ 0) : (decimals n).head? ≠ some 0 := by
  rw [decimals, if_neg h, List.head?_reverse, List.getLast?_eq_getLast_of_ne_nil
    (Nat.digits_ne_nil_iff_ne_zero.2 h)]
  simpa using Nat.getLast_digit_ne_zero 10 h

theorem decimalDigitsAux_eq {fuel : Nat} (h : n < fuel) (acc : List Char) :
    decimalDigitsAux fuel n acc = (decimals n).map digitChar ++ acc := by
  induction fuel generalizing n acc with
  | zero => omega
  | succ fuel ih =>
    unfold decimalDigitsAux
    split
    · rename_i hn
      rw [decimals_of_lt hn]
      rfl
    · rename_i hn
      have hle : 10 ≤ n := by omega
      rw [decimals_of_le hle, ih (by omega)]
      simp

/-- The printed digits are the digits. -/
theorem decimalDigits_eq (n : Nat) : decimalDigits n = (decimals n).map digitChar := by
  rw [decimalDigits, decimalDigitsAux_eq (by omega), List.append_nil]

theorem digitValue?_digitChar {d : Nat} (h : d < 10) : digitValue? (digitChar d) = some d := by
  have all : ∀ m ∈ List.range 10, digitValue? (digitChar m) = some m := by decide
  exact all d (List.mem_range.2 h)

namespace Json

def Undigited (cs : List Char) : Prop := ∀ c ∈ cs.head?, digitValue? c = none

theorem digits_of_undigited {cs : List Char} (h : Undigited cs) : digits cs = ([], cs) := by
  cases cs with
  | nil => rfl
  | cons c cs => rw [digits, h c rfl]

/-- Printed digits are read back up to their end. -/
theorem digits_append {ds : List Nat} (hd : ∀ d ∈ ds, d < 10) {cs : List Char} (h : Undigited cs) :
    digits (ds.map digitChar ++ cs) = (ds, cs) := by
  induction ds with
  | nil => exact digits_of_undigited h
  | cons d ds ih =>
    obtain ⟨hlt, hds⟩ := List.forall_mem_cons.1 hd
    simp [digits, digitValue?_digitChar hlt, ih hds]

theorem digitsValue_append (ds es : List Nat) :
    digitsValue (ds ++ es) = digitsValue ds * 10 ^ es.length + digitsValue es := by
  have hfold (m : Nat) : es.foldl (fun n d => n * 10 + d) m =
      m * 10 ^ es.length + es.foldl (fun n d => n * 10 + d) 0 := by
    induction es generalizing m with
    | nil => simp
    | cons e es ih =>
      rw [List.foldl_cons, List.foldl_cons, ih, ih (0 * 10 + e), List.length_cons, pow_succ]
      ring
  rw [digitsValue, List.foldl_append, hfold]
  rfl

/-- The digits of a number denote it. -/
theorem digitsValue_decimals (n : Nat) : digitsValue (decimals n) = n := by
  induction n using Nat.strongRecOn with
  | ind n ih =>
    by_cases h : n < 10
    · simp [decimals_of_lt h, digitsValue]
    · rw [decimals_of_le (by omega), digitsValue_append, ih (n / 10) (by omega)]
      simp only [digitsValue, List.foldl_cons, List.foldl_nil, List.length_singleton, pow_one]
      omega

end Json

end ChangeDesk

/-!
## Literals

Number literals. The text of a number is read back as a literal, up to the bracket or comma behind it. The
literal of an integer is that integer; the literal of a floating point number is not one of an integer, and it
stands for the decimal that was printed.
-/

namespace ChangeDesk.Json

/-- What may stand behind a value in a compact text: nothing, a comma or a closing bracket. -/
def Ends (cs : List Char) : Prop := ∀ c ∈ cs.head?, c = ',' ∨ c = ']' ∨ c = '\x7d'

theorem Ends.nil : Ends [] := by simp [Ends]

theorem Ends.cons {c : Char} {cs : List Char} (h : c = ',' ∨ c = ']' ∨ c = '\x7d') : Ends (c :: cs) := by
  simpa [Ends] using h

theorem Ends.undigited {cs : List Char} (h : Ends cs) : Undigited cs := by
  intro c hc
  rcases h c hc with rfl | rfl | rfl <;> decide

def signChars (negative : Bool) : List Char := if negative then ['-'] else []

theorem digitChar_ne_minus {d : Nat} (h : d < 10) : digitChar d ≠ '-' := by
  have all : ∀ m ∈ List.range 10, digitChar m ≠ '-' := by decide
  exact all d (List.mem_range.2 h)

variable {whole ds : List Nat} {cs cs' rest : List Char} {fraction : Option (List Nat)}
  {exponent : Option Int}

/-- A literal is read part by part. -/
theorem literal?_append (negative : Bool) (hd : ∀ d ∈ whole, d < 10) (hne : whole ≠ [])
    (hz : whole.head? = some 0 → whole.length = 1) (hcs : Undigited cs)
    (hf : fraction? cs = some (fraction, cs')) (he : exponent? cs' = some (exponent, rest)) :
    literal? (signChars negative ++ (whole.map digitChar ++ cs)) =
      some (⟨negative, whole, fraction, exponent⟩, rest) := by
  have hread := digits_append hd hcs
  cases whole with
  | nil => exact absurd rfl hne
  | cons d ds =>
    have hminus := digitChar_ne_minus (hd d List.mem_cons_self)
    have hlead : d = 0 → ds = [] := by simpa using hz
    rw [List.map_cons, List.cons_append] at hread ⊢
    cases negative <;> simpa [signChars, literal?, hread, hminus, hf, he] using hlead

theorem fraction?_of_ne (h : cs.head? ≠ some '.') : fraction? cs = some (none, cs) := by
  unfold fraction?
  split
  · simp at h
  · rfl

theorem fraction?_append (hd : ∀ d ∈ ds, d < 10) (hne : ds ≠ []) (h : Undigited cs) :
    fraction? ('.' :: (ds.map digitChar ++ cs)) = some (some ds, cs) := by
  rw [fraction?, digits_append hd h]
  cases ds with
  | nil => exact absurd rfl hne
  | cons d ds => rfl

theorem exponent?_of_ends (h : Ends rest) : exponent? rest = some (none, rest) := by
  cases rest with
  | nil => rfl
  | cons c cs => rcases h c rfl with rfl | rfl | rfl <;> rfl

theorem exponent?_append (n : Int) (h : Ends rest) :
    exponent? ('e' :: (if n < 0 then '-' else '+') :: (decimalDigits n.natAbs ++ rest)) =
      some (some n, rest) := by
  have hread := digits_append (fun d hd => lt_of_mem_decimals (n := n.natAbs) hd) h.undigited
  have hvalue := digitsValue_decimals n.natAbs
  rw [decimalDigits_eq]
  cases hds : decimals n.natAbs with
  | nil => exact absurd hds (decimals_ne_nil _)
  | cons d ds =>
    rw [hds] at hread hvalue
    by_cases hn : n < 0
    · rw [if_pos hn, exponent?, if_pos (.inl rfl), exponentSign]
      simp only [hread, hvalue, if_true, Option.some.injEq, Prod.mk.injEq, and_true]
      omega
    · rw [if_neg hn, exponent?, if_pos (.inl rfl), exponentSign]
      simp only [hread, hvalue, Bool.false_eq_true, if_false, Option.some.injEq, Prod.mk.injEq, and_true]
      omega

/-! ## Integers -/

theorem integerChars_eq (n : Int) :
    integerChars n = signChars (decide (n < 0)) ++ (decimals n.natAbs).map digitChar := by
  cases n with
  | ofNat n => simp [integerChars, signChars, decimalDigits_eq]
  | negSucc n => simp [integerChars, signChars, decimalDigits_eq, Int.natAbs_negSucc]

/-- The text of an integer is read as its digits. -/
theorem literal?_integerChars (n : Int) (h : Ends rest) :
    literal? (integerChars n ++ rest) = some (⟨n < 0, decimals n.natAbs, none, none⟩, rest) := by
  rw [integerChars_eq, List.append_assoc]
  refine literal?_append _ (fun d hd => lt_of_mem_decimals hd) (decimals_ne_nil _) ?_ h.undigited
    (fraction?_of_ne ?_) (exponent?_of_ends h)
  · intro hz
    by_cases hn : n.natAbs = 0
    · rw [hn]
      rfl
    · exact absurd hz (head?_decimals hn)
  · cases rest with
    | nil => simp
    | cons c cs => rcases h c rfl with rfl | rfl | rfl <;> simp

/-- The digits of an integer stand for it. -/
theorem number?_integer {n : Int} (h : -9223372036854775808 ≤ n ∧ n < 18446744073709551616) :
    Literal.number? ⟨n < 0, decimals n.natAbs, none, none⟩ = some (.integer n h) := by
  have hzero : ¬ (n < 0 ∧ n.natAbs = 0) := by omega
  have hsign : (if n < 0 then -(n.natAbs : Int) else n.natAbs) = n := by
    split <;> omega
  simp only [Literal.number?, digitsValue_decimals, decide_eq_true_eq, if_neg hzero, hsign]
  simp [Number.ofInt?, h]

/-! ## Floating point numbers -/

def Literal.magnitude (l : Literal) : ℚ :=
  digitsValue (l.whole ++ l.fraction.getD []) *
    10 ^ (l.exponent.getD 0 - ((l.fraction.getD []).length : Int))

/-- The text is a literal of this sign and magnitude, with a point or an exponent in it. -/
def Denotes (cs : List Char) (negative : Bool) (magnitude : ℚ) : Prop :=
  ∃ l : Literal, (∀ rest, Ends rest → literal? (cs ++ rest) = some (l, rest)) ∧ l.negative = negative ∧
    (l.fraction.isSome ∨ l.exponent.isSome) ∧ l.magnitude = magnitude

theorem undigited_point (cs : List Char) : Undigited ('.' :: cs) := by simp [Undigited]; decide

theorem undigited_power (cs : List Char) : Undigited ('e' :: cs) := by simp [Undigited]; decide

/-- Digits around a point. -/
theorem denotes_point (negative : Bool) {whole ds : List Nat} (hd : ∀ d ∈ whole, d < 10)
    (hne : whole ≠ []) (hz : whole.head? = some 0 → whole.length = 1) (hds : ∀ d ∈ ds, d < 10)
    (hdne : ds ≠ []) :
    Denotes (signChars negative ++ (whole.map digitChar ++ '.' :: ds.map digitChar)) negative
      (digitsValue (whole ++ ds) * 10 ^ (-(ds.length : Int))) := by
  refine ⟨⟨negative, whole, some ds, none⟩, fun rest h => ?_, rfl, .inl rfl, ?_⟩
  · rw [List.append_assoc, List.append_assoc, List.cons_append]
    exact literal?_append negative hd hne hz (undigited_point _) (fraction?_append hds hdne h.undigited)
      (exponent?_of_ends h)
  · simp [Literal.magnitude]

/-- One digit, others behind a point, and an exponent. -/
theorem literal?_power (negative : Bool) {d : Nat} (hd : ∀ e ∈ d :: ds, e < 10) (hne : ds ≠ []) (exponent : Int)
    (h : Ends rest) :
    literal? (signChars negative ++ (digitChar d :: '.' :: ds.map digitChar ++
      'e' :: (if exponent < 0 then '-' else '+') :: decimalDigits exponent.natAbs) ++ rest) =
        some (⟨negative, [d], some ds, some exponent⟩, rest) := by
  obtain ⟨hlt, hds⟩ := List.forall_mem_cons.1 hd
  have hone : ∀ e ∈ [d], e < 10 := by simpa using hlt
  have hfraction := fraction?_append hds hne (undigited_power
    ((if exponent < 0 then '-' else '+') :: (decimalDigits exponent.natAbs ++ rest)))
  have hliteral := literal?_append negative hone (by simp) (by simp) (undigited_point _) hfraction
    (exponent?_append exponent h)
  simpa using hliteral

/-- One digit, perhaps others behind a point, and an exponent. -/
theorem denotes_power (negative : Bool) {d : Nat} (hd : ∀ e ∈ d :: ds, e < 10) (exponent : Int) :
    Denotes (signChars negative ++
      ((if ds.isEmpty then [digitChar d] else digitChar d :: '.' :: ds.map digitChar) ++
        'e' :: (if exponent < 0 then '-' else '+') :: decimalDigits exponent.natAbs)) negative
      (digitsValue (d :: ds) * 10 ^ (exponent - (ds.length : Int))) := by
  obtain ⟨hlt, hds⟩ := List.forall_mem_cons.1 hd
  have hone : ∀ e ∈ [d], e < 10 := by simpa using hlt
  cases ds with
  | nil =>
    refine ⟨⟨negative, [d], none, some exponent⟩, fun rest h => ?_, rfl, .inr rfl, by simp [Literal.magnitude]⟩
    rw [List.append_assoc]
    exact literal?_append negative hone (by simp) (by simp) (undigited_power _)
      (fraction?_of_ne (by simp)) (exponent?_append exponent h)
  | cons e ds =>
    refine ⟨⟨negative, [d], some (e :: ds), some exponent⟩, fun rest h => ?_, rfl, .inr rfl,
      by simp [Literal.magnitude]⟩
    exact literal?_power negative hd (by simp) exponent h

theorem digitsValue_zeros (k : Nat) : digitsValue (List.replicate k 0) = 0 := by
  induction k with
  | zero => rfl
  | succ k ih => rw [List.replicate_succ', digitsValue_append, ih]; rfl

theorem digitsValue_zeros_append (k : Nat) (ds : List Nat) :
    digitsValue (List.replicate k 0 ++ ds) = digitsValue ds := by
  rw [digitsValue_append, digitsValue_zeros, Nat.zero_mul, Nat.zero_add]

theorem digitsValue_append_zeros (ds : List Nat) (k : Nat) :
    digitsValue (ds ++ List.replicate k 0) = digitsValue ds * 10 ^ k := by
  rw [digitsValue_append, digitsValue_zeros, List.length_replicate, Nat.add_zero]

theorem lt_of_mem_zeros {k d : Nat} (h : d ∈ List.replicate k 0) : d < 10 := by
  rw [List.eq_of_mem_replicate h]
  decide

theorem Denotes.congr {negative : Bool} {q q' : ℚ} (h : Denotes cs negative q) (hcs : cs' = cs)
    (hq : q' = q) : Denotes cs' negative q' := by
  subst hcs hq
  exact h

/-- The same decimal with other digits: `k` zeros at the end count for the power of ten. -/
theorem Denotes.shift {negative : Bool} {m n : Nat} {a b : Int} (h : Denotes cs negative (n * 10 ^ b))
    (k : Nat) (hcs : cs' = cs) (hn : n = m * 10 ^ k) (ha : a = k + b) :
    Denotes cs' negative (m * 10 ^ a) := by
  have hvalue : (m : ℚ) * 10 ^ a = n * 10 ^ b := by
    rw [ha, hn, zpow_add₀ (by norm_num), zpow_natCast]
    push_cast
    ring
  rw [hcs, hvalue]
  exact h

theorem digitChar_zero : digitChar 0 = '0' := by decide

/-- Written digits denote the decimal they belong to, in every layout. -/
theorem denotes_write (f : FloatFormat) (negative : Bool) (hd : ∀ d ∈ ds, d < 10) (hne : ds ≠ [])
    (hz : ds.head? ≠ some 0) (exponent : Int) :
    Denotes (signChars negative ++ f.write (ds.map digitChar) exponent) negative
      (digitsValue ds * 10 ^ (exponent + 1 - (ds.length : Int))) := by
  have hlength : 0 < ds.length := List.length_pos_iff.2 hne
  unfold FloatFormat.write
  simp only [List.length_map]
  split
  · split
    · -- Below one: zeros stand between the point and the digits.
      have hzeros : ∀ d ∈ List.replicate ((-exponent).toNat - 1) 0 ++ ds, d < 10 :=
        fun d h => (List.mem_append.1 h).elim lt_of_mem_zeros (hd d)
      have hone : ∀ d ∈ [0], d < 10 := by simp
      refine (denotes_point negative hone (by simp) (by simp) hzeros (by simp [hne])).shift 0 ?_ ?_ ?_
      · simp [digitChar_zero]
      · rw [digitsValue_append, digitsValue_zeros_append]
        simp [digitsValue]
      · rw [List.length_append, List.length_replicate]
        omega
    · split
      · -- A whole number: zeros fill the places in front of the point.
        rename_i hneg hcount
        have hzeros : ∀ d ∈ ds ++ List.replicate (exponent.toNat + 1 - ds.length) 0, d < 10 :=
          fun d h => (List.mem_append.1 h).elim (hd d) lt_of_mem_zeros
        have hone : ∀ d ∈ [0], d < 10 := by simp
        refine (denotes_point negative hzeros (by simp [hne]) ?_ hone (by simp)).shift
          (exponent.toNat + 1 - ds.length + 1) ?_ ?_ ?_
        · rw [List.head?_append_of_ne_nil _ hne]
          exact fun h => absurd h hz
        · simp [digitChar_zero]
        · rw [List.append_assoc, ← List.replicate_succ', digitsValue_append_zeros]
        · rw [List.length_singleton]
          omega
      · -- The point stands among the digits.
        rename_i hneg hcount
        have hfront : ∀ d ∈ ds.take (exponent.toNat + 1), d < 10 := fun d h => hd d (List.mem_of_mem_take h)
        have hback : ∀ d ∈ ds.drop (exponent.toNat + 1), d < 10 := fun d h => hd d (List.mem_of_mem_drop h)
        refine (denotes_point negative hfront (by simp [hne]) ?_ hback ?_).shift 0 ?_ ?_ ?_
        · rw [List.head?_take, if_neg (by omega)]
          exact fun h => absurd h hz
        · rw [← List.length_pos_iff, List.length_drop]
          omega
        · simp
        · simp
        · rw [List.length_drop]
          omega
  · -- One digit and an exponent.
    cases ds with
    | nil => exact absurd rfl hne
    | cons d ds =>
      refine (denotes_power negative hd exponent).shift 0 ?_ (by simp) ?_
      · cases ds <;> simp
      · simp

end ChangeDesk.Json
