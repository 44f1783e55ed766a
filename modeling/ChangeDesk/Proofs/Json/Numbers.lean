import ChangeDesk.Proofs.Binary64.Shortest
import ChangeDesk.Proofs.Json.Literals

/-!
The text of a number determines the number. Of an integer it gives all digits, and of a floating point number
enough of them: the decimal that is printed lies in the rounding interval of no other.
-/
namespace ChangeDesk

open Json (Ends Denotes signChars literal?)

namespace Binary64

variable {x y : Binary64}

def printed (x : Binary64) : ℚ := if x.isZero then 0 else x.shortest.value

theorem digits_shortest_ne_zero (hz : x.isZero = false) : x.shortest.digits ≠ 0 := by
  intro h
  have hpos := (within_shortest hz).pos (significand_pos hz)
  simp [Decimal.value, h] at hpos

/-- The text of a floating point number denotes its sign and the magnitude that is printed. -/
theorem denotes_chars (x : Binary64) : Denotes x.chars x.negative x.printed := by
  unfold chars printed
  simp only
  split
  · have hone : ∀ d ∈ [0], d < 10 := by simp
    refine (Json.denotes_point x.negative hone (by simp) (by simp) hone (by simp)).congr ?_ ?_
    · rfl
    · simp [Json.digitsValue]
  · rename_i hz
    have hdigits := digits_shortest_ne_zero (Bool.eq_false_iff.2 hz)
    refine (Json.denotes_write floatFormat x.negative (fun d hd => lt_of_mem_decimals hd)
      (decimals_ne_nil _) (head?_decimals hdigits)
      (x.shortest.power + (decimalDigits x.shortest.digits).length - 1)).congr ?_ ?_
    · rw [decimalDigits_eq]
      rfl
    · rw [Json.digitsValue_decimals, decimalDigits_eq, List.length_map, Decimal.value]
      congr 2
      omega

/-- Sign and printed magnitude determine the number. -/
theorem eq_of_printed_eq (hn : x.negative = y.negative) (h : x.printed = y.printed) : x = y := by
  have hparts : x.significand = y.significand ∧ x.exponent = y.exponent := by
    unfold printed at h
    split at h
    · rename_i hx
      split at h
      · rename_i hy
        rw [isZero, beq_iff_eq] at hx hy
        have hleast (z : Binary64) (hz : z.significand = 0) : z.exponent = -1074 :=
          z.normal.2.2.2.resolve_right (by rw [hz]; decide)
        exact ⟨hx.trans hy.symm, (hleast x hx).trans (hleast y hy).symm⟩
      · rename_i hy
        have hy' := Bool.eq_false_iff.2 hy
        exact absurd h (within_shortest hy' |>.pos (significand_pos hy')).ne
    · rename_i hx
      have hx' := Bool.eq_false_iff.2 hx
      have hpos := (within_shortest hx').pos (significand_pos hx')
      split at h
      · exact absurd h hpos.ne'
      · rename_i hy
        exact (within_shortest hx').unique (h ▸ within_shortest (Bool.eq_false_iff.2 hy))
  obtain ⟨hm, he⟩ := hparts
  cases x
  cases y
  simp_all

end Binary64

namespace Number

variable {m n : Number} {x y : List Char}

/-- The text of a number is read as a literal, up to its end. -/
theorem exists_literal? (n : Number) (hx : Ends x) : ∃ l, literal? (n.chars ++ x) = some (l, x) := by
  cases n with
  | integer n h => exact ⟨_, Json.literal?_integerChars n hx⟩
  | float n =>
    obtain ⟨l, hl, -⟩ := n.denotes_chars
    exact ⟨l, hl x hx⟩

theorem integer_ne_float {k : Int} {z : Binary64} (hx : Ends x) (hy : Ends y) :
    integerChars k ++ x ≠ z.chars ++ y := by
  intro h
  obtain ⟨l, hl, -, hfloat, -⟩ := z.denotes_chars
  replace hl := hl y hy
  rw [← h, Json.literal?_integerChars k hx] at hl
  simp only [Option.some.injEq, Prod.mk.injEq] at hl
  rw [← hl.1] at hfloat
  simp at hfloat

/-- A printed number determines itself and where it ends. -/
theorem chars_append_inj (hx : Ends x) (hy : Ends y) (h : m.chars ++ x = n.chars ++ y) :
    m = n ∧ x = y := by
  cases m with
  | integer a ha =>
    cases n with
    | integer b hb =>
      have hread := Json.literal?_integerChars a hx
      have hread' := Json.literal?_integerChars b hy
      rw [chars, chars] at h
      rw [h, hread'] at hread
      simp only [Option.some.injEq, Prod.mk.injEq] at hread
      obtain ⟨hliteral, hrest⟩ := hread
      have hnumber := congrArg Json.Literal.number? hliteral
      rw [Json.number?_integer ha, Json.number?_integer hb] at hnumber
      exact ⟨(Option.some.inj hnumber).symm, hrest.symm⟩
    | float z => exact absurd h (integer_ne_float hx hy)
  | float w =>
    cases n with
    | integer b hb => exact absurd h.symm (integer_ne_float hy hx)
    | float z =>
      obtain ⟨l, hl, hnegative, -, hmagnitude⟩ := w.denotes_chars
      obtain ⟨l', hl', hnegative', -, hmagnitude'⟩ := z.denotes_chars
      replace hl := hl x hx
      replace hl' := hl' y hy
      rw [chars, chars] at h
      rw [h, hl'] at hl
      simp only [Option.some.injEq, Prod.mk.injEq] at hl
      obtain ⟨rfl, rfl⟩ := hl
      refine ⟨congrArg float (Binary64.eq_of_printed_eq ?_ ?_), rfl⟩
      · exact hnegative.symm.trans hnegative'
      · exact hmagnitude.symm.trans hmagnitude'

end Number

end ChangeDesk
