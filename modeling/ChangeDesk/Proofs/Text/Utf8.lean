import ChangeDesk.Text.Basic
import Mathlib.Data.String.Basic
import Mathlib.Tactic.SplitIfs

/-!
Reading a text back from its bytes, and the order of these. What a first byte says about the second one leaves
out no character: the least code point with three bytes, or four, needs the narrowed range, and surrogates are
no characters.
-/
namespace ChangeDesk.Text.Utf8

variable {n bits low high : Nat}

theorem lead?_one (h : n < 128) : lead? n = some ⟨0, n, 0x80, 0xBF⟩ := by rw [lead?, if_pos h]

theorem lead?_two (h : 2 ≤ n) (h' : n < 32) : lead? (n + 192) = some ⟨1, n, 0x80, 0xBF⟩ := by
  rw [lead?, if_neg (by omega), if_neg (by omega), if_pos (by omega), Nat.add_sub_cancel]

theorem lead?_three (h : n < 16) :
    lead? (n + 224) =
      some ⟨2, n, if n = 0 then 0xA0 else 0x80, if n = 13 then 0x9F else 0xBF⟩ := by
  rw [lead?, if_neg (by omega), if_neg (by omega), if_neg (by omega), if_pos (by omega),
    Nat.add_sub_cancel]
  simp only [Nat.add_eq_right, Nat.reduceEqDiff]

theorem lead?_four (h : n < 5) :
    lead? (n + 240) =
      some ⟨3, n, if n = 0 then 0x90 else 0x80, if n = 4 then 0x8F else 0xBF⟩ := by
  rw [lead?, if_neg (by omega), if_neg (by omega), if_neg (by omega), if_neg (by omega),
    if_pos (by omega), Nat.add_sub_cancel]
  simp only [Nat.add_eq_right, Nat.reduceEqDiff]

/-- A further byte adds a digit in base 64. -/
theorem continued_digit (more : Nat) (hlow : low ≤ n + 128) (hhigh : n + 128 ≤ high) (hn : n < 64)
    (rest : List UInt8) :
    continued (more + 1) bits low high (UInt8.ofNat (n + 128) :: rest) =
      continued more (bits * 64 + n) 0x80 0xBF rest := by
  have hsize : n + 128 < 256 := by omega
  rw [continued, UInt8.toNat_ofNat_of_lt' hsize, if_pos ⟨hlow, hhigh⟩, Nat.add_sub_cancel]

theorem decodeChars_cons {more code : Nat} {rest rest' : List UInt8} (hn : n < 256)
    (hlead : lead? n = some ⟨more, bits, low, high⟩)
    (hread : continued more bits low high rest = (some code, rest')) :
    decodeChars (UInt8.ofNat n :: rest) = Char.ofNat code :: decodeChars rest' := by
  rw [decodeChars, UInt8.toNat_ofNat_of_lt' hn, hlead]
  simp only [hread]
  rfl

theorem utf8EncodeChar_of_lt {c : Char} (h : c.toNat < 128) :
    String.utf8EncodeChar c = [UInt8.ofNat c.toNat] :=
  if_pos (Nat.le_of_lt_succ h)

/-- The bytes of a character are read as that character, whatever follows them. -/
theorem decodeChars_char_append (c : Char) (rest : List UInt8) :
    decodeChars (String.utf8EncodeChar c ++ rest) = c :: decodeChars rest := by
  have hvalid : c.val.toNat < 55296 ∨ 57343 < c.val.toNat ∧ c.val.toNat < 1114112 := c.valid
  have hchar : Char.ofNat c.val.toNat = c := Char.ofNat_toNat c
  unfold String.utf8EncodeChar
  generalize c.val.toNat = v at hvalid hchar
  subst hchar
  dsimp only
  -- One case for each number of bytes; the first byte holds the digits that the others leave.
  split_ifs with hone htwo hthree <;> simp only [List.cons_append, List.nil_append]
  · exact decodeChars_cons (by omega) (lead?_one (by omega)) rfl
  · refine decodeChars_cons (by omega) (lead?_two (by omega) (by omega)) ?_
    have hcode : v / 64 % 32 * 64 + v % 64 = v := by omega
    rw [continued_digit 0 (by omega) (by omega) (by omega), hcode, continued]
  · refine decodeChars_cons (by omega) (lead?_three (by omega)) ?_
    have hcode : (v / 4096 % 16 * 64 + v / 64 % 64) * 64 + v % 64 = v := by omega
    rw [continued_digit 1 (by split_ifs <;> omega) (by split_ifs <;> omega) (by omega),
      continued_digit 0 (by omega) (by omega) (by omega), hcode, continued]
  · refine decodeChars_cons (by omega) (lead?_four (by omega)) ?_
    have hcode : ((v / 262144 % 8 * 64 + v / 4096 % 64) * 64 + v / 64 % 64) * 64 + v % 64 = v := by
      omega
    rw [continued_digit 2 (by split_ifs <;> omega) (by split_ifs <;> omega) (by omega),
      continued_digit 1 (by omega) (by omega) (by omega),
      continued_digit 0 (by omega) (by omega) (by omega), hcode, continued]

theorem decodeChars_flatMap (cs : List Char) :
    decodeChars (cs.flatMap String.utf8EncodeChar) = cs := by
  induction cs with
  | nil => rw [List.flatMap_nil, decodeChars]
  | cons c rest ih => rw [List.flatMap_cons, decodeChars_char_append, ih]

/-- Every text is read back from its bytes. -/
theorem decode_encode (s : String) : decode (encode s) = s := by
  rw [decode, encode, decodeChars_flatMap, String.ofList_toList]

end ChangeDesk.Text.Utf8

/-!
## Order

The order of texts is the order of their bytes in UTF-8. A character with more bytes starts with a greater
one, and among characters with equally many bytes these are the digits of the code point in base 64.
-/

namespace ChangeDesk.Text.Utf8

theorem ofNat_cons_lt_iff {m n : Nat} (hm : m < 256) (hn : n < 256) {x y : List UInt8} :
    UInt8.ofNat m :: x < UInt8.ofNat n :: y ↔ m < n ∨ m = n ∧ x < y := by
  rw [List.cons_lt_cons_iff, UInt8.lt_iff_toNat_lt, ← UInt8.toNat_inj, UInt8.toNat_ofNat_of_lt' hm,
    UInt8.toNat_ofNat_of_lt' hn]

/-- The bytes of two characters differ before either ends, so what follows them does not matter. -/
theorem char_append_lt {c d : Char} (h : c < d) (x y : List UInt8) :
    String.utf8EncodeChar c ++ x < String.utf8EncodeChar d ++ y := by
  have hlt : c.val.toNat < d.val.toNat := h
  have hmax : d.val.toNat < 1114112 := by
    have := d.valid
    simp only [UInt32.isValidChar, Nat.isValidChar] at this
    omega
  have htwo (n : Nat) : n / 4096 = n / 64 / 64 := by omega
  have hthree (n : Nat) : n / 262144 = n / 64 / 64 / 64 := by omega
  unfold String.utf8EncodeChar
  simp only [htwo, hthree]
  -- One case for each pair of lengths; those in which the smaller character is longer contradict `hlt`.
  split_ifs <;> simp (disch := omega) only [List.cons_append, List.nil_append, ofNat_cons_lt_iff] <;> omega

theorem flatMap_lt {a b : List Char} (h : a < b) :
    a.flatMap String.utf8EncodeChar < b.flatMap String.utf8EncodeChar := by
  induction a generalizing b with
  | nil =>
    cases b with
    | nil => exact absurd h (List.lt_irrefl [])
    | cons d b =>
      rw [List.flatMap_nil, List.flatMap_cons]
      cases hd : String.utf8EncodeChar d with
      | nil => exact absurd hd (String.utf8EncodeChar_ne_nil)
      | cons byte rest => exact List.nil_lt_cons _ _
  | cons c a ih =>
    cases b with
    | nil => exact absurd h (List.not_lt_nil _)
    | cons d b =>
      rw [List.flatMap_cons, List.flatMap_cons]
      rcases List.cons_lt_cons_iff.1 h with hlt | ⟨rfl, hrest⟩
      · exact char_append_lt hlt _ _
      · exact List.append_left_lt (ih hrest)

/-- Texts are in the order of their bytes. -/
theorem encode_lt_iff {a b : String} : encode a < encode b ↔ a < b := by
  refine ⟨fun h => ?_, fun h => flatMap_lt h⟩
  rcases lt_trichotomy a b with hlt | rfl | hgt
  · exact hlt
  · exact absurd h (List.lt_irrefl _)
  · exact absurd h (List.lt_asymm (flatMap_lt hgt))

end ChangeDesk.Text.Utf8
