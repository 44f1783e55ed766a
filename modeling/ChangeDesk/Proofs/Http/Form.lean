import ChangeDesk.Http.Form
import ChangeDesk.Proofs.Text.Basic
import ChangeDesk.Proofs.Text.Utf8
import Mathlib

/-!
Pairs of names and values are read back from the text that they are written as. No separator and no percent
sign stands for itself in a name or a value, so the cuts are where the pairs were joined, and every percent
sign begins the code of a byte.
-/
namespace ChangeDesk

namespace Http.Form

/-- What stands for itself is one byte and no sign with a meaning. -/
theorem of_keeps {c : Char} (h : keeps c = true) :
    c.toNat < 128 ∧ c ≠ '+' ∧ c ≠ '%' ∧ c ≠ '&' ∧ c ≠ '=' := by
  refine ⟨?_, ?_, ?_, ?_, ?_⟩
  · simp only [keeps, Char.isAlphanum, Char.isAlpha, Char.isUpper, Char.isLower, Char.isDigit,
      Bool.or_eq_true, Bool.and_eq_true, decide_eq_true_eq, beq_iff_eq, UInt32.le_iff_toNat_le,
      ge_iff_le] at h
    have hcode : c.toNat = c.val.toNat := rfl
    have hupper : 'Z'.val.toNat = 90 := rfl
    have hlower : 'z'.val.toNat = 122 := rfl
    have hdigit : '9'.val.toNat = 57 := rfl
    rcases h with (((hletter | rfl) | rfl) | rfl) | rfl
    · omega
    all_goals decide
  all_goals
    rintro rfl
    exact absurd h (by decide)

theorem keeps_upperHexDigit {n : Nat} (h : n < 16) : keeps (upperHexDigit n) = true := by
  have all : ∀ m ∈ List.range 16, keeps (upperHexDigit m) = true := by decide
  exact all n (List.mem_range.2 h)

end Http.Form

namespace Http.Percent

theorem decode_cons {byte : UInt8} (h : byte ≠ 0x25) (rest : List UInt8) :
    decode (byte :: rest) = byte :: decode rest := by
  rw [decode]
  rintro high low rest' rfl
  exact absurd rfl h

/-- A character of one byte is read as the digit that it is. -/
theorem digit?_ofNat {c : Char} (h : c.toNat < 128) : digit? (UInt8.ofNat c.toNat) = hexValue? c := by
  rw [digit?, UInt8.toNat_ofNat_of_lt' (Nat.lt_trans h (by decide)), Char.ofNat_toNat]

/-- A digit is one byte, which is read as that digit. -/
theorem digit_spec {n : Nat} (h : n < 16) :
    String.utf8EncodeChar (upperHexDigit n) = [UInt8.ofNat (upperHexDigit n).toNat] ∧
      digit? (UInt8.ofNat (upperHexDigit n).toNat) = some n := by
  have hlt : (upperHexDigit n).toNat < 128 := (Form.of_keeps (Form.keeps_upperHexDigit h)).1
  exact ⟨Text.Utf8.utf8EncodeChar_of_lt hlt, (digit?_ofNat hlt).trans (hexValue?_upperHexDigit h)⟩

/-- The code of a byte is read as that byte, whatever follows it. -/
theorem decode_code (byte : UInt8) (rest : List UInt8) :
    decode ((code byte).flatMap String.utf8EncodeChar ++ rest) = byte :: decode rest := by
  have hbyte : byte.toNat < 256 := byte.toNat_lt
  obtain ⟨hhigh, hhigh'⟩ := digit_spec (n := byte.toNat / 16) (by omega)
  obtain ⟨hlow, hlow'⟩ := digit_spec (n := byte.toNat % 16) (by omega)
  have hpercent : String.utf8EncodeChar '%' = [0x25] := by decide
  have hsum : byte.toNat / 16 * 16 + byte.toNat % 16 = byte.toNat := by omega
  simp only [code, List.flatMap_cons, List.flatMap_nil, hpercent, hhigh, hlow, List.cons_append,
    List.nil_append]
  have hvalue : byte? (UInt8.ofNat (upperHexDigit (byte.toNat / 16)).toNat)
      (UInt8.ofNat (upperHexDigit (byte.toNat % 16)).toNat) = some byte := by
    simp only [byte?, hhigh', hlow', Option.bind_eq_bind, Option.bind_some, hsum, UInt8.ofNat_toNat]
    rfl
  rw [decode, hvalue]

theorem decode_charCode (c : Char) (rest : List UInt8) :
    decode ((charCode c).flatMap String.utf8EncodeChar ++ rest) =
      String.utf8EncodeChar c ++ decode rest := by
  rw [charCode]
  induction String.utf8EncodeChar c with
  | nil => rfl
  | cons byte bytes ih =>
    rw [List.flatMap_cons, List.flatMap_append, List.append_assoc, decode_code, ih]
    rfl

end Http.Percent

namespace Http.Form

open Text

def encodeChar (c : Char) : List Char :=
  if c = ' ' then ['+'] else if keeps c then [c] else Percent.charCode c

def unplussed (c : Char) : Char := if c = '+' then ' ' else c

theorem unplussed_eq {c : Char} (h : c ≠ '+') : unplussed c = c := if_neg h

theorem encodeText_eq (s : String) : encodeText s = s.toList.flatMap encodeChar := rfl

theorem decodeText_eq (cs : List Char) : decodeText cs =
    Utf8.decode (Percent.decode (Utf8.encode (String.ofList (cs.map unplussed)))) := rfl

/-- A code is a percent sign and digits, which stand for themselves. -/
theorem mem_charCode {c d : Char} (h : d ∈ Percent.charCode c) : d = '%' ∨ keeps d = true := by
  obtain ⟨byte, -, hd⟩ := List.mem_flatMap.1 h
  have hbyte : byte.toNat < 256 := byte.toNat_lt
  simp only [Percent.code, List.mem_cons, List.not_mem_nil, or_false] at hd
  rcases hd with rfl | rfl | rfl
  · exact .inl rfl
  · exact .inr (keeps_upperHexDigit (by omega))
  · exact .inr (keeps_upperHexDigit (by omega))

theorem map_unplussed_charCode (c : Char) :
    (Percent.charCode c).map unplussed = Percent.charCode c := by
  refine (List.map_congr_left fun d hd => ?_).trans (List.map_id _)
  rcases mem_charCode hd with rfl | hkeeps
  · rfl
  · exact unplussed_eq (of_keeps hkeeps).2.1

/-- A character is read back as its bytes, whatever follows it. -/
theorem decode_encodeChar (c : Char) (rest : List UInt8) :
    Percent.decode (((encodeChar c).map unplussed).flatMap String.utf8EncodeChar ++ rest) =
      String.utf8EncodeChar c ++ Percent.decode rest := by
  rw [encodeChar]
  split_ifs with hspace hkeeps
  · subst hspace
    exact Percent.decode_cons (by decide) rest
  · obtain ⟨hlt, hplus, hpercent, -, -⟩ := of_keeps hkeeps
    rw [List.map_singleton, unplussed_eq hplus, List.flatMap_singleton, Utf8.utf8EncodeChar_of_lt hlt]
    refine Percent.decode_cons (fun hbyte => hpercent ?_) rest
    have hcode : c.toNat = 37 := by
      rw [← UInt8.toNat_ofNat_of_lt' (Nat.lt_trans hlt (by decide)), hbyte]
      rfl
    rw [← Char.ofNat_toNat c, hcode]
  -- Plus signs are taken for spaces before the codes are read, and a code holds none.
  · rw [map_unplussed_charCode, Percent.decode_charCode]

theorem decode_encodeChars (cs : List Char) :
    Percent.decode (((cs.flatMap encodeChar).map unplussed).flatMap String.utf8EncodeChar) =
      cs.flatMap String.utf8EncodeChar := by
  induction cs with
  | nil => rw [List.flatMap_nil, List.map_nil, List.flatMap_nil, Percent.decode]
  | cons c rest ih =>
    rw [List.flatMap_cons, List.map_append, List.flatMap_append, decode_encodeChar, ih]
    rfl

/-- A name or a value is read back as it was. -/
theorem decodeText_encodeText (s : String) : decodeText (encodeText s) = s := by
  have hbytes : Percent.decode (Utf8.encode (String.ofList ((encodeText s).map unplussed))) =
      Utf8.encode s := by
    rw [Utf8.encode, String.toList_ofList, encodeText_eq]
    exact decode_encodeChars s.toList
  rw [decodeText_eq, hbytes, Utf8.decode_encode]

theorem mem_encodeText {s : String} {d : Char} (h : d ∈ encodeText s) :
    d = '+' ∨ d = '%' ∨ keeps d = true := by
  obtain ⟨c, -, hd⟩ := List.mem_flatMap.1 (encodeText_eq s ▸ h)
  rw [encodeChar] at hd
  split_ifs at hd with hspace hkeeps
  · exact .inl (List.mem_singleton.1 hd)
  · rw [List.mem_singleton.1 hd]
    exact .inr (.inr hkeeps)
  · exact .inr (mem_charCode hd)

/-- No separator stands in a name or a value. -/
theorem separators_not_mem_encodeText (s : String) : '&' ∉ encodeText s ∧ '=' ∉ encodeText s := by
  have hmem (d : Char) (hkeeps : keeps d = false) (hplus : d ≠ '+') (hpercent : d ≠ '%') :
      d ∉ encodeText s := by
    intro h
    rcases mem_encodeText h with rfl | rfl | h
    · exact hplus rfl
    · exact hpercent rfl
    · simp [h] at hkeeps
  exact ⟨hmem '&' (by decide) (by decide) (by decide), hmem '=' (by decide) (by decide) (by decide)⟩

theorem decodePair_encodePair (pair : String × String) : decodePair (encodePair pair) = pair := by
  rw [decodePair, encodePair, splitFirst?_append (separators_not_mem_encodeText pair.1).2]
  simp only [decodeText_encodeText]

theorem encodePair_spec (pair : String × String) : '&' ∉ encodePair pair ∧ encodePair pair ≠ [] := by
  simp [encodePair, (separators_not_mem_encodeText _).1]

/-- The pieces of written pairs are the pairs. -/
theorem splitAll_encode (pairs : List (String × String)) :
    (splitAll '&' (encode pairs).toList).filter (· ≠ []) = pairs.map encodePair := by
  rw [encode, String.toList_ofList]
  cases pairs with
  | nil => rfl
  | cons pair pairs =>
    have hcut : ∀ piece ∈ encodePair pair :: pairs.map encodePair, '&' ∉ piece ∧ piece ≠ [] := by
      rw [← List.map_cons, List.forall_mem_map]
      exact fun p _ => encodePair_spec p
    rw [List.map_cons, splitAll_joinAll fun piece hpiece => (hcut piece hpiece).1,
      List.filter_eq_self]
    exact fun piece hpiece => decide_eq_true (hcut piece hpiece).2

/-- Pairs are read back as they were, in their order. -/
theorem decode_encode (pairs : List (String × String)) : decode (encode pairs) = pairs := by
  rw [decode, splitAll_encode, List.map_map]
  exact List.map_id'' decodePair_encodePair pairs

/-- What stands before an ampersand and what stands behind it are read each on its own. -/
theorem decode_append (s t : String) : decode (s ++ "&" ++ t) = decode s ++ decode t := by
  have hchars : (s ++ "&" ++ t).toList = s.toList ++ '&' :: t.toList := by simp
  rw [decode, hchars, splitAll_append, List.filter_append, List.map_append]
  rfl

@[simp] theorem decode_empty : decode "" = [] := rfl

end Http.Form

end ChangeDesk
