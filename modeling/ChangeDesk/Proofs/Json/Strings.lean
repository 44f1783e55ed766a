import ChangeDesk.Json.Parser
import ChangeDesk.Json.Basic

/-!
String literals: what is printed is read back character by character, up to the closing quote. A printed
literal therefore ends at a place that the text itself determines.
-/
namespace ChangeDesk.Json

theorem hexQuad?_hexDigit {n : Nat} (h : n < 32) :
    hexQuad? '0' '0' (hexDigit (n / 16)) (hexDigit (n % 16)) = some n := by
  have hzero : hexValue? '0' = some 0 := by decide
  have hhigh := hexValue?_hexDigit (n := n / 16) (by omega)
  have hlow := hexValue?_hexDigit (n := n % 16) (by omega)
  have hsum : ((0 * 16 + 0) * 16 + n / 16) * 16 + n % 16 = n := by omega
  simp only [hexQuad?, hzero, hhigh, hlow, Option.bind_eq_bind, Option.bind_some, hsum]
  rfl

/-- An escaped character is read back as that character. -/
theorem stringBody?_escapeChar (acc : List Char) (c : Char) (rest : List Char) :
    stringBody? acc (escapeChar c ++ rest) = stringBody? (c :: acc) rest := by
  by_cases hquote : c = '"'
  · subst hquote
    simp [escapeChar, stringBody?, simpleEscape?]
  by_cases hback : c = '\\'
  · subst hback
    simp [escapeChar, stringBody?, simpleEscape?]
  by_cases hb : c = '\x08'
  · subst hb
    simp [escapeChar, stringBody?, simpleEscape?]
  by_cases ht : c = '\t'
  · subst ht
    simp [escapeChar, stringBody?, simpleEscape?]
  by_cases hn : c = '\n'
  · subst hn
    simp [escapeChar, stringBody?, simpleEscape?]
  by_cases hf : c = '\x0c'
  · subst hf
    simp [escapeChar, stringBody?, simpleEscape?]
  by_cases hr : c = '\r'
  · subst hr
    simp [escapeChar, stringBody?, simpleEscape?]
  by_cases hlow : c.toNat < 32
  · have hhigh : isHighSurrogate c.toNat = false := by simp [isHighSurrogate]; omega
    have htrail : isLowSurrogate c.toNat = false := by simp [isLowSurrogate]; omega
    simp [escapeChar, hquote, hback, hb, ht, hn, hf, hr, hlow, stringBody?, hexQuad?_hexDigit hlow,
      hhigh, htrail]
  · have hone : escapeChar c = [c] := by
      simp [escapeChar, hquote, hback, hb, ht, hn, hf, hr, hlow]
    rw [hone, List.singleton_append]
    simp [stringBody?, hback, hlow]

theorem stringBody?_flatMap (acc cs rest : List Char) :
    stringBody? acc (cs.flatMap escapeChar ++ '"' :: rest) = some (acc.reverse ++ cs, rest) := by
  induction cs generalizing acc with
  | nil => simp [stringBody?]
  | cons c cs ih =>
    rw [List.flatMap_cons, List.append_assoc, stringBody?_escapeChar, ih]
    simp

/-- A printed literal determines its text and where it ends. -/
theorem stringChars_append_inj {s t : String} {x y : List Char}
    (h : stringChars s ++ x = stringChars t ++ y) : s = t ∧ x = y := by
  have hbody : s.toList.flatMap escapeChar ++ '"' :: x = t.toList.flatMap escapeChar ++ '"' :: y := by
    simpa [stringChars] using h
  have hread := congrArg (stringBody? []) hbody
  rw [stringBody?_flatMap, stringBody?_flatMap] at hread
  simpa [String.toList_inj] using hread

def IsText (e : String × Json) : Prop := ∃ s, e.2 = .string s

end ChangeDesk.Json
