import ChangeDesk.Text.Basic
import ChangeDesk.Toml.Table

/-!
The bare words among TOML values: booleans, integers in four bases, reals, dates and times.
-/
namespace ChangeDesk.Toml

def isWordChar (c : Char) : Bool := c.isAlphanum || c == '_' || c == '+' || c == '-' || c == '.' || c == ':'

/-- Digits without the underscores that may stand between two of them. -/
def joinDigits? (isDigit : Char → Bool) (cs : List Char) : Option (List Char) :=
  let pieces := Text.splitAll '_' cs
  if pieces.all (fun p => p ≠ [] && p.all isDigit) then some pieces.flatten else none

/-- Decimal digits that do not begin with a needless zero. -/
def decimal? (cs : List Char) : Option Nat := do
  let digits ← joinDigits? Char.isDigit cs
  if digits.head? = some '0' ∧ digits.length ≠ 1 then none else numberIn? 10 digitValue? digits

def based? (base : Nat) (cs : List Char) : Option Nat := do
  let value? (c : Char) : Option Nat := (hexValue? c).filter (· < base)
  let digits ← joinDigits? (fun c => (value? c).isSome) cs
  numberIn? base value? digits

/-- A sign, and whether it is a minus. -/
def sign : List Char → Bool × List Char
  | '-' :: rest => (true, rest)
  | '+' :: rest => (false, rest)
  | cs => (false, cs)

def anyInteger? : List Char → Option Int
  | '0' :: 'x' :: digits => (based? 16 digits).map Int.ofNat
  | '0' :: 'o' :: digits => (based? 8 digits).map Int.ofNat
  | '0' :: 'b' :: digits => (based? 2 digits).map Int.ofNat
  | cs =>
    let (minus, digits) := sign cs
    (decimal? digits).map fun n => if minus then -Int.ofNat n else Int.ofNat n

/-- The integers that can be written. -/
def inRange (n : Int) : Bool := -9223372036854775808 ≤ n && n < 9223372036854775808

def integer? (word : List Char) : Option Int := (anyInteger? word).filter inRange

/-- Whether digits, perhaps with leading zeros, are an exponent. -/
def isExponent (cs : List Char) : Bool := (joinDigits? Char.isDigit (sign cs).2).isSome

def isReal (word : List Char) : Bool :=
  let magnitude := (sign word).2
  if magnitude = ['i', 'n', 'f'] ∨ magnitude = ['n', 'a', 'n'] then true
  else
    let (mantissa, exponent) := magnitude.span (fun c => c ≠ 'e' ∧ c ≠ 'E')
    let (whole, fraction) := mantissa.span (· ≠ '.')
    (decimal? whole).isSome &&
      (fraction.isEmpty || (joinDigits? Char.isDigit (fraction.drop 1)).isSome) &&
      (exponent.isEmpty || isExponent (exponent.drop 1)) &&
      !(fraction.isEmpty && exponent.isEmpty)

/-- A number of so many decimal digits. -/
def fixed? (length : Nat) (digits : List Char) : Option Nat :=
  if digits.length = length then numberIn? 10 digitValue? digits else none

def monthDays (year month : Nat) : Nat :=
  if month = 2 then
    if (year % 4 = 0 ∧ year % 100 ≠ 0) ∨ year % 400 = 0 then 29 else 28
  else if month = 4 ∨ month = 6 ∨ month = 9 ∨ month = 11 then 30
  else 31

def isDate (word : List Char) : Bool :=
  match (Text.splitAll '-' word) with
  | [y, m, d] =>
    match fixed? 4 y, fixed? 2 m, fixed? 2 d with
    | some y, some m, some d => 1 ≤ m && m ≤ 12 && 1 ≤ d && d ≤ monthDays y m
    | _, _, _ => false
  | _ => false

/-- Whether a word is an hour and a minute. -/
def isOffsetTime (word : List Char) : Bool :=
  match (Text.splitAll ':' word) with
  | [h, m] =>
    match fixed? 2 h, fixed? 2 m with
    | some h, some m => h < 24 && m < 60
    | _, _ => false
  | _ => false

/-- Whether a word is a time of a day, perhaps with a fraction of a second. -/
def isTime (word : List Char) : Bool :=
  let (clock, fraction) := word.span (· ≠ '.')
  match (Text.splitAll ':' clock) with
  | [h, m, s] =>
    match fixed? 2 h, fixed? 2 m, fixed? 2 s with
    | some h, some m, some s => h < 24 && m < 60 && s ≤ 60 &&
      (fraction.isEmpty || (fraction.length ≠ 1 && (fraction.drop 1).all Char.isDigit))
    | _, _, _ => false
  | _ => false

def isOffsetDayTime (word : List Char) : Bool :=
  if word.getLast? = some 'Z' ∨ word.getLast? = some 'z' then isTime word.dropLast
  else
    let (time, offset) := word.span (fun c => c ≠ '+' ∧ c ≠ '-')
    isTime time && (offset.isEmpty || isOffsetTime (offset.drop 1))

/-- Whether a word is a date, a time, or both with a mark between them. -/
def isMoment (word : List Char) : Bool :=
  isDate word || isTime word ||
    (isDate (word.take 10) && (["T", "t", " "].contains (String.ofList ((word.drop 10).take 1))) &&
      isOffsetDayTime (word.drop 11))

def scalarValue? (word : List Char) : Option Toml :=
  if word = ['t', 'r', 'u', 'e'] then some (.flag true)
  else if word = ['f', 'a', 'l', 's', 'e'] then some (.flag false)
  else match integer? word with
    | some n => some (.integer n)
    | none =>
      if (anyInteger? word).isSome then none
      else if isReal word then some (.real (String.ofList word))
      else if isMoment word then some (.moment (String.ofList word))
      else none

/-- The bare word at the start of a text, and what stands behind it. A single space may stand between a date
and a time. -/
def word (cs : List Char) : List Char × List Char :=
  let (first, rest) := cs.span isWordChar
  match rest with
  | ' ' :: c :: more =>
    if isDate first ∧ c.isDigit then
      let (second, rest) := (c :: more).span isWordChar
      (first ++ ' ' :: second, rest)
    else (first, rest)
  | _ => (first, rest)

end ChangeDesk.Toml
