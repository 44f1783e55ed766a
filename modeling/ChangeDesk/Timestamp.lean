import ChangeDesk.Json.Basic
import ChangeDesk.Text.Basic

/-!
Points in time and their written form. A time is written in UTC with the fewest of no, three, six or nine
fraction digits; a year that is not of four digits carries its sign. Reading is more generous: blanks
may stand between the parts, the offset may be any number of hours and minutes, and a time at second 60
is a leap second, which counts as second 59 with a nanosecond part of a second or more.
-/
namespace ChangeDesk

/-- Seconds since the start of 1970 in UTC and nanoseconds of that second. -/
structure Timestamp where
  seconds : Int
  nanos : Nat
deriving DecidableEq, Repr

namespace Timestamp

def daySeconds : Int := 86400

structure Date where
  year : Int
  month : Nat
  day : Nat
deriving DecidableEq, Repr

def isLeapYear (y : Int) : Bool := y % 4 == 0 && (y % 100 != 0 || y % 400 == 0)

def monthDays (y : Int) (m : Nat) : Nat :=
  if m = 2 then (if isLeapYear y then 29 else 28)
  else if m = 4 ∨ m = 6 ∨ m = 9 ∨ m = 11 then 30 else 31

/-- Days from the start of 1970 to a date. -/
def Date.toDays (d : Date) : Int :=
  -- years are counted from March, so that the leap day comes last
  let y := if d.month ≤ 2 then d.year - 1 else d.year
  let era := y / 400
  let yearOfEra := y % 400
  let monthFromMarch : Int := ((d.month : Int) + 9) % 12
  let dayOfYear := (153 * monthFromMarch + 2) / 5 + d.day - 1
  let dayOfEra := yearOfEra * 365 + yearOfEra / 4 - yearOfEra / 100 + dayOfYear
  era * 146097 + dayOfEra - 719468

def Date.ofDays (n : Int) : Date :=
  let z := n + 719468
  let era := z / 146097
  let dayOfEra := z % 146097
  let yearOfEra :=
    (dayOfEra - dayOfEra / 1460 + dayOfEra / 36524 - dayOfEra / 146096) / 365
  let dayOfYear := dayOfEra - (365 * yearOfEra + yearOfEra / 4 - yearOfEra / 100)
  let monthFromMarch := (5 * dayOfYear + 2) / 153
  let day := dayOfYear - (153 * monthFromMarch + 2) / 5 + 1
  let month := if monthFromMarch < 10 then monthFromMarch + 3 else monthFromMarch - 9
  let year := yearOfEra + era * 400 + (if month ≤ 2 then 1 else 0)
  ⟨year, month.toNat, day.toNat⟩

def padded (width n : Nat) : List Char :=
  let ds := decimalDigits n
  List.replicate (width - ds.length) '0' ++ ds

/-- A year: four digits from 0 to 9999, else at least four with a sign. -/
def yearChars (y : Int) : List Char :=
  if 0 ≤ y ∧ y ≤ 9999 then padded 4 y.toNat
  else (if y < 0 then '-' else '+') :: padded 4 y.natAbs

/-- A fraction of a second with the fewest of no, three, six or nine digits. -/
def fractionChars (nanos : Nat) : List Char :=
  if nanos = 0 then []
  else if nanos % 1000000 = 0 then '.' :: padded 3 (nanos / 1000000)
  else if nanos % 1000 = 0 then '.' :: padded 6 (nanos / 1000)
  else '.' :: padded 9 nanos

/-- Hours, minutes and seconds of the day; a leap second is second 60. -/
def clockChars (t : Timestamp) : List Char :=
  let s := (t.seconds % daySeconds).toNat
  let second := s % 60 + (if 1000000000 ≤ t.nanos then 1 else 0)
  padded 2 (s / 3600) ++ ':' :: (padded 2 (s / 60 % 60) ++ ':' :: padded 2 second)

def dateChars (t : Timestamp) : List Char :=
  let d := Date.ofDays (t.seconds / daySeconds)
  yearChars d.year ++ '-' :: (padded 2 d.month ++ '-' :: padded 2 d.day)

def write (t : Timestamp) : String :=
  String.ofList (t.dateChars ++ 'T' :: (t.clockChars ++ (fractionChars (t.nanos % 1000000000) ++ ['Z'])))

def isDigit (c : Char) : Bool := '0' ≤ c && c ≤ '9'

def digitsValue (ds : List Char) : Nat := ds.foldl (fun n c => n * 10 + (c.toNat - 48)) 0

def skipSpace (cs : List Char) : List Char := cs.dropWhile Text.isSpace

/-- At least one digit and at most `most`, and the rest. -/
def number? (most : Nat) (cs : List Char) : Option (Nat × List Char) :=
  let ds := (cs.take most).takeWhile isDigit
  if ds.isEmpty then none else some (digitsValue ds, cs.drop ds.length)

def longNumber? (cs : List Char) : Option (Nat × List Char) := number? cs.length cs

/-- Four digits at most, or a sign and any number of digits. -/
def year? (cs : List Char) : Option (Int × List Char) :=
  match skipSpace cs with
  | '-' :: rest => (longNumber? rest).map fun (n, rest) => (-(n : Int), rest)
  | '+' :: rest => (longNumber? rest).map fun (n, rest) => ((n : Int), rest)
  | rest => (number? 4 rest).map fun (n, rest) => ((n : Int), rest)

/-- Two digits at most whose value lies in a range, blanks before them allowed. -/
def twoDigits? (low high : Nat) (cs : List Char) : Option (Nat × List Char) := do
  let (n, rest) ← number? 2 (skipSpace cs)
  if low ≤ n ∧ n ≤ high then some (n, rest) else none

def separator? (c : Char) (cs : List Char) : Option (List Char) :=
  match skipSpace cs with
  | d :: rest => if d = c then some rest else none
  | [] => none

/-- A fraction of a second; digits behind the ninth are dropped. -/
def fraction? (cs : List Char) : Option (Nat × List Char) :=
  match cs with
  | '.' :: rest => do
    let (n, after) ← number? 9 rest
    let count := ((rest.take 9).takeWhile isDigit).length
    return (n * Nat.pow 10 (9 - count), after.dropWhile isDigit)
  | _ => some (0, cs)

/-- The seconds of an offset from UTC: `Z`, `UTC` in any case, or signed hours and minutes. -/
def offset? (cs : List Char) : Option (Int × List Char) :=
  let cs := skipSpace cs
  if (cs.take 3).map Char.toUpper = ['U', 'T', 'C'] then some (0, cs.drop 3)
  else match cs with
    | [] => none
    | sign :: rest =>
      if sign = 'Z' ∨ sign = 'z' then some (0, rest)
      else if sign = '+' ∨ sign = '-' ∨ sign = '\u2212' then
        match rest with
        | a :: b :: rest =>
          if isDigit a && isDigit b then
            match rest.dropWhile (fun c => c = ':' ∨ Text.isSpace c) with
            | c :: d :: rest =>
              if '0' ≤ c ∧ c ≤ '5' ∧ isDigit d then
                let seconds : Int := digitsValue [a, b] * 3600 + digitsValue [c, d] * 60
                some (if sign = '+' then seconds else -seconds, rest)
              else none
            | _ => none
          else none
        | _ => none
      else none

def yearRange : Int × Int := (-262143, 262142)

/-- The first second of the year range, and the first one behind it. -/
def secondRange : Int × Int :=
  ((Date.toDays ⟨yearRange.1, 1, 1⟩) * daySeconds, (Date.toDays ⟨yearRange.2 + 1, 1, 1⟩) * daySeconds)

def read? (s : String) : Option Timestamp := do
  let (year, cs) ← year? s.toList
  let cs ← separator? '-' cs
  let (month, cs) ← twoDigits? 1 12 cs
  let cs ← separator? '-' cs
  let (day, cs) ← twoDigits? 1 31 cs
  let cs ← match cs with
    | c :: rest => if c = 'T' ∨ c = 't' ∨ c = ' ' then some rest else none
    | [] => none
  let (hour, cs) ← twoDigits? 0 23 cs
  let cs ← separator? ':' cs
  let (minute, cs) ← twoDigits? 0 59 cs
  let cs ← separator? ':' cs
  let (second, cs) ← twoDigits? 0 60 cs
  let (nanos, cs) ← fraction? cs
  let (offset, cs) ← offset? cs
  if ¬ (skipSpace cs).isEmpty then none
  else if ¬ (yearRange.1 ≤ year ∧ year ≤ yearRange.2 ∧ day ≤ monthDays year month) then none
  else if ¬ (-daySeconds < offset ∧ offset < daySeconds) then none
  else
    let leap := second = 60
    let clock : Int := hour * 3600 + minute * 60 + (if leap then 59 else second)
    let seconds := (Date.toDays ⟨year, month, day⟩) * daySeconds + clock - offset
    if secondRange.1 ≤ seconds ∧ seconds < secondRange.2 then
      some ⟨seconds, nanos + (if leap then 1000000000 else 0)⟩
    else none

end Timestamp

end ChangeDesk
