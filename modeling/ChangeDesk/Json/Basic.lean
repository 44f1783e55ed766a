import ChangeDesk.Binary64
import ChangeDesk.SortedMap
import ChangeDesk.Text.Basic

/-!
JSON values and their compact text. A number is an integer of the 64-bit ranges or a finite floating point
number, and the two kinds are never equal. An object is a list of members; `Canonical` says that the keys of
every object inside a value increase strictly, which is the form that reading a text produces.
-/

namespace ChangeDesk

/-- A JSON number: an integer from `-2^63` to `2^64 - 1`, or a finite floating point number. -/
inductive Number where
  | integer (value : Int) (inRange : -9223372036854775808 ≤ value ∧ value < 18446744073709551616)
  | float (value : Binary64)
deriving DecidableEq

namespace Number

def ofInt? (n : Int) : Option Number :=
  if h : -9223372036854775808 ≤ n ∧ n < 18446744073709551616 then some (.integer n h) else none

def zero : Number := .integer 0 (by decide)

/-- Equality of values: integers and floats always differ, and the two float zeros are equal. -/
def sameValue : Number → Number → Bool
  | .integer a _, .integer b _ => a == b
  | .float a, .float b => a.sameValue b
  | _, _ => false

end Number

inductive Json where
  | null
  | bool (value : Bool)
  | number (value : Number)
  | string (value : String)
  | array (items : List Json)
  | object (members : List (String × Json))

namespace Json

instance : Inhabited Json := ⟨.null⟩

mutual

def sameValue : Json → Json → Bool
  | .null, .null => true
  | .bool a, .bool b => a == b
  | .number a, .number b => a.sameValue b
  | .string a, .string b => a == b
  | .array a, .array b => sameItems a b
  | .object a, .object b => sameMembers a b
  | _, _ => false

def sameItems : List Json → List Json → Bool
  | [], [] => true
  | a :: as, b :: bs => sameValue a b && sameItems as bs
  | _, _ => false

def sameMembers : List (String × Json) → List (String × Json) → Bool
  | [], [] => true
  | (k, a) :: as, (l, b) :: bs => k == l && sameValue a b && sameMembers as bs
  | _, _ => false

end

mutual

/-- The keys of every object inside the value increase strictly. -/
def Canonical : Json → Prop
  | .array items => CanonicalItems items
  | .object members => members.Pairwise (fun a b => a.1 < b.1) ∧ CanonicalMembers members
  | _ => True

def CanonicalItems : List Json → Prop
  | [] => True
  | v :: rest => Canonical v ∧ CanonicalItems rest

def CanonicalMembers : List (String × Json) → Prop
  | [] => True
  | (_, v) :: rest => Canonical v ∧ CanonicalMembers rest

end

mutual

/-- The number of arrays and objects around the innermost part of a value. -/
def depth : Json → Nat
  | .array items => depthItems items + 1
  | .object members => depthMembers members + 1
  | _ => 0

def depthItems : List Json → Nat
  | [] => 0
  | v :: rest => max (depth v) (depthItems rest)

def depthMembers : List (String × Json) → Nat
  | [] => 0
  | (_, v) :: rest => max (depth v) (depthMembers rest)

end

def ofMap (m : SortedMap Json) : Json := .object m.entries

/-- The object with the given members, keys sorted; of a repeated key the last member stays. -/
def ofMembers (members : List (String × Json)) : Json := ofMap (SortedMap.ofList members)

/-- An integer value; `null` when it is out of range. -/
def ofInt (n : Int) : Json :=
  match Number.ofInt? n with
  | some k => .number k
  | none => .null

def ofNat (n : Nat) : Json := ofInt n

/-- The first member of an object with this key. -/
def member? (key : String) : Json → Option Json
  | .object members => members.lookup key
  | _ => none

def text? : Json → Option String
  | .string s => some s
  | _ => none

def ofOption : Option String → Json
  | some s => .string s
  | none => .null

end Json

end ChangeDesk

/-!
## Compact text

The compact text of a JSON value: no blanks, members in their order, strings with the fewest escapes, floats
by their shortest digits. A float is written positionally from `1e-5` to below `1e16`.
-/

namespace ChangeDesk

/-- How floats are written: the least exponent of the first digit and the first exponent above those that
are written positionally. -/
structure FloatFormat where
  lowest : Int
  above : Int

/-- Positional from `1e-5` to below `1e16`. -/
def floatFormat : FloatFormat := ⟨-5, 16⟩

/-- The text of digits whose first one stands for `10 ^ exponent`. -/
def FloatFormat.write (f : FloatFormat) (digits : List Char) (exponent : Int) : List Char :=
  let count := digits.length
  if f.lowest ≤ exponent ∧ exponent < f.above then
    if exponent < 0 then
      '0' :: '.' :: (List.replicate ((-exponent).toNat - 1) '0' ++ digits)
    else
      let whole := exponent.toNat + 1
      if count ≤ whole then digits ++ List.replicate (whole - count) '0' ++ ['.', '0']
      else digits.take whole ++ '.' :: digits.drop whole
  else
    let head := digits.take 1
    let tail := digits.drop 1
    let mantissa := if tail.isEmpty then head else head ++ '.' :: tail
    let sign := if exponent < 0 then '-' else '+'
    mantissa ++ 'e' :: sign :: decimalDigits exponent.natAbs

def Binary64.chars (x : Binary64) : List Char :=
  let sign := if x.negative then ['-'] else []
  if x.isZero then sign ++ ['0', '.', '0']
  else
    let d := x.shortest
    let digits := decimalDigits d.digits
    sign ++ floatFormat.write digits (d.power + digits.length - 1)

def Number.chars : Number → List Char
  | .integer n _ => integerChars n
  | .float x => x.chars

namespace Json

/-- A character inside a string literal. Only the quote, the backslash and the controls are escaped. -/
def escapeChar (c : Char) : List Char :=
  if c = '"' then ['\\', '"']
  else if c = '\\' then ['\\', '\\']
  else if c = '\x08' then ['\\', 'b']
  else if c = '\t' then ['\\', 't']
  else if c = '\n' then ['\\', 'n']
  else if c = '\x0c' then ['\\', 'f']
  else if c = '\r' then ['\\', 'r']
  else if c.toNat < 32 then
    ['\\', 'u', '0', '0', hexDigit (c.toNat / 16), hexDigit (c.toNat % 16)]
  else [c]

def stringChars (s : String) : List Char := '"' :: (s.toList.flatMap escapeChar ++ ['"'])

mutual

def chars : Json → List Char
  | .null => ['n', 'u', 'l', 'l']
  | .bool true => ['t', 'r', 'u', 'e']
  | .bool false => ['f', 'a', 'l', 's', 'e']
  | .number n => n.chars
  | .string s => stringChars s
  | .array [] => ['[', ']']
  | .array (v :: rest) => '[' :: (chars v ++ itemsChars rest)
  | .object [] => ['\x7b', '\x7d']
  | .object ((k, v) :: rest) => '\x7b' :: (stringChars k ++ ':' :: (chars v ++ membersChars rest))

/-- The items behind the first one and the closing bracket. -/
def itemsChars : List Json → List Char
  | [] => [']']
  | v :: rest => ',' :: (chars v ++ itemsChars rest)

def membersChars : List (String × Json) → List Char
  | [] => ['\x7d']
  | (k, v) :: rest => ',' :: (stringChars k ++ ':' :: (chars v ++ membersChars rest))

end

def compact (v : Json) : String := String.ofList v.chars

end Json

end ChangeDesk
