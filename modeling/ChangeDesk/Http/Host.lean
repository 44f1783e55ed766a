import ChangeDesk.Http.Form
import ChangeDesk.Text.Basic

/-!
The hosts of addresses, and the ASCII form of their labels. Names of other scripts are written with letters,
digits and hyphens: the plain characters first, then for each other character, in increasing order, how far to
go on in a count of all code points and places. The distances are digits of base 36 whose thresholds adapt to
the distances before.
-/

namespace ChangeDesk.Http.Punycode

/-- The digit of a number below 36: letters, then decimal digits. -/
def digit (n : Nat) : Char := if n < 26 then Char.ofNat (97 + n) else Char.ofNat (22 + n)

def threshold (k bias : Nat) : Nat := max 1 (min 26 (k - bias))

theorem threshold_le (k bias : Nat) : 1 ≤ threshold k bias ∧ threshold k bias ≤ 26 := by
  unfold threshold; omega

/-- The digits of a distance from place `k` on. -/
def distance (bias k q : Nat) : List Char :=
  let t := threshold k bias
  if q < t then [digit q]
  else digit (t + (q - t) % (36 - t)) :: distance bias (k + 36) ((q - t) / (36 - t))
  termination_by q
  decreasing_by
    have := threshold_le k bias
    have := Nat.div_le_self (q - threshold k bias) (36 - threshold k bias)
    omega

/-- How often a distance can be divided by 35 before it is small, counted in steps of 36, and what is left. -/
def shrink (delta k : Nat) : Nat × Nat :=
  if 455 < delta then shrink (delta / 35) (k + 36) else (delta, k)
  termination_by delta
  decreasing_by exact Nat.div_lt_self (by omega) (by omega)

/-- The bias after a distance; `count` characters are written then. -/
def adapt (delta count : Nat) (first : Bool) : Nat :=
  let d := if first then delta / 700 else delta / 2
  let (d, k) := shrink (d + d / count) 0
  k + 36 * d / (d + 38)

structure Progress where
  out : List Char
  delta : Nat
  bias : Nat
  written : Nat

/-- Passes one character of the name while the code point `m` is written; `plain` counts the characters that
need no distance. -/
def pass (plain m : Nat) (p : Progress) (c : Char) : Progress :=
  if c.toNat < m then { p with delta := p.delta + 1 }
  else if c.toNat = m then
    { out := p.out ++ distance p.bias 36 p.delta
      delta := 0
      bias := adapt p.delta (p.written + 1) (p.written == plain)
      written := p.written + 1 }
  else p

/-- Writes the code points `ms`, which increase, of a name. `n` is the first code point not yet passed. -/
def points (name : List Char) (plain : Nat) : List Nat → Nat → Progress → Progress
  | [], _, p => p
  | m :: ms, n, p =>
    let p := { p with delta := p.delta + (m - n) * (p.written + 1) }
    let p := name.foldl (pass plain m) p
    points name plain ms (m + 1) { p with delta := p.delta + 1 }

def encode (name : List Char) : List Char :=
  let plain := name.filter (fun c => c.toNat < 128)
  let others := ((name.map Char.toNat).filter (128 ≤ ·)).eraseDups.mergeSort
  let start := if plain.isEmpty then [] else plain ++ ['-']
  (points name plain.length others 128 ⟨start, 0, 72, plain.length⟩).out

end ChangeDesk.Http.Punycode

/-!
## Hosts

The hosts of addresses: names, and numbers of two lengths. A name whose last part is a number is an address of
four bytes, in one of its many written forms. Names of other scripts are kept in their plain form; of letter
case only that of the common alphabets is folded.
-/

namespace ChangeDesk.Http

/-- A host. The empty name is no host at all. -/
inductive Host where
  | name (text : List Char)
  | ipv4 (number : Nat)
  /-- Eight groups of 16 bits. -/
  | ipv6 (groups : List Nat)
deriving DecidableEq, Repr

namespace Host

/-- A part of a numeric host: hexadecimal behind `0x`, octal behind `0`, else decimal. -/
def part? : List Char → Option Nat
  | [] => none
  | '0' :: 'x' :: digits => numberIn? 16 hexValue? digits
  | '0' :: 'X' :: digits => numberIn? 16 hexValue? digits
  | '0' :: c :: digits => numberIn? 8 (fun c => (digitValue? c).filter (· < 8)) (c :: digits)
  | digits => numberIn? 10 digitValue? digits

/-- The parts between dots; a dot at the end does not count. -/
def parts (text : List Char) : List (List Char) :=
  match (Text.splitAll '.' text).reverse with
  | [] :: rest@(_ :: _) => rest.reverse
  | all => all.reverse

def endsInNumber (text : List Char) : Bool :=
  match (parts text).getLast? with
  | some last => (last ≠ [] && last.all Char.isDigit) || (part? last).isSome
  | none => false

/-- An address of four bytes: up to four parts of one byte each, of which the last stands for all bytes
that are left. -/
def ipv4? (text : List Char) : Option Nat := do
  let numbers ← (parts text).mapM part?
  let last ← numbers.getLast?
  let front := numbers.dropLast
  if front.length < 4 ∧ front.all (· < 256) ∧ last < Nat.pow 256 (4 - front.length) then
    some (front.foldl (fun n byte => n * 256 + byte) 0 * Nat.pow 256 (4 - front.length) + last)
  else none

/-- A byte in decimal digits without leading zeros. -/
def byte? (digits : List Char) : Option Nat :=
  match digits with
  | [] => none
  | '0' :: _ :: _ => none
  | _ => (numberIn? 10 digitValue? digits).filter (· < 256)

/-- The groups of one side of a long address. The last may be written as four bytes. -/
def groups? : List (List Char) → Option (List Nat)
  | [] => some []
  | [last] =>
    if last.contains '.' then
      match (Text.splitAll '.' last).mapM byte? with
      | some [a, b, c, d] => some [a * 256 + b, c * 256 + d]
      | _ => none
    else (group? last).map ([·])
  | first :: rest => do
    let n ← group? first
    let ns ← groups? rest
    return n :: ns
where
  group? (digits : List Char) : Option Nat :=
    if 0 < digits.length ∧ digits.length ≤ 4 then numberIn? 16 hexValue? digits else none

/-- The texts before and behind the first two colons in a row. -/
def splitGap? : List Char → Option (List Char × List Char)
  | ':' :: ':' :: rest => some ([], rest)
  | c :: rest => (splitGap? rest).map fun (before, after) => (c :: before, after)
  | [] => none

def side? (text : List Char) : Option (List Nat) :=
  if text.isEmpty then some [] else groups? (Text.splitAll ':' text)

/-- A long address: eight groups, or fewer around a gap of zeros. -/
def ipv6? (text : List Char) : Option (List Nat) :=
  match splitGap? text with
  | none => (side? text).filter (·.length = 8)
  | some (before, after) => do
    -- four bytes stand at the very end only
    let front ← if before.contains '.' then none else side? before
    let back ← side? after
    if front.length + back.length < 8 then
      some (front ++ List.replicate (8 - front.length - back.length) 0 ++ back)
    else none

/-- The longest run of zeros in a list, at least two long: its place and its length. The first wins. -/
def gap (groups : List Nat) : Nat × Nat :=
  (List.range groups.length).foldl (fun best i =>
    let run := ((groups.drop i).takeWhile (· = 0)).length
    if 2 ≤ run ∧ best.2 < run then (i, run) else best) (0, 0)

def groupsText (groups : List Nat) : List Char := Text.joinAll ':' (groups.map (Nat.toDigits 16))

def chars : Host → List Char
  | .name text => text
  | .ipv4 n =>
    Text.joinAll '.' ([n / 16777216, n / 65536 % 256, n / 256 % 256, n % 256].map decimalDigits)
  | .ipv6 groups =>
    let (start, length) := gap groups
    if length = 0 then '[' :: groupsText groups ++ [']']
    else '[' :: groupsText (groups.take start) ++ [':', ':'] ++
      groupsText (groups.drop (start + length)) ++ [']']

def forbidden (c : Char) : Bool :=
  c ≤ ' ' || c == '\x7f' || "%#/:<>?@[\\]^|".contains c ||
    (128 ≤ c.toNat && (Text.isSpace c || c == Text.Utf8.replacement))

/-- A character of a name in lower case; the full stops of other scripts are dots. -/
def fold (c : Char) : Char :=
  let n := c.toNat
  if n < 128 then c.toLower
  else if n = 0x3002 ∨ n = 0xFF0E ∨ n = 0xFF61 then '.'
  -- the capitals of Latin, Greek and Cyrillic, each 32 before its small letter
  else if (0xC0 ≤ n ∧ n ≤ 0xDE ∧ n ≠ 0xD7) ∨ (0x391 ≤ n ∧ n ≤ 0x3A9) ∨ (0x410 ≤ n ∧ n ≤ 0x42F) then
    Char.ofNat (n + 32)
  else if 0x400 ≤ n ∧ n ≤ 0x40F then Char.ofNat (n + 80)
  else c

def plainLabel (label : List Char) : List Char :=
  if label.all (·.toNat < 128) then label else "xn--".toList ++ Punycode.encode label

/-- A name, or a numeric address written as one. Percent codes are taken back first. -/
def ofName? (text : List Char) : Option Host :=
  let decoded := Text.Utf8.decodeChars (Percent.decode (Text.Utf8.encode (String.ofList text)))
  let folded := decoded.map fold
  if folded.any forbidden then none
  else
    let plain := Text.joinAll '.' ((Text.splitAll '.' folded).map plainLabel)
    if plain.isEmpty then none
    else if endsInNumber plain then (ipv4? plain).map .ipv4
    else some (.name plain)

def bracketed? (text : List Char) : Option Host :=
  if text.getLast? = some ']' then (ipv6? text.dropLast).map .ipv6 else none

/-- The host of an address of a well-known scheme. -/
def known? : List Char → Option Host
  | '[' :: rest => bracketed? rest
  | text => ofName? text

/-- The host of an address of any other scheme, whose names are kept as they are written. -/
def opaque? : List Char → Option Host
  | '[' :: rest => bracketed? rest
  | text =>
    if text.any (fun c => c == '\x00' || " #/:<>?@[\\]^|".contains c) then none
    else some (.name (Percent.encode (fun c => !Percent.alwaysCoded c) text))

end Host

end ChangeDesk.Http
