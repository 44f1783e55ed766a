/-!
Texts as lists of characters: their white space, their lines and pieces, the paths of files, the digits of
numbers, and the bytes of a text. White space is the Unicode property `White_Space`; trimming removes it at
both ends, and a text is blank when nothing else is left.
-/

namespace ChangeDesk.Text

/-- White space: the tab to carriage return group, the space, and the 19 other code points of the class. -/
def isSpace (c : Char) : Bool :=
  let n := c.toNat
  (9 ≤ n && n ≤ 13) || n == 0x20 || n == 0x85 || n == 0xA0 || n == 0x1680 ||
    (0x2000 ≤ n && n ≤ 0x200A) || n == 0x2028 || n == 0x2029 || n == 0x202F || n == 0x205F ||
    n == 0x3000

/-- A list of characters without its longest end on which `drop` holds. -/
def dropEndWhile (drop : Char → Bool) (cs : List Char) : List Char :=
  (cs.reverse.dropWhile drop).reverse

def trim (s : String) : String :=
  String.ofList (dropEndWhile isSpace (s.toList.dropWhile isSpace))

def trimEnd (drop : Char → Bool) (s : String) : String :=
  String.ofList (dropEndWhile drop s.toList)

def isBlank (s : String) : Bool := s.toList.all isSpace

/-- Text made at least `width` characters long by spaces at its end. -/
def padEnd (width : Nat) (s : String) : String :=
  s ++ String.ofList (List.replicate (width - s.length) ' ')

theorem isBlank_empty : isBlank "" = true := by simp [isBlank]

/-!
## Lines

The lines of a text to be shown: cut at line feeds, without the carriage return that may stand before one. A
line feed at the end does not begin another line.
-/

/-- The lines of characters. `acc` holds the start of the current line, last character first. -/
def linesFrom (acc : List Char) : List Char → List (List Char)
  | [] => if acc.isEmpty then [] else [acc.reverse]
  | c :: rest =>
    if c = '\n' then
      (match acc with
        | '\r' :: acc => acc.reverse
        | _ => acc.reverse) :: linesFrom [] rest
    else linesFrom (c :: acc) rest

def lines (s : String) : List String := (linesFrom [] s.toList).map String.ofList

/-!
## Pieces

Cutting a list at every occurrence of a separator, and joining the pieces again. Joining the pieces of a cut
gives the list back.
-/

section Split

variable {α : Type} [DecidableEq α]

/-- The pieces between the occurrences of a separator; there is one more piece than occurrences. -/
def splitAll (sep : α) : List α → List (List α)
  | [] => [[]]
  | c :: rest =>
    if c = sep then [] :: splitAll sep rest
    else match splitAll sep rest with
      | [] => [[c]]
      | p :: ps => (c :: p) :: ps

def joinAll (sep : α) : List (List α) → List α
  | [] => []
  | [p] => p
  | p :: q :: ps => p ++ sep :: joinAll sep (q :: ps)

theorem splitAll_ne_nil (sep : α) (l : List α) : splitAll sep l ≠ [] := by
  cases l with
  | nil => simp [splitAll]
  | cons c rest =>
    unfold splitAll
    split
    · simp
    · split <;> simp

theorem joinAll_splitAll (sep : α) (l : List α) : joinAll sep (splitAll sep l) = l := by
  induction l with
  | nil => rfl
  | cons c rest ih =>
    unfold splitAll
    split
    · next h =>
      cases hs : splitAll sep rest with
      | nil => exact absurd hs (splitAll_ne_nil sep rest)
      | cons p ps => rw [hs] at ih; simp [joinAll, ih, h]
    · split
      · next hs => exact absurd hs (splitAll_ne_nil sep rest)
      · next p ps hs =>
        rw [hs] at ih
        cases ps with
        | nil => simpa [joinAll] using ih
        | cons q qs => simpa [joinAll] using ih

/-- Cuts a list at the first occurrence of a separator, which is dropped; none without an occurrence. -/
def splitFirst? (sep : α) (l : List α) : Option (List α × List α) :=
  match l.span (· ≠ sep) with
  | (_, []) => none
  | (before, _ :: after) => some (before, after)

end Split

/-!
## Replacing

Replacing a piece of text wherever it occurs, from left to right and without overlaps. What is put in is not
searched again.
-/

/-- Every occurrence of `piece` replaced by `other`. An empty piece occurs nowhere. -/
def replaceChars (piece other : List Char) : List Char → List Char
  | [] => []
  | c :: rest =>
    if piece ≠ [] ∧ piece.isPrefixOf (c :: rest) then
      other ++ replaceChars piece other (rest.drop (piece.length - 1))
    else c :: replaceChars piece other rest
  termination_by s => s.length

def replaceAll (piece other s : String) : String :=
  String.ofList (replaceChars piece.toList other.toList s.toList)

/-!
## Paths

Paths of files, with slashes between their components. Empty components and those of one dot say nothing,
except for a slash or a dot at the very start.
-/

namespace Path

/-- The start of a path that its components follow: a slash, a single dot, or nothing. -/
def anchor : List Char → List Char
  | '/' :: _ => ['/']
  | ['.'] => ['.']
  | '.' :: '/' :: _ => ['.']
  | _ => []

def isVoid (component : List Char) : Bool := component == [] || component == ['.']

/-- The components behind the start, without those at the end that say nothing. -/
def components (path : List Char) : List (List Char) :=
  ((splitAll '/' (path.drop (anchor path).length)).reverse.dropWhile isVoid).reverse

def isAbsolute (path : String) : Bool := path.toList.head? == some '/'

/-- One path behind another, with a slash between them unless the first is empty or ends in one. -/
def join (path child : String) : String :=
  if path.isEmpty || path.toList.getLast? == some '/' then path ++ child else path ++ "/" ++ child

/-- The components without the last one and the void ones before it, if the last one is a name. -/
def parents? (path : List Char) : Option (List (List Char)) :=
  match (components path).reverse with
  | [] => none
  | last :: rest => if last = ['.', '.'] then none else some (rest.dropWhile isVoid).reverse

/-- The path in which the last component is another name. A path that ends in no name gets one more
component. -/
def withFileName (path name : String) : String :=
  match parents? path.toList with
  | some parents => join (String.ofList (anchor path.toList ++ joinAll '/' parents)) name
  | none => join path name

/-- The path of the directory that holds what a path names; none for the root and for the empty path. -/
def parent? (path : String) : Option String :=
  match (components path.toList).reverse with
  | [] => if path.toList = ['.'] then some "" else none
  | _ :: rest =>
    some (String.ofList (anchor path.toList ++ joinAll '/' (rest.dropWhile isVoid).reverse))

end Path

end ChangeDesk.Text

/-!
## Digits

The decimal text of a natural number, and the values of decimal and hexadecimal digits.
-/

namespace ChangeDesk

def digitChar (n : Nat) : Char := Char.ofNat (48 + n)

def hexDigit (n : Nat) : Char := if n < 10 then Char.ofNat (48 + n) else Char.ofNat (87 + n)

def upperHexDigit (n : Nat) : Char := if n < 10 then Char.ofNat (48 + n) else Char.ofNat (55 + n)

/-- The decimal digits of a natural number, `fuel` many at most. -/
def decimalDigitsAux : Nat → Nat → List Char → List Char
  | 0, _, acc => acc
  | fuel + 1, n, acc =>
    if n < 10 then digitChar n :: acc
    else decimalDigitsAux fuel (n / 10) (digitChar (n % 10) :: acc)

def decimalDigits (n : Nat) : List Char := decimalDigitsAux (n + 1) n []

def integerChars : Int → List Char
  | .ofNat n => decimalDigits n
  | .negSucc n => '-' :: decimalDigits (n + 1)

def digitValue? (c : Char) : Option Nat :=
  if '0' ≤ c ∧ c ≤ '9' then some (c.toNat - 48) else none

/-- The value of a hexadecimal digit of either case. -/
def hexValue? (c : Char) : Option Nat :=
  if '0' ≤ c ∧ c ≤ '9' then some (c.toNat - 48)
  else if 'a' ≤ c ∧ c ≤ 'f' then some (c.toNat - 87)
  else if 'A' ≤ c ∧ c ≤ 'F' then some (c.toNat - 55)
  else none

/-- The number written with digits in a base, whose digits `value?` knows; none if another character stands
among them. -/
def numberIn? (base : Nat) (value? : Char → Option Nat) (digits : List Char) : Option Nat :=
  digits.foldlM (fun n c => (value? c).map (fun d => n * base + d)) 0

theorem hexValue?_hexDigit {n : Nat} (h : n < 16) : hexValue? (hexDigit n) = some n := by
  have all : ∀ m ∈ List.range 16, hexValue? (hexDigit m) = some m := by decide
  exact all n (List.mem_range.2 h)

theorem hexValue?_upperHexDigit {n : Nat} (h : n < 16) : hexValue? (upperHexDigit n) = some n := by
  have all : ∀ m ∈ List.range 16, hexValue? (upperHexDigit m) = some m := by decide
  exact all n (List.mem_range.2 h)

end ChangeDesk

/-!
## Bytes

Text as bytes in UTF-8. Reading never fails: bytes that begin no character, or break one off, stand for one
replacement character for each longest start of a character among them.
-/

namespace ChangeDesk.Text.Utf8

def encode (s : String) : List UInt8 := s.toList.flatMap String.utf8EncodeChar

/-- What the first byte of a character says: how many bytes follow, the bits it gives itself, and the range
of the second byte. -/
structure Lead where
  more : Nat
  bits : Nat
  low : Nat
  high : Nat

/-- Reads the first byte of a character. The ranges leave out overlong forms, surrogates and numbers above
the last code point. -/
def lead? (byte : Nat) : Option Lead :=
  if byte < 0x80 then some ⟨0, byte, 0x80, 0xBF⟩
  else if byte < 0xC2 then none
  else if byte < 0xE0 then some ⟨1, byte - 0xC0, 0x80, 0xBF⟩
  else if byte < 0xF0 then
    some ⟨2, byte - 0xE0, if byte = 0xE0 then 0xA0 else 0x80, if byte = 0xED then 0x9F else 0xBF⟩
  else if byte < 0xF5 then
    some ⟨3, byte - 0xF0, if byte = 0xF0 then 0x90 else 0x80, if byte = 0xF4 then 0x8F else 0xBF⟩
  else none

/-- Reads `more` further bytes onto the number `bits`, the first of them within a range. Stops in front of
the first byte that does not fit. -/
def continued : (more bits low high : Nat) → List UInt8 → Option Nat × List UInt8
  | 0, bits, _, _, rest => (some bits, rest)
  | _ + 1, _, _, _, [] => (none, [])
  | more + 1, bits, low, high, byte :: rest =>
    if low ≤ byte.toNat ∧ byte.toNat ≤ high then
      continued more (bits * 64 + (byte.toNat - 0x80)) 0x80 0xBF rest
    else (none, byte :: rest)

theorem length_continued (more bits low high : Nat) (bytes : List UInt8) :
    (continued more bits low high bytes).2.length ≤ bytes.length := by
  induction more generalizing bits low high bytes with
  | zero => simp [continued]
  | succ more ih =>
    cases bytes with
    | nil => simp [continued]
    | cons byte rest =>
      unfold continued
      split
      · exact Nat.le_succ_of_le (ih _ _ _ rest)
      · simp

def replacement : Char := '\uFFFD'

def decodeChars : List UInt8 → List Char
  | [] => []
  | byte :: rest =>
    match lead? byte.toNat with
    | none => replacement :: decodeChars rest
    | some lead =>
      let read := continued lead.more lead.bits lead.low lead.high rest
      (read.1.map Char.ofNat).getD replacement :: decodeChars read.2
  termination_by bytes => bytes.length
  decreasing_by
    · simp
    · have := length_continued lead.more lead.bits lead.low lead.high rest
      simp only [List.length_cons]
      omega

def decode (bytes : List UInt8) : String := String.ofList (decodeChars bytes)

end ChangeDesk.Text.Utf8
