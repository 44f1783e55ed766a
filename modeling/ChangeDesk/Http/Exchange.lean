import ChangeDesk.Http.Url
import ChangeDesk.Text.Basic

/-!
Requests and what comes of them: the bytes of a response, its head, and its body. A response is read from the
bytes that came before the connection was closed. The head is a status line and header lines up to an empty
line. How the body ends is said by the status, by chunks, by a length, or by the close of the connection, in
this order of precedence. A head that is cut off or malformed is no response at all; a body can be broken
behind a good head.
-/

namespace ChangeDesk.Http

structure Response where
  status : Nat
  body : String
deriving DecidableEq, Repr

inductive Broken where
  | head
  | body
deriving DecidableEq, Repr

/-- The status line and the headers, whose names are in lower case. -/
structure Head where
  /-- Whether the response is of the older version, which knows no chunks. -/
  old : Bool
  status : Nat
  headers : List (String × String)

namespace Head

def char (byte : UInt8) : Char := Char.ofNat byte.toNat

/-- The line up to the first line feed, without the carriage return before it, and the bytes behind it.
`acc` holds the start of the line, last character first. -/
def line? (acc : List Char) : List UInt8 → Option (List Char × List UInt8)
  | [] => none
  | 10 :: rest =>
    some ((match acc with
      | '\r' :: acc => acc.reverse
      | _ => acc.reverse), rest)
  | byte :: rest => line? (char byte :: acc) rest

theorem length_of_line? {acc line : List Char} {bytes rest : List UInt8}
    (h : line? acc bytes = some (line, rest)) : rest.length < bytes.length := by
  induction bytes generalizing acc with
  | nil => cases h
  | cons byte bytes ih =>
    unfold line? at h
    split at h
    · cases h
    · next heq =>
      cases heq
      cases h
      exact Nat.lt_succ_self _
    · next heq =>
      cases heq
      exact Nat.lt_succ_of_lt (ih h)

/-- Characters of the text in a head: no control characters but the tab. -/
def isText (c : Char) : Bool := c == '\t' || (' ' ≤ c && c ≠ '\x7f')

def isNameChar (c : Char) : Bool := c.isAlphanum || "!#$%&'*+-.^_\x60|~".contains c

/-- The version and the status of a status line. -/
def status? (line : List Char) : Option (Bool × Nat) :=
  match line with
  | 'H' :: 'T' :: 'T' :: 'P' :: '/' :: '1' :: '.' :: minor :: ' ' :: a :: b :: c :: reason =>
    if (minor = '0' ∨ minor = '1') ∧ (reason = [] ∨ reason.head? = some ' ') ∧ reason.all isText then
      ((numberIn? 10 digitValue? [a, b, c]).filter (100 ≤ ·)).map fun n => (minor == '0', n)
    else none
  | _ => none

/-- The name of a header line, in lower case, and its value without blanks around it. -/
def header? (line : List Char) : Option (String × String) :=
  match Text.splitFirst? ':' line with
  | some (name, value) =>
    if name ≠ [] ∧ name.all isNameChar ∧ value.all isText then
      let isBlank (c : Char) : Bool := c == ' ' || c == '\t'
      some (String.ofList (name.map Char.toLower),
        String.ofList (Text.dropEndWhile isBlank (value.dropWhile isBlank)))
    else none
  | none => none

/-- The most headers that a head may have. -/
def maxHeaders : Nat := 100

/-- The header lines up to an empty one, `limit` many at most, and the bytes behind it. -/
def headers? : (limit : Nat) → List UInt8 → Option (List (String × String) × List UInt8)
  | limit, bytes =>
    match line? [] bytes with
    | none => none
    | some ([], rest) => some ([], rest)
    | some (line, rest) =>
      match limit with
      | 0 => none
      | limit + 1 => do
        let header ← header? line
        let (headers, rest) ← headers? limit rest
        return (header :: headers, rest)
  termination_by limit => limit

def skipEmptyLines : List UInt8 → List UInt8
  | 13 :: 10 :: rest => skipEmptyLines rest
  | 10 :: rest => skipEmptyLines rest
  | bytes => bytes

def read? (bytes : List UInt8) : Option (Head × List UInt8) := do
  let (line, rest) ← line? [] (skipEmptyLines bytes)
  let (old, status) ← status? line
  let (headers, rest) ← headers? maxHeaders rest
  return (⟨old, status, headers⟩, rest)

theorem length_of_headers? {limit : Nat} {bytes rest : List UInt8} {headers : List (String × String)}
    (h : headers? limit bytes = some (headers, rest)) : rest.length < bytes.length := by
  induction limit generalizing bytes headers with
  | zero =>
    unfold headers? at h
    split at h
    · cases h
    · next hl =>
      cases h
      exact length_of_line? hl
    · cases h
  | succ limit ih =>
    unfold headers? at h
    split at h
    · cases h
    · next hl =>
      cases h
      exact length_of_line? hl
    · next hl =>
      obtain ⟨header, -, h⟩ := Option.bind_eq_some_iff.1 h
      obtain ⟨⟨more, last⟩, hmore, h⟩ := Option.bind_eq_some_iff.1 h
      cases h
      exact Nat.lt_trans (ih hmore) (length_of_line? hl)

theorem length_skipEmptyLines (bytes : List UInt8) : (skipEmptyLines bytes).length ≤ bytes.length := by
  fun_induction skipEmptyLines bytes with
  | case1 rest ih => exact Nat.le_succ_of_le (Nat.le_succ_of_le ih)
  | case2 rest ih => exact Nat.le_succ_of_le ih
  | case3 => exact Nat.le_refl _

theorem length_of_read? {bytes rest : List UInt8} {head : Head} (h : read? bytes = some (head, rest)) :
    rest.length < bytes.length := by
  obtain ⟨⟨line, afterLine⟩, hl, h⟩ := Option.bind_eq_some_iff.1 h
  obtain ⟨⟨old, status⟩, -, h⟩ := Option.bind_eq_some_iff.1 h
  obtain ⟨⟨headers, afterHeaders⟩, hh, h⟩ := Option.bind_eq_some_iff.1 h
  cases h
  exact Nat.lt_of_lt_of_le (Nat.lt_trans (length_of_headers? hh) (length_of_line? hl))
    (length_skipEmptyLines bytes)

/-- The head of the final response: announcements before it, of a status below 200, are passed over, except
for the one that hands the connection over. -/
def readFinal? (bytes : List UInt8) : Option (Head × List UInt8) :=
  match h : read? bytes with
  | none => none
  | some (head, rest) =>
    if head.status < 200 ∧ head.status ≠ 101 then
      have := length_of_read? h
      readFinal? rest
    else some (head, rest)
  termination_by bytes.length

def values (head : Head) (name : String) : List String :=
  (head.headers.filter (·.1 = name)).map (·.2)

end Head

/-- How the end of a body is known. -/
inductive Extent where
  | length (bytes : Nat)
  | chunked
  | untilClose
deriving DecidableEq, Repr

namespace Extent

/-- Whether a character of a header's value is one that its readers know. -/
def isPlain (c : Char) : Bool := c == '\t' || (' ' ≤ c && c ≤ '~')

def lastCoding (value : String) : String :=
  Text.trim (String.ofList (((Text.splitAll ',' value.toList).getLast?).getD []))

/-- Whether the last coding of the last header is chunks. -/
def saysChunked (values : List String) : Bool :=
  match values.getLast? with
  | some value => value.toList.all isPlain && (lastCoding value).map Char.toLower == "chunked"
  | none => false

def number? (digits : List Char) : Option Nat :=
  let digits := (Text.trim (String.ofList digits)).toList
  if digits.isEmpty then none else (numberIn? 10 digitValue? digits).filter (· < 18446744073709551614)

/-- The length on which all headers, and all lengths between commas in them, agree. -/
def length? (values : List String) : Option Nat := do
  let numbers ← values.flatMap (fun v => Text.splitAll ',' v.toList) |>.mapM number?
  let first ← numbers.head?
  if numbers.all (· = first) then some first else none

/-- How the body behind a head ends; none if the head contradicts itself. -/
def ofHead? (head : Head) : Option Extent :=
  let codings := head.values "transfer-encoding"
  let lengths := head.values "content-length"
  if head.status = 101 ∨ head.status = 204 ∨ head.status = 304 then some (.length 0)
  -- codings go before lengths, but the older version has none
  else if codings ≠ [] then
    if head.old then none else if saysChunked codings then some .chunked else some .untilClose
  else if lengths ≠ [] then (length? lengths).map .length
  else some .untilClose

end Extent

namespace Chunks

/-- The hexadecimal digits at the start of a chunk as a number, and the bytes behind them. `n` is the number
so far and `any` whether there was a digit. -/
def size? (n : Nat) (any : Bool) : List UInt8 → Option (Nat × List UInt8)
  | [] => none
  | byte :: rest =>
    match hexValue? (Head.char byte) with
    | some d => size? (n * 16 + d) true rest
    | none => if any then some (n, byte :: rest) else none

/-- The bytes behind the line that a chunk's size begins: blanks, then perhaps an extension, which holds no
line feed. -/
def restOfLine? (extended : Bool) : List UInt8 → Option (List UInt8)
  | 13 :: 10 :: rest => some rest
  | 13 :: _ => none
  | 10 :: _ => none
  | 0x3B :: rest => restOfLine? true rest
  | byte :: rest =>
    if extended ∨ byte = 32 ∨ byte = 9 then restOfLine? extended rest else none
  | [] => none

/-- Whether lines, each ended by both marks, go on to an empty one. `start` holds at the start of a line. -/
def endsLines (start : Bool) : List UInt8 → Bool
  | 13 :: 10 :: rest => start || endsLines true rest
  | 13 :: _ => false
  | _ :: rest => endsLines false rest
  | [] => false

/-- Whether what follows the last chunk is a good end: header lines and an empty line. -/
def endsWell (bytes : List UInt8) : Bool :=
  endsLines true bytes && (Head.headers? Head.maxHeaders bytes).isSome

/-- The bytes of all chunks. `fuel` bounds their number. -/
def read? : (fuel : Nat) → List UInt8 → Option (List UInt8)
  | 0, _ => none
  | fuel + 1, bytes => do
    let (n, rest) ← size? 0 false bytes
    let rest ← restOfLine? false rest
    if n = 0 then
      if endsWell rest then some [] else none
    else match rest.drop n with
      | 13 :: 10 :: next => return rest.take n ++ (← read? fuel next)
      | _ => none

end Chunks

def Extent.read? (bytes : List UInt8) : Extent → Option (List UInt8)
  | .length n => if n ≤ bytes.length then some (bytes.take n) else none
  | .chunked => Chunks.read? bytes.length bytes
  | .untilClose => some bytes

/-- Reads a response from all bytes of a connection. -/
def Response.ofBytes (bytes : List UInt8) : Except Broken Response :=
  match Head.readFinal? bytes with
  | none => .error .head
  | some (head, rest) =>
    match Extent.ofHead? head with
    | none => .error .head
    | some extent =>
      match extent.read? rest with
      | none => .error .body
      | some body => .ok ⟨head.status, Text.Utf8.decode body⟩

/-!
## Requests

One request and what comes of it. A network is anything that says so for every request.
-/

inductive Method where
  | get
  | post
deriving DecidableEq, Repr

def Method.word : Method → String
  | get => "GET"
  | post => "POST"

/-- A request. The names of its headers are in lower case. -/
structure Request where
  method : Method
  url : Url
  headers : List (String × String)
  body : String
deriving DecidableEq, Repr

inductive Reply where
  | refused
  /-- No answer comes in time. -/
  | silence
  /-- These bytes come, and then the connection is closed. -/
  | bytes (received : List UInt8)
deriving DecidableEq, Repr

abbrev Network := Request → Reply

def isHeaderValue (s : String) : Bool := s.toList.all Head.isText

/-- A response as it is sent on the wire, with a length for its body. -/
def Response.toBytes (r : Response) : List UInt8 :=
  let body := Text.Utf8.encode r.body
  Text.Utf8.encode ("HTTP/1.1 " ++ String.ofList (decimalDigits r.status) ++ " X\r\nContent-Length: " ++
    String.ofList (decimalDigits body.length) ++ "\r\n\r\n") ++ body

end ChangeDesk.Http
