import ChangeDesk.Text.Basic

/-!
Percent encoding, and the pairs of a query that are written with it. A percent code stands for a byte: a
percent sign and two hexadecimal digits. Decoding takes back what encoding a byte gives, and lets everything
else pass.
-/

namespace ChangeDesk.Http.Percent

/-- The code of a byte, with upper-case digits. -/
def code (byte : UInt8) : List Char :=
  ['%', upperHexDigit (byte.toNat / 16), upperHexDigit (byte.toNat % 16)]

def charCode (c : Char) : List Char := (String.utf8EncodeChar c).flatMap code

/-- Text in which every character that `keep` refuses is written as codes. -/
def encode (keep : Char → Bool) (cs : List Char) : List Char :=
  cs.flatMap fun c => if keep c then [c] else charCode c

def digit? (byte : UInt8) : Option Nat := hexValue? (Char.ofNat byte.toNat)

def byte? (high low : UInt8) : Option UInt8 := do
  let h ← digit? high
  let l ← digit? low
  return UInt8.ofNat (h * 16 + l)

/-- Bytes with their codes taken back. A percent sign without two digits behind it stays. -/
def decode : List UInt8 → List UInt8
  | [] => []
  | 0x25 :: high :: low :: rest =>
    match byte? high low with
    | some byte => byte :: decode rest
    | none => 0x25 :: decode (high :: low :: rest)
  | byte :: rest => byte :: decode rest
  termination_by bytes => bytes.length

/-- Control characters and all beyond the tilde: no part of an address holds them as they are. -/
def alwaysCoded (c : Char) : Bool := c < ' ' || '~' < c

end ChangeDesk.Http.Percent

/-!
## Pairs

Pairs of names and values as one text: an equals sign inside a pair, an ampersand between pairs, a plus sign
for a space, and percent codes for the bytes of all characters but letters, digits and four marks. `decode`
reads such a text back.
-/

namespace ChangeDesk.Http.Form

def keeps (c : Char) : Bool := c.isAlphanum || c == '*' || c == '-' || c == '.' || c == '_'

def encodeText (s : String) : List Char :=
  s.toList.flatMap fun c => if c = ' ' then ['+'] else if keeps c then [c] else Percent.charCode c

def encodePair (pair : String × String) : List Char := encodeText pair.1 ++ '=' :: encodeText pair.2

def encode (pairs : List (String × String)) : String :=
  String.ofList (Text.joinAll '&' (pairs.map encodePair))

def decodeText (cs : List Char) : String :=
  Text.Utf8.decode (Percent.decode (Text.Utf8.encode
    (String.ofList (cs.map fun c => if c = '+' then ' ' else c))))

/-- The name and the value of a piece; without an equals sign the value is empty. -/
def decodePair (piece : List Char) : String × String :=
  match Text.splitFirst? '=' piece with
  | some (name, value) => (decodeText name, decodeText value)
  | none => (decodeText piece, "")

/-- The pairs of a text. Empty pieces between ampersands are no pairs. -/
def decode (s : String) : List (String × String) :=
  ((Text.splitAll '&' s.toList).filter (· ≠ [])).map decodePair

end ChangeDesk.Http.Form
