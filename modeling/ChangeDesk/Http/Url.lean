import ChangeDesk.Http.Form
import ChangeDesk.Http.Host

/-!
Addresses of resources. Reading is lenient: blanks around the text, tabs and line breaks anywhere, a wrong
number of slashes before the host and backslashes in place of slashes are forgiven for the well-known
schemes; dots are resolved, and characters that an address cannot hold are written as codes. Credentials
before the host are left out.
-/
namespace ChangeDesk.Http

structure Url where
  scheme : String
  /-- The host; none where the scheme is followed by a bare path. -/
  host : Option Host
  /-- The port, unless it is the one that the scheme implies. -/
  port : Option Nat
  path : String
  query : Option String
  fragment : Option String
deriving DecidableEq, Repr

namespace Url

def impliedPort? : String → Option Nat
  | "http" => some 80
  | "https" => some 443
  | "ws" => some 80
  | "wss" => some 443
  | "ftp" => some 21
  | _ => none

/-- Whether a scheme is one of those whose addresses are read leniently. -/
def isKnown (scheme : String) : Bool := (impliedPort? scheme).isSome || scheme == "file"

/-- The scheme before the first colon, in lower case, and the text behind it. -/
def splitScheme? (cs : List Char) : Option (String × List Char) :=
  match Text.splitFirst? ':' cs with
  | some (c :: name, rest) =>
    if c.isAlpha ∧ name.all (fun c => c.isAlphanum || c == '+' || c == '-' || c == '.') then
      some (String.ofList ((c :: name).map Char.toLower), rest)
    else none
  | _ => none

/-- What stands before the first occurrence of a mark, and what stands behind it if there is one. -/
def cut (mark : Char) (cs : List Char) : List Char × Option (List Char) :=
  match Text.splitFirst? mark cs with
  | some (before, behind) => (before, some behind)
  | none => (cs, none)

def pathKeeps (c : Char) : Bool := !(Percent.alwaysCoded c || " \"#<>?\x60\x7b\x7d".contains c)

def queryKeeps (known : Bool) (c : Char) : Bool :=
  !(Percent.alwaysCoded c || " \"#<>".contains c || (known && c == '\''))

def fragmentKeeps (c : Char) : Bool := !(Percent.alwaysCoded c || " \"<>\x60".contains c)

/-- A segment of a path in which a coded dot counts as a dot. -/
def plainDots : List Char → List Char
  | '%' :: '2' :: 'e' :: rest => '.' :: plainDots rest
  | '%' :: '2' :: 'E' :: rest => '.' :: plainDots rest
  | c :: rest => c :: plainDots rest
  | [] => []

/-- Follows the segments of a path: one dot stays, two dots go up. `up` holds the segments so far, last
first. -/
def follow (up : List (List Char)) : List (List Char) → List (List Char)
  | [] => up.reverse
  | segment :: rest =>
    let plain := plainDots segment
    if plain = ['.', '.'] then follow (if rest.isEmpty then [] :: up.tail else up.tail) rest
    else if plain = ['.'] then follow (if rest.isEmpty then [] :: up else up) rest
    else follow (segment :: up) rest

def segmentsText (segments : List (List Char)) : String :=
  String.ofList ((follow [] segments).flatMap fun s => '/' :: Percent.encode pathKeeps s)

/-- The path behind a host: empty or behind a slash. -/
def pathText (known : Bool) (cs : List Char) : String :=
  let cs := if known then cs.map (fun c => if c = '\\' then '/' else c) else cs
  match cs with
  | [] => if known then "/" else ""
  | '/' :: rest => segmentsText (Text.splitAll '/' rest)
  | _ => segmentsText (Text.splitAll '/' cs)

/-- The port behind a host: the digits, if any, of a number of 16 bits. -/
def port? (scheme : String) (digits : List Char) : Option (Option Nat) := do
  let n ← numberIn? 10 digitValue? digits
  if n < 65536 then
    return if digits.isEmpty ∨ impliedPort? scheme = some n then none else some n
  else none

/-- The text of the host and that of the port behind a colon outside of brackets. -/
def splitPort : List Char → List Char × Option (List Char)
  | '[' :: rest =>
    match Text.splitFirst? ']' rest with
    | some (inside, ':' :: port) => ('[' :: inside ++ [']'], some port)
    | _ => ('[' :: rest, none)
  | cs => cut ':' cs

/-- The host and the port of an authority, whose credentials end at the last at sign. -/
def authority? (scheme : String) (cs : List Char) : Option (Host × Option Nat) := do
  let place := (cs.reverse.takeWhile (· ≠ '@')).reverse
  let (host, port) := splitPort place
  if host.isEmpty then
    if isKnown scheme ∨ port.isSome ∨ place ≠ cs then none else some (.name [], none)
  else
    let host ← if isKnown scheme then Host.known? host else Host.opaque? host
    let port ← port? scheme (port.getD [])
    return (host, port)

def endsAuthority (known : Bool) (c : Char) : Bool := c == '/' || (known && c == '\\')

/-- Authority and path of an address whose scheme has both. -/
def located? (scheme : String) (cs : List Char) : Option (Option Host × Option Nat × String) := do
  let known := isKnown scheme
  let (authority, path) := cs.span (fun c => !endsAuthority known c)
  let (host, port) ← authority? scheme authority
  return (some host, port, pathText known path)

def local? (cs : List Char) : Option (Option Host × Option Nat × String) := do
  let slash (c : Char) : Bool := c == '/' || c == '\\'
  match cs with
  | a :: b :: rest =>
    if slash a && slash b then
      let (authority, path) := rest.span (fun c => !slash c)
      let host ← if authority.isEmpty then some (.name []) else Host.known? authority
      let host := if host = .name "localhost".toList then .name [] else host
      return (some host, none, pathText true path)
    else return (some (.name []), none, pathText true cs)
  | _ => return (some (.name []), none, pathText true cs)

def place? (scheme : String) (cs : List Char) : Option (Option Host × Option Nat × String) :=
  if scheme = "file" then local? cs
  else if isKnown scheme then located? scheme (cs.dropWhile (fun c => c == '/' || c == '\\'))
  else match cs with
    | '/' :: '/' :: rest => located? scheme rest
    | '/' :: _ => some (none, none, pathText false cs)
    | _ => some (none, none, String.ofList (Percent.encode (fun c => !Percent.alwaysCoded c) cs))

def parse? (s : String) : Option Url := do
  let cs := Text.dropEndWhile (· ≤ ' ') (s.toList.dropWhile (· ≤ ' '))
  let cs := cs.filter (fun c => c ≠ '\t' ∧ c ≠ '\n' ∧ c ≠ '\r')
  let (scheme, rest) ← splitScheme? cs
  let (rest, fragment) := cut '#' rest
  let (rest, query) := cut '?' rest
  let (host, port, path) ← place? scheme rest
  return {
    scheme, host, port, path
    query := query.map fun q => String.ofList (Percent.encode (queryKeeps (isKnown scheme)) q)
    fragment := fragment.map fun f => String.ofList (Percent.encode fragmentKeeps f) }

def behind (mark : String) : Option String → String
  | some text => mark ++ text
  | none => ""

def authority (u : Url) : String :=
  match u.host with
  | some host => "//" ++ String.ofList host.chars ++
      behind ":" (u.port.map fun n => String.ofList (decimalDigits n))
  | none => ""

def text (u : Url) : String :=
  u.scheme ++ ":" ++ u.authority ++ u.path ++ behind "?" u.query ++ behind "#" u.fragment

/-- What is asked of the host: the path and the query. -/
def target (u : Url) : String := u.path ++ behind "?" u.query

def hasHost (u : Url) : Bool :=
  match u.host with
  | some (.name name) => !name.isEmpty
  | some _ => true
  | none => false

def maxLength : Nat := 65534

/-- Whether a request can be sent to an address. A few characters may stand in the name of a host but not in
a request. -/
def isSendable (u : Url) : Bool :=
  (u.scheme == "http" || u.scheme == "https") && u.text.utf8ByteSize ≤ maxLength &&
    match u.host with
    | some (.name name) => name.all fun c => !"\"\x60\x7b\x7d".contains c
    | some _ => true
    | none => false

/-- The address with further pairs at the end of its query. A query that stays empty is dropped. -/
def withPairs (u : Url) (pairs : List (String × String)) : Url :=
  { u with query :=
      if pairs.isEmpty then u.query.filter (· ≠ "")
      else match u.query.filter (· ≠ "") with
        | some query => some (query ++ "&" ++ Form.encode pairs)
        | none => some (Form.encode pairs) }

end Url

end ChangeDesk.Http
