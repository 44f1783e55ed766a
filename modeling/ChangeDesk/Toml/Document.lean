import ChangeDesk.Toml.Quoted
import ChangeDesk.Toml.Scalar
import ChangeDesk.Toml.Table

/-!
Reading TOML documents, line by line: a key with its value, the header of a table, or neither, each perhaps
with a comment behind it.
-/
namespace ChangeDesk.Toml

def skipComment : List Char → List Char
  | '#' :: rest => rest.dropWhile isTextChar
  | cs => cs

/-- What follows blanks, comments and line ends. `fuel` bounds the number of comments. -/
def skipSpace : (fuel : Nat) → List Char → List Char
  | 0, cs => skipLines cs
  | fuel + 1, cs =>
    match skipLines cs with
    | '#' :: rest => skipSpace fuel (skipComment ('#' :: rest))
    | cs => cs

def isKeyChar (c : Char) : Bool := c.isAlphanum || c == '_' || c == '-'

def simpleKey? : List Char → Option (String × List Char)
  | '"' :: rest => (basic? [] rest).map fun (key, rest) => (String.ofList key, rest)
  | '\'' :: rest => (literal? [] rest).map fun (key, rest) => (String.ofList key, rest)
  | cs =>
    let (key, rest) := cs.span isKeyChar
    if key.isEmpty then none else some (String.ofList key, rest)

/-- Keys with dots between them, and what stands behind them and the blanks after them. `fuel` bounds their
number. -/
def keys? : (fuel : Nat) → List Char → Option (List String × List Char)
  | 0, _ => none
  | fuel + 1, cs => do
    let (key, rest) ← simpleKey? (skipBlanks cs)
    match skipBlanks rest with
    | '.' :: rest =>
      let (keys, rest) ← keys? fuel rest
      return (key :: keys, rest)
    | rest => return ([key], rest)

mutual

/-- A value, and what stands behind it. `fuel` bounds the nesting and the number of items. -/
def value? : (fuel : Nat) → List Char → Option (Toml × List Char)
  | 0, _ => none
  | fuel + 1, cs =>
    match cs with
    | '[' :: rest => (items? fuel rest).map fun (items, rest) => (.array items, rest)
    | '\x7b' :: rest =>
      match skipBlanks rest with
      | '\x7d' :: rest => some (.table .closed [], rest)
      | rest => (members? fuel [] rest).map fun (members, rest) => (.table .closed members, rest)
    | '"' :: _ => (quoted? cs).map fun (s, rest) => (.text (String.ofList s), rest)
    | '\'' :: _ => (quoted? cs).map fun (s, rest) => (.text (String.ofList s), rest)
    | _ =>
      let (word, rest) := word cs
      (scalarValue? word).map fun v => (v, rest)

def items? : (fuel : Nat) → List Char → Option (List Toml × List Char)
  | 0, _ => none
  | fuel + 1, cs =>
    match skipSpace cs.length cs with
    | ']' :: rest => some ([], rest)
    | cs => do
      let (item, rest) ← value? fuel cs
      match skipSpace rest.length rest with
      | ',' :: rest =>
        let (items, rest) ← items? fuel rest
        return (item :: items, rest)
      | ']' :: rest => return ([item], rest)
      | _ => none

/-- The members of a table between braces, added to those before them, up to the closing brace. -/
def members? : (fuel : Nat) → Members → List Char → Option (Members × List Char)
  | 0, _, _ => none
  | fuel + 1, members, cs => do
    let (keys, rest) ← keys? cs.length cs
    match rest with
    | '=' :: rest =>
      let (value, rest) ← value? fuel (skipBlanks rest)
      let members ← put? value keys members
      match skipBlanks rest with
      | ',' :: rest => members? fuel members rest
      | '\x7d' :: rest => return (members, rest)
      | _ => none
    | _ => none

end

/-- What follows the rest of a line: blanks, perhaps a comment, and the line end or the end of all. -/
def endOfLine? (cs : List Char) : Option (List Char) :=
  match skipComment (skipBlanks cs) with
  | [] => some []
  | cs => lineEnd? cs

/-- A document as far as it is read: the open header, and all members. -/
structure Reading where
  header : List String
  members : Members

def line? (doc : Reading) (cs : List Char) : Option (Reading × List Char) :=
  match skipBlanks cs with
  | '[' :: '[' :: rest => do
    let (keys, rest) ← keys? rest.length rest
    match rest with
    | ']' :: ']' :: rest =>
      let members ← addTable? keys doc.members
      return (⟨keys, members⟩, ← endOfLine? rest)
    | _ => none
  | '[' :: rest => do
    let (keys, rest) ← keys? rest.length rest
    match rest with
    | ']' :: rest =>
      let members ← openTable? keys doc.members
      return (⟨keys, members⟩, ← endOfLine? rest)
    | _ => none
  | cs =>
    match endOfLine? cs with
    | some rest => some (doc, rest)
    | none => do
      let (keys, rest) ← keys? cs.length cs
      match rest with
      | '=' :: rest =>
        let (value, rest) ← value? (rest.length + 1) (skipBlanks rest)
        let members ← putWithin? value keys doc.header doc.members
        return ({ doc with members }, ← endOfLine? rest)
      | _ => none

/-- All lines. `fuel` bounds their number. -/
def lines? : (fuel : Nat) → Reading → List Char → Option Members
  | _, doc, [] => some doc.members
  | 0, _, _ => none
  | fuel + 1, doc, cs => do
    let (doc, rest) ← line? doc cs
    lines? fuel doc rest

/-- Reads a document. A byte order mark may stand before it. -/
def parse? (s : String) : Option Toml :=
  let cs := match s.toList with
    | '\uFEFF' :: rest => rest
    | cs => cs
  (lines? cs.length ⟨[], []⟩ cs).map (.table .header)

end ChangeDesk.Toml
